import SheetFill.Calendar.Basic

/-!
# Dates and times as text

The standard form `2024-01-31T10:20:30+02:00`, written and read, and the form that messages use.
-/
namespace SheetFill.Calendar

def padded (width n : Nat) : String :=
  let digits := toString n
  String.ofList (List.replicate (width - digits.length) '0') ++ digits

def Date.iso (d : Date) : String :=
  padded 4 d.year ++ "-" ++ padded 2 d.month ++ "-" ++ padded 2 d.day

/-- Seconds are left out of an offset of whole minutes. -/
def offsetIso (seconds : Int) : String :=
  let n := seconds.natAbs
  (if seconds < 0 then "-" else "+") ++ padded 2 (n / 3600) ++ ":" ++ padded 2 (n / 60 % 60) ++
    (if n % 60 == 0 then "" else ":" ++ padded 2 (n % 60))

def Time.iso (t : Time) : String :=
  padded 2 t.hour ++ ":" ++ padded 2 t.minute ++ ":" ++ padded 2 t.second ++
    (if t.micro == 0 then "" else "." ++ padded 6 t.micro) ++
    (match t.offset with
      | some o => offsetIso o
      | none => "")

def DateTime.iso (t : DateTime) : String :=
  t.date.iso ++ "T" ++ t.time.iso

def number? (cs : List Char) : Option Nat :=
  if cs.isEmpty || !cs.all Char.isDigit then none
  else some (cs.foldl (fun n c => n * 10 + (c.toNat - '0'.toNat)) 0)

def splitOn (sep : Char) : List Char → List (List Char)
  | [] => [[]]
  | c :: rest =>
    if c == sep then [] :: splitOn sep rest
    else
      match splitOn sep rest with
      | [] => [[c]]
      | first :: more => (c :: first) :: more

def Date.ofIso? (s : String) : Option Date := do
  match splitOn '-' s.toList with
  | [y, m, d] => some ⟨← number? y, ← number? m, ← number? d⟩
  | _ => none

def clock? (cs : List Char) : Option Nat := do
  match splitOn ':' cs with
  | [h, m] => some ((← number? h) * 3600 + (← number? m) * 60)
  | [h, m, s] => some ((← number? h) * 3600 + (← number? m) * 60 + (← number? s))
  | _ => none

def Time.ofIso? (s : String) : Option Time := do
  let cs := s.toList
  let body := cs.takeWhile (fun c => c != '+' && c != '-')
  let zone := cs.dropWhile (fun c => c != '+' && c != '-')
  let offset ← match zone with
    | [] => some none
    | sign :: rest => do
      let n ← clock? rest
      some (some (if sign == '-' then -(n : Int) else n))
  let whole := body.takeWhile (· != '.')
  let places := (body.dropWhile (· != '.')).drop 1
  let n ← clock? whole
  let micro ← if places.isEmpty then some 0
    else number? (places ++ List.replicate (6 - places.length) '0')
  some ⟨n / 3600, n / 60 % 60, n % 60, micro, offset⟩

def DateTime.ofIso? (s : String) : Option DateTime := do
  let cs := s.toList
  let date ← Date.ofIso? (String.ofList (cs.takeWhile (· != 'T')))
  let time ← Time.ofIso? (String.ofList ((cs.dropWhile (· != 'T')).drop 1))
  some ⟨date, time⟩

/-- A named constructor call, as messages show a value that has no literal. -/
def call (name : String) (arguments : List String) : String :=
  "datetime." ++ name ++ "(" ++ ", ".intercalate arguments ++ ")"

def Date.shown (d : Date) : String :=
  call "date" [toString d.year, toString d.month, toString d.day]

/-- Parts that are zero are left out. -/
def Duration.shown (d : Duration) : String :=
  let (days, seconds, micro) := d.parts
  let parts :=
    (if days == 0 then [] else ["days=" ++ toString days]) ++
    (if seconds == 0 then [] else ["seconds=" ++ toString seconds]) ++
    (if micro == 0 then [] else ["microseconds=" ++ toString micro])
  call "timedelta" (if parts.isEmpty then ["0"] else parts)

def Duration.clock (d : Duration) : String :=
  let (days, seconds, micro) := d.parts
  (if days == 0 then ""
    else toString days ++ (if days.natAbs == 1 then " day, " else " days, ")) ++
    toString (seconds / 3600) ++ ":" ++ padded 2 (seconds / 60 % 60) ++ ":" ++
    padded 2 (seconds % 60) ++ (if micro == 0 then "" else "." ++ padded 6 micro)

def zoneShown (seconds : Int) : String :=
  if seconds == 0 then "datetime.timezone.utc"
  else call "timezone" [(Duration.mk (seconds * 1000000)).shown]

/-- Hours and minutes always, seconds and microseconds as far as needed. -/
def Time.shownParts (t : Time) : List String :=
  [toString t.hour, toString t.minute] ++
    (if t.second == 0 && t.micro == 0 then [] else [toString t.second]) ++
    (if t.micro == 0 then [] else [toString t.micro]) ++
    (match t.offset with
      | some o => ["tzinfo=" ++ zoneShown o]
      | none => [])

def Time.shown (t : Time) : String :=
  call "time" t.shownParts

def DateTime.shown (t : DateTime) : String :=
  call "datetime"
    ([toString t.date.year, toString t.date.month, toString t.date.day] ++ t.time.shownParts)

def Error.message : Error → String
  | .year y => "year " ++ toString y ++ " is out of range"
  | .month => "month must be in 1..12"
  | .day => "day is out of range for month"
  | .hour => "hour must be in 0..23"
  | .minute => "minute must be in 0..59"
  | .second => "second must be in 0..59"
  | .offset d => "offset must be a timedelta strictly between -timedelta(hours=24) and " ++
      "timedelta(hours=24), not " ++ d.shown ++ "."

end SheetFill.Calendar
