import SheetFill.Decimal.Layout

/-!
# Calendar

Dates of the proleptic Gregorian calendar from year 1 to 9999, times of day with microseconds and
an optional distance from universal time, and durations.
-/
namespace SheetFill.Calendar

structure Date where
  year : Nat
  month : Nat
  day : Nat
  deriving DecidableEq, Repr

/-- A time of day. `offset` is its distance from universal time in seconds, if it has one. -/
structure Time where
  hour : Nat
  minute : Nat
  second : Nat
  micro : Nat
  offset : Option Int
  deriving DecidableEq, Repr

def Time.midnight : Time := ⟨0, 0, 0, 0, none⟩

def Time.last : Time := ⟨23, 59, 59, 999999, none⟩

structure DateTime where
  date : Date
  time : Time
  deriving DecidableEq, Repr

structure Duration where
  micros : Int
  deriving DecidableEq, Repr

inductive Error
  | year (y : Nat)
  | month
  | day
  | hour
  | minute
  | second
  | offset (d : Duration)
  deriving DecidableEq, Repr

def isLeap (y : Nat) : Bool :=
  y % 4 == 0 && (y % 100 != 0 || y % 400 == 0)

def daysInMonth (y m : Nat) : Nat :=
  match m with
  | 2 => if isLeap y then 29 else 28
  | 4 | 6 | 9 | 11 => 30
  | _ => 31

/-- The first thing wrong with a date, from the year down to the day. -/
def Date.fault? (d : Date) : Option Error :=
  if d.year < 1 || 9999 < d.year then some (.year d.year)
  else if d.month < 1 || 12 < d.month then some .month
  else if d.day < 1 || daysInMonth d.year d.month < d.day then some .day
  else none

def Time.fault? (t : Time) : Option Error :=
  if 23 < t.hour then some .hour
  else if 59 < t.minute then some .minute
  else if 59 < t.second then some .second
  else none

def DateTime.fault? (t : DateTime) : Option Error :=
  match t.date.fault? with
  | some e => some e
  | none => t.time.fault?

/-- A distance from universal time stays below one day in either direction. -/
def offsetFault? (seconds : Int) : Option Error :=
  if seconds.natAbs < 86400 then none else some (.offset ⟨seconds * 1000000⟩)

def daysBeforeYear (y : Nat) : Nat :=
  let p := y - 1
  p * 365 + p / 4 - p / 100 + p / 400

def daysBeforeMonth (y m : Nat) : Nat :=
  (List.range (m - 1)).foldl (fun n i => n + daysInMonth y (i + 1)) 0

/-- The first day of year 1 has the number 1. -/
def Date.number (d : Date) : Nat :=
  daysBeforeYear d.year + daysBeforeMonth d.year d.month + d.day

/-- The month and the day that come `rest` days after the end of month `m - 1`. -/
def monthAndDay (y : Nat) : (months m rest : Nat) → Nat × Nat
  | 0, m, rest => (m, rest)
  | months + 1, m, rest =>
    let n := daysInMonth y m
    if rest ≤ n then (m, rest) else monthAndDay y months (m + 1) (rest - n)

def Date.ofNumber? (n : Int) : Option Date :=
  if n < 1 || 3652059 < n then none
  else
    let n := n.toNat
    -- a first guess at the year, at most one too low
    let guess := (n * 400 - 1) / 146097
    let year := ([guess + 2, guess + 1, guess].find? (fun y => daysBeforeYear y < n)).getD 1
    let (month, day) := monthAndDay year 11 1 (n - daysBeforeYear year)
    some ⟨year, month, day⟩

def Time.micros (t : Time) : Int :=
  ((t.hour * 60 + t.minute) * 60 + t.second) * 1000000 + t.micro

/-- Microseconds from the day before year 1, in universal time if the time has an offset. -/
def DateTime.instant (t : DateTime) : Int :=
  t.date.number * 86400000000 + t.time.micros - (t.time.offset.getD 0) * 1000000

/-- Two times name the same moment. One with an offset is never the same as one without. -/
def DateTime.same (a b : DateTime) : Bool :=
  a.time.offset.isSome == b.time.offset.isSome && a.instant == b.instant

def Time.same (a b : Time) : Bool :=
  a.offset.isSome == b.offset.isSome &&
    a.micros - a.offset.getD 0 * 1000000 == b.micros - b.offset.getD 0 * 1000000

/-- Days, seconds and microseconds, of which only the days may be negative. -/
def Duration.parts (d : Duration) : Int × Nat × Nat :=
  let days := d.micros.fdiv 86400000000
  let rest := (d.micros - days * 86400000000).toNat
  (days, rest / 1000000, rest % 1000000)

end SheetFill.Calendar
