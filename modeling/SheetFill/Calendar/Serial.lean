import SheetFill.Calendar.Basic
import SheetFill.Decimal.Reading

/-!
# Serial numbers

A workbook stores dates and times as numbers: whole days from the end of 1899 on, with the time of
day as a fraction. Day 60 of the count never was, so that dates up to the end of February 1900 are
one lower than their distance from the first day.
-/
namespace SheetFill.Calendar

def serialOrigin : Date := ⟨1899, 12, 30⟩

def secondsPerDay : Nat := 86400

def Date.serialDay (d : Date) : Int :=
  let days : Int := (d.number : Int) - serialOrigin.number
  if 0 < days && days ≤ 60 then days - 1 else days

def Time.serial (t : Time) : Binary64 :=
  let seconds : Nat := (t.hour * 60 + t.minute) * 60 + t.second
  (Binary64.ofInt seconds + Decimal.nearest false t.micro (-6)).divNat secondsPerDay

def Date.serial (d : Date) : Binary64 := .ofInt d.serialDay

def DateTime.serial (t : DateTime) : Binary64 :=
  t.date.serial + t.time.serial

/-- Seconds, with the microseconds as decimal places. -/
def Duration.seconds (d : Duration) : Binary64 :=
  Decimal.nearest (d.micros < 0) d.micros.natAbs (-6)

def Duration.serial (d : Duration) : Binary64 :=
  d.seconds.divNat secondsPerDay

/-- A serial number split into whole days and the rest in milliseconds, which can reach a whole
day. -/
structure Serial where
  day : Int
  millis : Nat
  deriving DecidableEq, Repr

def Serial.ofInt (n : Int) : Serial := ⟨n, 0⟩

/-- A finite number is split at the greatest whole number that is not above it. -/
def Serial.ofReal? (x : Binary64) : Option Serial :=
  match x with
  | .finite b =>
    let day := b.floor
    match (x - .ofInt day) * .ofInt secondsPerDay * .ofInt 1000 with
    | .finite millis => some ⟨day, millis.round.toNat⟩
    | _ => none
  | _ => none

def millisPerDay : Nat := secondsPerDay * 1000

def timeOfMillis (n : Nat) : Time :=
  ⟨n / 3600000, n / 60000 % 60, n / 1000 % 60, n % 1000 * 1000, none⟩

/-- What a serial number stands for: below one a time of day, otherwise a date with a time, unless
that lies outside of the calendar. -/
inductive Moment where
  | time (t : Time)
  | dateTime (t : DateTime)
  deriving DecidableEq, Repr

def Serial.moment? (s : Serial) : Option Moment :=
  if s.day == 0 && s.millis < millisPerDay then some (.time (timeOfMillis s.millis))
  else
    let day := if 0 ≤ s.day && s.day < 60 then s.day + 1 else s.day
    let number : Int := serialOrigin.number + day
    match Date.ofNumber? number with
    | none => none
    | some _ =>
      (Date.ofNumber? (number + s.millis / millisPerDay)).map fun d =>
        .dateTime ⟨d, timeOfMillis (s.millis % millisPerDay)⟩

def maxDurationDays : Nat := 999999999

def Duration.fault? (d : Duration) : Bool :=
  maxDurationDays < d.parts.1.natAbs

def Duration.ofDays? (x : Binary64) : Option Duration :=
  match x with
  | .finite b =>
    let whole := b.truncate
    match (x - .ofInt whole) * .ofInt (secondsPerDay * 1000000 : Nat) with
    | .finite micros => some ⟨whole * (secondsPerDay * 1000000 : Nat) + micros.round⟩
    | _ => none
  | _ => none

/-- The duration rounded to milliseconds, unless it is whole seconds; a half goes to the even
neighbour. The whole seconds are those below the seconds as a floating-point number, so that long
durations can move up to the next second. -/
def Duration.toMillis (d : Duration) : Duration :=
  let micro := (d.micros % 1000000).toNat
  if micro == 0 then d
  else
    let whole :=
      match d.seconds with
      | .finite b => b.floor
      | _ => 0
    ⟨whole * 1000000 + (Decimal.quotientToEven micro 1000 * 1000 : Nat)⟩

/-- The duration that a serial number in a duration format stands for, unless it is too long. -/
def Duration.ofSerial? (n : Int ⊕ Binary64) : Option Duration := do
  let d : Duration ←
    match n with
    | .inl n => some ⟨n * (secondsPerDay * 1000000 : Nat)⟩
    | .inr x => Duration.ofDays? x
  if d.fault? || d.toMillis.fault? then none else some d.toMillis

end SheetFill.Calendar
