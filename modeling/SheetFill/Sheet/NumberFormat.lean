/-!
# Number formats

Which number formats show a number as a date or a time, and which as a length of time. Only the part
of a format before the first semicolon counts.
-/
namespace SheetFill.NumberFormat

/-- Shown for a date, a date with a time, a time and a duration where the format of the cell shows
no date. -/
def dateFormat : String := "yyyy-mm-dd"

def dateTimeFormat : String := "yyyy-mm-dd h:mm:ss"

def timeFormat : String := "h:mm:ss"

def durationFormat : String := "[hh]:mm:ss"

def firstPart (format : String) : List Char :=
  format.toList.takeWhile (· != ';')

def counts : List (List Char) :=
  ["[h]", "[hh]", "[m]", "[mm]", "[s]", "[ss]"].map String.toList

/-- The rest after the first `stop`, if one comes before the end and, for a quoted text, before the
end of the line. -/
def after? (stop : Char) (withinLine : Bool) : List Char → Option (List Char)
  | [] => none
  | c :: rest =>
    if c == stop then some rest
    else if withinLine && c == '\n' then none
    else after? stop withinLine rest

/-- Leaves out quoted texts and bracketed groups other than counts, from where `skip` further
characters are passed over. -/
def strip (skip : Nat) : List Char → List Char
  | [] => []
  | c :: rest =>
    match skip with
    | k + 1 => strip k rest
    | 0 =>
      let group :=
        if c == '"' then after? '"' true rest
        else if c == '[' && !counts.any (·.isPrefixOf (c :: rest)) then after? ']' false rest
        else none
      match group with
      | some tail => strip (rest.length - tail.length) rest
      | none => c :: strip 0 rest

def isDateLetter (c : Char) : Bool :=
  ['d', 'm', 'h', 'y', 's', 'D', 'M', 'H', 'Y', 'S'].contains c

/-- Whether a date letter occurs that no underscore or backslash precedes. -/
def hasDateLetter (before : Char) : List Char → Bool
  | [] => false
  | c :: rest =>
    (isDateLetter c && before != '_' && before != '\\') || hasDateLetter c rest

def showsDate (format : String) : Bool :=
  hasDateLetter ' ' (strip 0 (firstPart format))

def occurs (part : List Char) : List Char → Bool
  | [] => part.isEmpty
  | c :: rest => part.isPrefixOf (c :: rest) || occurs part rest

/-- The small letter that a letter of a count stands for; the long `ſ` is an `s`. -/
def countLetter (c : Char) : Char :=
  if c == 'ſ' then 's' else c.toLower

/-- Whether the format shows a length of time. -/
def showsDuration (format : String) : Bool :=
  let part := (firstPart format).map countLetter
  counts.any (fun count => occurs count part)

end SheetFill.NumberFormat
