import SheetFill.Text.Case
import SheetFill.Value.Text

/-!
# Log

What a run reports: entries with a weight and a source, and the threshold below which entries are
left out. A threshold is given by name.
-/
namespace SheetFill

namespace Log

inductive Level where
  | info
  | warning
  | error
  deriving DecidableEq, Repr

def Level.weight : Level → Nat
  | .info => 20
  | .warning => 30
  | .error => 40

def Level.name : Level → String
  | .info => "INFO"
  | .warning => "WARNING"
  | .error => "ERROR"

inductive Source where
  | model
  | workbook
  | command
  deriving DecidableEq, Repr

def Source.name : Source → String
  | .model => "excel_template.loader"
  | .workbook => "excel_template.renderer"
  | .command => "excel_template.main"

structure Entry where
  level : Level
  source : Source
  text : String
  deriving DecidableEq, Repr

def Entry.line (e : Entry) : String :=
  "[" ++ e.level.name ++ "] " ++ e.source.name ++ ": " ++ e.text

def filter (threshold : Nat) (entries : List Entry) : List Entry :=
  entries.filter (fun e => threshold ≤ e.level.weight)

def defaultThreshold : Nat := 30

inductive ThresholdError where
  | noText (kind : String)
  | octets
  /-- The name is that of a setting which is a text itself. -/
  | unknownLevel (text : String)
  /-- The name is that of a setting which is neither a number nor a text. -/
  | noNumber (shown : String)
  deriving DecidableEq, Repr

def ThresholdError.message : ThresholdError → String
  | .noText kind => "'" ++ kind ++ "' object has no attribute 'upper'"
  | .octets => "attribute name must be string, not 'bytes'"
  | .unknownLevel text => "Unknown level: " ++ Text.quoted text
  | .noNumber shown => "Level not an integer or a valid string: " ++ shown

def thresholds : List (String × Nat) :=
  [("NOTSET", 0), ("DEBUG", 10), ("INFO", 20), ("WARN", 30), ("WARNING", 30), ("ERROR", 40),
    ("CRITICAL", 50), ("FATAL", 50)]

def plainLayout : String := "%(levelname)s:%(name)s:%(message)s"

/-- The styles in which a layout can be written, as messages show them. -/
def shownStyles : String :=
  "\x7b'%': (<class 'logging.PercentStyle'>, '" ++ plainLayout ++
    "'), '\x7b': (<class 'logging.StrFormatStyle'>, '" ++
    "\x7blevelname\x7d:\x7bname\x7d:\x7bmessage\x7d" ++
    "'), '$': (<class 'logging.StringTemplateStyle'>, '" ++
    "$\x7blevelname\x7d:$\x7bname\x7d:$\x7bmessage\x7d" ++ "')\x7d"

/-- The threshold of a name in letters of any case. A name that is none stands for `INFO`. -/
def thresholdNamed (name : Text) : Except ThresholdError Nat :=
  let capitals := Text.upper (String.ofList name.chars)
  if capitals == "BASIC_FORMAT" then .error (.unknownLevel plainLayout)
  else if capitals == "_STYLES" then .error (.noNumber shownStyles)
  else .ok ((thresholds.lookup capitals).getD Level.info.weight)

def threshold : Value → Except ThresholdError Nat
  | .text name => thresholdNamed name
  | .bytes _ => .error .octets
  | v => .error (.noText v.kindName)

end Log

end SheetFill
