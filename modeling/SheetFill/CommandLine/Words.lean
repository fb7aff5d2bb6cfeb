import SheetFill.Text.Digit
import SheetFill.Text.Quoted

/-!
# Words of a command line

Whether a word is an argument, the separator behind which all words are arguments, or an option. A
long option may be cut short as long as it is clear which one is meant, and a value may be attached
to an option.
-/
namespace SheetFill.CommandLine

inductive Takes where
  /-- No argument: the option asks for help and ends the reading of the words. -/
  | help
  | one
  | many
  deriving DecidableEq, Repr

structure Flag where
  names : List String
  takes : Takes
  deriving DecidableEq, Repr

def Flag.title (f : Flag) : String := "/".intercalate f.names

inductive WordKind where
  | argument
  | separator
  /-- The option `flag` under one of its names, with a value if one is attached. -/
  | flag (flag : Flag) (name : List Char) (attached : Option (List Char))
  | unknownFlag
  deriving DecidableEq, Repr

/-- The options of a list by their names, in the order of the list. -/
def namedFlags (flags : List Flag) : List (List Char × Flag) :=
  flags.flatMap (fun f => f.names.map (fun name => (name.toList, f)))

/-- A word split at its first equals sign, if it has one. -/
def splitEquals (word : List Char) : List Char × Option (List Char) :=
  let name := word.takeWhile (· != '=')
  match word.drop name.length with
  | [] => (name, none)
  | _ :: value => (name, some value)

/-- The options that a word can stand for, none of which has the word as its full name. -/
def candidates (flags : List Flag) (word : List Char) : List (List Char × WordKind) :=
  match word with
  | '-' :: '-' :: _ =>
    let (start, attached) := splitEquals word
    (namedFlags flags).filterMap fun (name, f) =>
      if start.isPrefixOf name then some (name, .flag f name attached) else none
  | _ =>
    (namedFlags flags).filterMap fun (name, f) =>
      if name == word.take 2 then some (name, .flag f name (some (word.drop 2))) else none

/-- Whether a word is a negative number in the digits of any script, which is no option. A line feed
behind it is no matter. -/
def isNegativeNumber (word : List Char) : Bool :=
  let word := if word.getLast? == some '\n' then word.dropLast else word
  match word with
  | '-' :: body =>
    let whole := body.takeWhile Text.isDigit
    match body.drop whole.length with
    | [] => !whole.isEmpty
    | '.' :: places => !places.isEmpty && places.all Text.isDigit
    | _ => false
  | _ => false

/-- What a word with a dash in front is; all options that it could stand for if it is not clear
which one is meant. -/
def dashedKind (flags : List Flag) (word : List Char) : Except (List (List Char)) WordKind :=
  match (namedFlags flags).lookup word with
  | some f => .ok (.flag f word none)
  | none =>
    let (start, attached) := splitEquals word
    match attached, (namedFlags flags).lookup start with
    | some a, some f => .ok (.flag f start (some a))
    | _, _ =>
      match candidates flags word with
      | [(_, kind)] => .ok kind
      | [] =>
        if isNegativeNumber word || word.contains ' ' then .ok .argument else .ok .unknownFlag
      | several => .error (several.map (·.1))

/-- What a word is that no separator precedes. -/
def wordKind (flags : List Flag) (word : List Char) : Except (List (List Char)) WordKind :=
  match word with
  | '-' :: _ :: _ => if word == ['-', '-'] then .ok .separator else dashedKind flags word
  | _ => .ok .argument

end SheetFill.CommandLine
