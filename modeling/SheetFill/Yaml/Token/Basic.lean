import SheetFill.Text.Basic
import SheetFill.Yaml.Input

/-!
# Tokens of YAML

The tokens of a YAML text, and the state in which it is cut into them: what is left of the text and
where, how deep the brackets are, how far the open blocks are indented, and which tokens may yet
turn out to begin a key. Such a token is remembered, and the key mark is put in front of it when its
colon is found.
-/
namespace SheetFill.Yaml

inductive Token where
  /-- A directive with the major version of YAML that the text is written in. -/
  | version (major : Nat)
  /-- A directive with the meaning of a tag handle. -/
  | tagHandle (handle meaning : List Char)
  | otherDirective
  | documentStart
  | documentEnd
  | blockSequenceStart
  | blockMappingStart
  | blockEnd
  | flowSequenceStart
  | flowSequenceEnd
  | flowMappingStart
  | flowMappingEnd
  | blockEntry
  | flowEntry
  | key
  | value
  | alias (name : List Char)
  | anchor (name : List Char)
  | tag (handle : Option (List Char)) (suffix : List Char)
  | scalar (text : Text) (isPlain : Bool)
  | streamEnd
  deriving DecidableEq, Repr

/-- A token that may begin a key, by its number among all tokens and its place in the text. At the
indentation of a block it must. -/
structure PossibleKey where
  level : Nat
  number : Nat
  required : Bool
  index : Nat
  line : Nat
  column : Nat
  deriving DecidableEq, Repr

structure Scanner where
  rest : List Char
  /-- What is noticed where the text is looked at behind `rest`. -/
  fault : Option TokenError
  /-- The number of characters of the whole text, which bounds all loops over it. -/
  size : Nat
  index : Nat
  line : Nat
  column : Nat
  level : Nat
  /-- The column of the innermost block, or -1 outside all blocks. -/
  indent : Int
  outerIndents : List Int
  keyAllowed : Bool
  possibleKeys : List PossibleKey
  tokens : Array Token
  /-- How many of the tokens can no longer turn out to begin a key. Only they can be used before the
  next token is taken. -/
  settled : Nat

/-- A step of the scanner; the tokens taken before it fails are kept. -/
abbrev Scan := EStateM TokenError Scanner

namespace Scanner

def start (input : Input) : Scanner :=
  ⟨input.text, input.fault, input.text.length, 0, 0, 0, 0, -1, [], true, [], #[], 0⟩

def malformed {α : Type} : Scan α := throw .malformed

/-- Looks behind the characters that are left, where nothing is but perhaps a fault. -/
def lookBehind : Scan Unit := do
  match (← get).fault with
  | some e => throw e
  | none => pure ()

/-- A number of steps that is enough for every loop over the text. -/
def steps : Scan Nat := do
  return (← get).size + 1

def peek (n : Nat) : Scan (Option Char) := do
  match (← get).rest[n]? with
  | some c => return some c
  | none =>
    lookBehind
    return none

/-- Passes over one character. A byte order mark has no width. -/
def step (s : Scanner) : Scanner :=
  match s.rest with
  | [] => s
  | c :: rest =>
    let s := { s with rest, index := s.index + 1 }
    if isBreak c && !(c == '\r' && rest.head? == some '\n') then
      { s with line := s.line + 1, column := 0 }
    else if c == byteOrderMark then s
    else { s with column := s.column + 1 }

def advance : Nat → Scanner → Scanner
  | 0, s => s
  | n + 1, s => advance n s.step

def forward (n : Nat) : Scan Unit := do
  if ((← get).rest.drop n).isEmpty then lookBehind
  modify (advance n)

def takeWhile (p : Char → Bool) : Scan (List Char) := do
  let taken := (← get).rest.takeWhile p
  forward taken.length
  return taken

def skipSpaces : Scan Unit := do
  let _ ← takeWhile (· == ' ')

def isCommentChar (c : Char) : Bool := !isBreak c

def skipComment : Scan Unit := do
  if (← peek 0) == some '#' then
    let _ ← takeWhile isCommentChar

/-- Takes a line break, if there is one: it counts as a line feed unless it is a separator of its
own. -/
def lineBreak : Scan (Option Char) := do
  match ← peek 0 with
  | none => return none
  | some c =>
    if !isBreak c then return none
    else
      forward (if c == '\r' && (← peek 1) == some '\n' then 2 else 1)
      return some (if c.toNat == 0x2028 || c.toNat == 0x2029 then c else '\n')

/-- Whether a document ends or begins here: three hyphens or dots that stand alone. -/
def atDocumentMark : Scan Bool := do
  let mark := (← get).rest.take 3
  if mark.length < 3 then lookBehind
  if mark == ['-', '-', '-'] || mark == ['.', '.', '.'] then return isBlankOrEnd (← peek 3)
  else return false

def emit (t : Token) : Scan Unit :=
  modify (fun s => { s with tokens := s.tokens.push t })

/-- Puts a token before the token number `n`. -/
def emitAt (n : Nat) (t : Token) : Scan Unit :=
  modify (fun s => { s with tokens := s.tokens.insertIdxIfInBounds n t })

def allowKey (b : Bool) : Scan Unit :=
  modify (fun s => { s with keyAllowed := b })

/-- A possible key is given up when its line ends or it is too long for a key. -/
def dropStaleKeys : Scan Unit := do
  let s ← get
  let isStale (k : PossibleKey) : Bool := k.line != s.line || s.index - k.index > 1024
  if s.possibleKeys.any (fun k => isStale k && k.required) then malformed
  set { s with possibleKeys := s.possibleKeys.filter (fun k => !isStale k) }

/-- Counts the settled tokens, which are those before the first possible key. -/
def settle : Scan Unit := do
  dropStaleKeys
  modify fun s =>
    { s with settled := s.possibleKeys.foldl (fun n k => min n k.number) s.tokens.size }

def dropKey : Scan Unit := do
  let s ← get
  if s.possibleKeys.any (fun k => k.level == s.level && k.required) then malformed
  set { s with possibleKeys := s.possibleKeys.filter (fun k => k.level != s.level) }

/-- Remembers that the next token may begin a key. -/
def saveKey : Scan Unit := do
  let s ← get
  if s.keyAllowed then
    dropKey
    let required := s.level == 0 && s.indent == s.column
    modify (fun s => { s with possibleKeys :=
      ⟨s.level, s.tokens.size, required, s.index, s.line, s.column⟩ :: s.possibleKeys })

/-- Closes the blocks that are indented further than `column`. -/
def closeBlocks (column : Int) : (outers : List Int) → Scan Unit
  | [] => pure ()
  | outer :: more => do
    let s ← get
    if s.level == 0 && column < s.indent then
      set { s with indent := outer, outerIndents := more }
      emit .blockEnd
      closeBlocks column more

def unwind (column : Int) : Scan Unit := do
  closeBlocks column (← get).outerIndents

/-- Opens a block at a column if it is indented further than the present one. -/
def openBlock (column : Nat) : Scan Bool := do
  let s ← get
  if s.indent < column then
    set { s with indent := column, outerIndents := s.indent :: s.outerIndents }
    return true
  else return false

end Scanner

end SheetFill.Yaml
