import SheetFill.Yaml.Token.Basic
import SheetFill.Json.Reader

/-!
# Scalars of YAML

The text of a scalar in each of its notations: plain, in quotes, and as an indented block. Lines are
folded into one unless the notation keeps them.
-/
namespace SheetFill.Yaml.Scanner

/-! ## Quoted scalars -/

def escapes : List (Char × Char) :=
  [('0', '\x00'), ('a', '\x07'), ('b', '\x08'), ('t', '\t'), ('\t', '\t'), ('n', '\n'),
    ('v', '\x0b'), ('f', '\x0c'), ('r', '\r'), ('e', '\x1b'), (' ', ' '), ('"', '"'), ('\\', '\\'),
    ('/', '/'), ('N', Char.ofNat 0x85), ('_', Char.ofNat 0xA0), ('L', Char.ofNat 0x2028),
    ('P', Char.ofNat 0x2029)]

def escapeDigits? (c : Char) : Option Nat :=
  match c with
  | 'x' => some 2
  | 'u' => some 4
  | 'U' => some 8
  | _ => none

/-- The number that the next `count` hexadecimal digits stand for, behind `place` others whose
number is `n`. -/
def hexNumber (place n : Nat) : (count : Nat) → Scan Nat
  | 0 => return n
  | count + 1 => do
    match (← peek place).bind Json.hexValue? with
    | some digit => hexNumber (place + 1) (n * 16 + digit) count
    | none => malformed

/-- The line breaks behind a first one in quotes, with the spaces around them. No document may end
or begin here. -/
def quotedBreaks : (fuel : Nat) → List Char → Scan (List Char)
  | 0, done => return done
  | fuel + 1, done => do
    if ← atDocumentMark then malformed
    let _ ← takeWhile (fun c => c == ' ' || c == '\t')
    match ← lineBreak with
    | some c => quotedBreaks fuel (done ++ [c])
    | none => return done

/-- The space between the words of a quoted scalar. A single line break is a space. -/
def quotedSpaces : Scan (List Char) := do
  let spaces ← takeWhile (fun c => c == ' ' || c == '\t')
  match ← peek 0 with
  | none => malformed
  | some c =>
    if isBreak c then
      let first ← lineBreak
      let more ← quotedBreaks (← steps) []
      if first != some '\n' then return first.toList ++ more
      else if more.isEmpty then return [' ']
      else return more
    else return spaces

def isQuotedWordChar (c : Char) : Bool :=
  !(c == '\'' || c == '"' || c == '\\' || c == ' ' || c == '\t' || isBreak c)

/-- A character given by its number, which may be half of a pair. -/
def numberedChar (digits : Nat) : Scan Point := do
  let n ← hexNumber 0 0 digits
  if 0x110000 ≤ n then throw (.noCharacter n)
  forward digits
  return .ofNat n

/-- What a backslash stands for, which has been passed over. -/
def escaped : Scan (List Point) := do
  match ← peek 0 with
  | none => malformed
  | some c =>
    match escapes.find? (fun (e, _) => e == c) with
    | some (_, x) =>
      forward 1
      return [x]
    | none =>
      match escapeDigits? c with
      | some digits =>
        forward 1
        return [← numberedChar digits]
      | none =>
        if isBreak c then
          let _ ← lineBreak
          return (Text.ofChars (← quotedBreaks (← steps) [])).points
        else malformed

/-- The characters of a quoted scalar up to the next space or its end. -/
def quotedWord (double : Bool) : (fuel : Nat) → List Point → Scan (List Point)
  | 0, done => return done
  | fuel + 1, done => do
    let done := done ++ (Text.ofChars (← takeWhile isQuotedWordChar)).points
    match ← peek 0 with
    | some '\'' =>
      if double then
        forward 1
        quotedWord double fuel (done ++ [.char '\''])
      else if (← peek 1) == some '\'' then
        forward 2
        quotedWord double fuel (done ++ [.char '\''])
      else return done
    | some '"' =>
      if double then return done
      else
        forward 1
        quotedWord double fuel (done ++ [.char '"'])
    | some '\\' =>
      forward 1
      if double then quotedWord double fuel (done ++ (← escaped))
      else quotedWord double fuel (done ++ [.char '\\'])
    | _ => return done

/-- The rest of a quoted scalar up to its closing quote. -/
def quotedRest (quote : Char) : (fuel : Nat) → List Point → Scan (List Point)
  | 0, _ => malformed
  | fuel + 1, done => do
    if (← peek 0) == some quote then
      forward 1
      return done
    else
      let spaces ← quotedSpaces
      let word ← quotedWord (quote == '"') (← steps) []
      quotedRest quote fuel (done ++ (Text.ofChars spaces).points ++ word)

def quotedScalar (quote : Char) : Scan Token := do
  forward 1
  let first ← quotedWord (quote == '"') (← steps) []
  return .scalar ⟨← quotedRest quote (← steps) first⟩ false

/-! ## Plain scalars -/

/-- The length of the next word of a plain scalar. It ends before a space, before a colon that
stands alone, and between brackets before their punctuation. -/
def plainWordLength (flow : Bool) : List Char → Nat
  | [] => 0
  | c :: rest =>
    let endsHere :=
      c == ' ' || c == '\t' || isBreak c ||
      (c == ':' && (isBlankOrEnd rest.head? ||
        (flow && (rest.head?.map (fun d => ",[]\x7b\x7d".toList.contains d)).getD false))) ||
      (flow && isFlowIndicator c)
    if endsHere then 0 else plainWordLength flow rest + 1

/-- The line breaks behind a first one in a plain scalar; nothing if a document ends or begins. -/
def plainBreaks : (fuel : Nat) → List Char → Scan (Option (List Char))
  | 0, done => return some done
  | fuel + 1, done => do
    skipSpaces
    match ← lineBreak with
    | none => return some done
    | some c =>
      if ← atDocumentMark then return none
      plainBreaks fuel (done ++ [c])

/-- The space behind a word of a plain scalar; nothing if the scalar ends there. -/
def plainSpaces : Scan (Option (List Char)) := do
  let spaces ← takeWhile (· == ' ')
  match ← lineBreak with
  | none => return if spaces.isEmpty then none else some spaces
  | some first =>
    allowKey true
    if ← atDocumentMark then return none
    match ← plainBreaks (← steps) [] with
    | none => return none
    | some more =>
      if first != '\n' then return some (first :: more)
      else if more.isEmpty then return some [' ']
      else return some more

/-- The words of a plain scalar, each behind the space before it. -/
def plainWords (indent : Int) : (fuel : Nat) → (done spaces : List Char) → Scan (List Char)
  | 0, done, _ => return done
  | fuel + 1, done, spaces => do
    let s ← get
    if (← peek 0) == some '#' then return done
    let length := plainWordLength (s.level != 0) s.rest
    -- a colon ends the word only if what follows it allows that
    if (← peek length) == some ':' then
      let _ ← peek (length + 1)
    if length == 0 then return done
    allowKey false
    forward length
    let done := done ++ spaces ++ s.rest.take length
    match ← plainSpaces with
    | none => return done
    | some spaces =>
      let s ← get
      if (← peek 0) == some '#' || (s.level == 0 && s.column < indent) then return done
      plainWords indent fuel done spaces

def plainScalar : Scan Token := do
  let s ← get
  return .scalar (.ofChars (← plainWords (s.indent + 1) (← steps) [] [])) true

/-! ## Block scalars -/

/-- What becomes of the line breaks at the end of a block scalar. -/
inductive Chomping where
  | clip
  | strip
  | keep
  deriving DecidableEq

def chomping? (c : Option Char) : Option Chomping :=
  match c with
  | some '+' => some .keep
  | some '-' => some .strip
  | _ => none

def indentDigit? (c : Option Char) : Option Nat :=
  c.bind fun c => if '0' ≤ c && c ≤ '9' then some (c.toNat - '0'.toNat) else none

def takeChomping : Scan (Option Chomping) := do
  match chomping? (← peek 0) with
  | none => return none
  | some c =>
    forward 1
    return some c

def takeIndentDigit : Scan (Option Nat) := do
  match indentDigit? (← peek 0) with
  | none => return none
  | some 0 => malformed
  | some n =>
    forward 1
    return some n

/-- The signs behind the mark of a block scalar, in either order. -/
def blockHeader : Scan (Chomping × Option Nat) := do
  let before ← takeChomping
  let digit ← takeIndentDigit
  let after ← if before.isNone && digit.isSome then takeChomping else pure none
  if !isSpaceOrEnd (← peek 0) then malformed
  return ((before.or after).getD .clip, digit)

/-- Passes over the rest of a line, which may only hold a comment. -/
def ignoredLine : Scan Unit := do
  skipSpaces
  skipComment
  if !isLineEnd (← peek 0) then malformed
  let _ ← lineBreak

def skipSpacesTo (column : Nat) : Scan Unit := do
  let s ← get
  forward ((s.rest.take (column - s.column)).takeWhile (· == ' ')).length

/-- The empty lines of a block scalar that is indented to a column. -/
def blockBreaks (column : Nat) : (fuel : Nat) → List Char → Scan (List Char)
  | 0, done => return done
  | fuel + 1, done => do
    skipSpacesTo column
    match ← lineBreak with
    | some c => blockBreaks column fuel (done ++ [c])
    | none => return done

/-- The empty lines at the start of a block scalar, and the widest indentation among them and the
first line that is not empty. -/
def blockIndentation : (fuel widest : Nat) → List Char → Scan (List Char × Nat)
  | 0, widest, done => return (done, widest)
  | fuel + 1, widest, done => do
    let spaces ← takeWhile (· == ' ')
    let column := (← get).column
    let widest := if spaces.isEmpty then widest else max widest column
    match ← lineBreak with
    | some c => blockIndentation fuel widest (done ++ [c])
    | none => return (done, widest)

/-- The lines of a block scalar, behind `breaks`; also the last line break and those after it. -/
def blockLines (folded : Bool) (column : Nat) : (fuel : Nat) → (done breaks : List Char) →
    Scan (List Char × List Char × List Char)
  | 0, done, breaks => return (done, [], breaks)
  | fuel + 1, done, breaks => do
    let startsWithSpace (c : Option Char) : Bool := c == some ' ' || c == some '\t'
    let spaced := startsWithSpace (← peek 0)
    let line ← takeWhile (fun c => !isBreak c)
    let done := done ++ breaks ++ line
    let last ← lineBreak
    let breaks ← blockBreaks column (← steps) []
    let s ← get
    if s.column == column && (← peek 0).isSome then
      let joint :=
        if folded && last == some '\n' && !spaced && !startsWithSpace s.rest.head? then
          if breaks.isEmpty then [' '] else []
        else last.toList
      blockLines folded column fuel (done ++ joint) breaks
    else return (done, last.toList, breaks)

def blockScalar (folded : Bool) : Scan Token := do
  forward 1
  let (chomping, digit) ← blockHeader
  ignoredLine
  let s ← get
  let least := (max (s.indent + 1) 1).toNat
  let fuel ← steps
  let (breaks, column) ←
    match digit with
    | some n => do
      let column := least + n - 1
      pure (← blockBreaks column fuel [], column)
    | none => do
      let (breaks, widest) ← blockIndentation fuel 0 []
      pure (breaks, max least widest)
  let s ← get
  let (done, last, breaks) ←
    if s.column == column && (← peek 0).isSome then blockLines folded column fuel [] breaks
    else pure ([], [], breaks)
  let text := match chomping with
    | .strip => done
    | .clip => done ++ last
    | .keep => done ++ last ++ breaks
  return .scalar (.ofChars text) false

end SheetFill.Yaml.Scanner
