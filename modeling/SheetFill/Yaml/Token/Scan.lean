import SheetFill.Yaml.Token.Scalar
import SheetFill.Decimal.Limit
import SheetFill.Text.Utf8

/-!
# Cutting a text into tokens

One token after the other is taken from the head of the text, with the marks that open and close
blocks as the indentation asks for them.
-/
namespace SheetFill.Yaml.Scanner

/-! ## Directives, anchors and tags -/

def tagEscapes : (fuel : Nat) → List UInt8 → Scan (List UInt8)
  | 0, done => return done
  | fuel + 1, done => do
    if (← peek 0) != some '%' then return done
    forward 1
    let n ← hexNumber 0 0 2
    forward 2
    tagEscapes fuel (done ++ [UInt8.ofNat n])

/-- The characters of a tag, with its escapes decoded. -/
def tagChars : (fuel : Nat) → List Char → Scan (List Char)
  | 0, done => return done
  | fuel + 1, done => do
    let done := done ++ (← takeWhile isTagChar)
    if (← peek 0) == some '%' then
      let octets ← tagEscapes (← steps) []
      match Text.Utf8.decode octets with
      | .ok cs => tagChars fuel (done ++ cs)
      | .error _ => malformed
    else return done

def tagText : Scan (List Char) := do
  let start := (← get).index
  let text ← tagChars (← steps) []
  -- an escape counts even if it stands for nothing
  if (← get).index == start then malformed
  return text

/-- A tag handle: an exclamation mark, or a name between two. -/
def tagHandle : Scan (List Char) := do
  if (← peek 0) != some '!' then malformed
  if (← peek 1) == some ' ' then
    forward 1
    return ['!']
  else
    let name := ((← get).rest.drop 1).takeWhile isNameChar
    if (← peek (name.length + 1)) != some '!' then malformed
    forward (name.length + 2)
    return '!' :: name ++ ['!']

def versionNumber : Scan Nat := do
  let digits ← takeWhile Decimal.isDigit
  if digits.isEmpty then malformed
  if Decimal.maxDigits < digits.length then throw (.tooManyDigits digits.length)
  return Decimal.natOfDigits digits

def directive : Scan Token := do
  forward 1
  let name ← takeWhile isNameChar
  if name.isEmpty || !isSpaceOrEnd (← peek 0) then malformed
  let token ←
    if name == ['Y', 'A', 'M', 'L'] then do
      skipSpaces
      let major ← versionNumber
      if (← peek 0) != some '.' then malformed
      forward 1
      let _ ← versionNumber
      if !isSpaceOrEnd (← peek 0) then malformed
      pure (Token.version major)
    else if name == ['T', 'A', 'G'] then do
      skipSpaces
      let handle ← tagHandle
      if (← peek 0) != some ' ' then malformed
      skipSpaces
      let meaning ← tagText
      if !isSpaceOrEnd (← peek 0) then malformed
      pure (Token.tagHandle handle meaning)
    else do
      let _ ← takeWhile (fun c => !isBreak c)
      pure Token.otherDirective
  ignoredLine
  return token

def anchorName : Scan (List Char) := do
  forward 1
  let name ← takeWhile isNameChar
  let next ← peek 0
  let mayFollow := isBlankOrEnd next ||
    (next.map (fun c => "?:,]\x7d%@\x60".toList.contains c)).getD false
  if name.isEmpty || !mayFollow then malformed
  return name

/-- Whether a second exclamation mark follows in the same word, so that the tag has a handle. -/
def hasHandle : Scan Bool := do
  let word := ((← get).rest.drop 1).takeWhile (fun c => !(c == '!' || c == ' ' || isBreak c))
  return (← peek (word.length + 1)) == some '!'

/-- A tag: one in angle brackets, a lone exclamation mark, or a handle with a suffix. -/
def tagToken : Scan Token := do
  let next ← peek 1
  let token ←
    if next == some '<' then do
      forward 2
      let suffix ← tagText
      if (← peek 0) != some '>' then malformed
      forward 1
      pure (Token.tag none suffix)
    else if isBlankOrEnd next then do
      forward 1
      pure (Token.tag none ['!'])
    else do
      let handle ←
        if ← hasHandle then tagHandle
        else do
          forward 1
          pure ['!']
      let suffix ← tagText
      pure (Token.tag (some handle) suffix)
  if !isSpaceOrEnd (← peek 0) then malformed
  return token

/-! ## One token -/

/-- Passes over spaces, comments and line breaks; outside brackets a key may begin on a new line. -/
def toNextToken : (fuel : Nat) → Scan Unit
  | 0 => return
  | fuel + 1 => do
    if (← get).index == 0 then
      if (← peek 0) == some byteOrderMark then forward 1
    skipSpaces
    skipComment
    match ← lineBreak with
    | none => return
    | some _ =>
      if (← get).level == 0 then allowKey true
      toNextToken fuel

def endingBlocks (token : Scan Token) : Scan Unit := do
  unwind (-1)
  dropKey
  allowKey false
  emit (← token)

def maybeKey (token : Scan Token) : Scan Unit := do
  saveKey
  allowKey false
  emit (← token)

def mark (n : Nat) (t : Token) : Scan Token := do
  forward n
  return t

def openBrackets (t : Token) : Scan Unit := do
  saveKey
  modify (fun s => { s with level := s.level + 1 })
  allowKey true
  emit (← mark 1 t)

/-- Closes brackets. Whether they were open is seen when the tokens are put together. -/
def closeBrackets (t : Token) : Scan Unit := do
  dropKey
  modify (fun s => { s with level := s.level - 1 })
  allowKey false
  emit (← mark 1 t)

def flowEntry : Scan Unit := do
  allowKey true
  dropKey
  emit (← mark 1 .flowEntry)

/-- Outside brackets an entry, a key or a value without a key has to stand where a key may begin,
and opens a block if it is indented further. -/
def beginInBlock (opening : Token) : Scan Unit := do
  let s ← get
  if s.level == 0 then
    if !s.keyAllowed then malformed
    if ← openBlock s.column then emit opening

def blockEntry : Scan Unit := do
  beginInBlock .blockSequenceStart
  allowKey true
  dropKey
  emit (← mark 1 .blockEntry)

def explicitKey : Scan Unit := do
  beginInBlock .blockMappingStart
  allowKey ((← get).level == 0)
  dropKey
  emit (← mark 1 .key)

/-- A value. If a token before it may begin a key, it does. -/
def valueMark : Scan Unit := do
  let level := (← get).level
  match (← get).possibleKeys.find? (fun k => k.level == level) with
  | some k =>
    modify fun s =>
      { s with possibleKeys := s.possibleKeys.filter (fun k => k.level != level) }
    emitAt k.number .key
    if level == 0 then
      if ← openBlock k.column then emitAt k.number .blockMappingStart
    allowKey false
  | none =>
    beginInBlock .blockMappingStart
    allowKey (level == 0)
    dropKey
  emit (← mark 1 .value)

def blockScalarToken (folded : Bool) : Scan Unit := do
  allowKey true
  dropKey
  emit (← blockScalar folded)

def standsAlone : Scan Bool := do
  return isBlankOrEnd (← peek 1)

/-- Whether a plain scalar begins with `c`, which is the next character. -/
def beginsPlain (flow : Bool) (c : Char) : Scan Bool := do
  if !(isIndicator c || c == ' ' || c == '\t' || isBreak c) then return true
  else
    let alone ← standsAlone
    return !alone && (c == '-' || (!flow && (c == '?' || c == ':')))

/-- Takes one token; tells whether it was the last. -/
def next : Scan Bool := do
  toNextToken (← steps)
  dropStaleKeys
  unwind (← get).column
  let s ← get
  let flow := s.level != 0
  match ← peek 0 with
  | none =>
    unwind (-1)
    dropKey
    emit .streamEnd
    return true
  | some c =>
    if c == '%' && s.column == 0 then endingBlocks directive
    else if ← pure (s.column == 0 && c == '-') <&&> atDocumentMark then
      endingBlocks (mark 3 .documentStart)
    else if ← pure (s.column == 0 && c == '.') <&&> atDocumentMark then
      endingBlocks (mark 3 .documentEnd)
    else if c == '[' then openBrackets .flowSequenceStart
    else if c == '{' then openBrackets .flowMappingStart
    else if c == ']' then closeBrackets .flowSequenceEnd
    else if c == '}' then closeBrackets .flowMappingEnd
    else if c == ',' then flowEntry
    else if ← pure (c == '-') <&&> standsAlone then blockEntry
    else if ← pure (c == '?') <&&> (pure flow <||> standsAlone) then explicitKey
    else if ← pure (c == ':') <&&> (pure flow <||> standsAlone) then valueMark
    else if c == '*' then maybeKey (return .alias (← anchorName))
    else if c == '&' then maybeKey (return .anchor (← anchorName))
    else if c == '!' then maybeKey tagToken
    else if c == '|' && !flow then blockScalarToken false
    else if c == '>' && !flow then blockScalarToken true
    else if c == '\'' || c == '"' then maybeKey (quotedScalar c)
    else if ← beginsPlain flow c then maybeKey plainScalar
    else malformed
    return false

def run : (fuel : Nat) → Scan Unit
  | 0 => malformed
  | fuel + 1 => do
    if !(← next) then
      settle
      run fuel

end SheetFill.Yaml.Scanner

namespace SheetFill.Yaml

/-- The tokens of a text; if it cannot be cut to the end, those that can be used before that is
noticed, and why. -/
def tokens (input : Input) : List Token × Option TokenError :=
  match Scanner.run (input.text.length + 2) (Scanner.start input) with
  | .ok _ s => (s.tokens.toList, none)
  | .error e s => (s.tokens.toList.take s.settled, some e)

end SheetFill.Yaml
