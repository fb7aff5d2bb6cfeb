import SheetFill.Text.Utf8
import SheetFill.Text.Newlines

/-!
# Texts read in blocks

A text is read in blocks of characters, and its octets are decoded in pieces as they are asked for.
What is wrong with the octets is noticed when the piece that holds them is decoded, and their places
count from the start of that piece, or of the character that reaches into it.
-/
namespace SheetFill.Text

/-- The number of characters of a block; only the last one may be shorter. -/
def blockSize : Nat := 4096

/-- The least number of octets that are decoded at a time. -/
def pieceSize : Nat := 8192

/-- A text that is being read: the octets that are left, those of a character of which more are to
come, whether a carriage return is held back until it is known whether a line feed follows, the
characters that are decoded and not yet read, the numbers of octets and characters of the last
piece, and whether the end was met. -/
structure Source where
  octets : List UInt8
  unfinished : List UInt8
  heldReturn : Bool
  ready : List Char
  lastOctets : Nat
  lastChars : Nat
  ended : Bool

def Source.start (octets : List UInt8) : Source := ⟨octets, [], false, [], 0, 0, false⟩

/-- The octets of the next piece: as many as `wanted` characters are expected to have, if those of
the last piece are any guide. -/
def Source.nextPiece (s : Source) (wanted : Nat) : List UInt8 :=
  s.octets.take (max pieceSize (wanted * s.lastOctets / s.lastChars))

def Source.decodePiece (s : Source) (wanted : Nat) : Except Utf8.Failure Source := do
  let piece := s.nextPiece wanted
  let ended := piece.isEmpty
  let (found, unfinished) ←
    if ended then do pure (← Utf8.decode s.unfinished, [])
    else Utf8.decodeUnfinished 0 0 (s.unfinished ++ piece)
  let joins := s.heldReturn && (ended || !found.isEmpty)
  let found := if joins then '\r' :: found else found
  let holds := !ended && found.getLast? == some '\r'
  let chars := unifyNewlines '\r' '\n' (if holds then found.dropLast else found)
  return {
    octets := s.octets.drop piece.length
    unfinished
    heldReturn := holds || (s.heldReturn && !joins)
    ready := s.ready ++ chars
    lastOctets := piece.length
    lastChars := chars.length
    ended }

/-- Reads `wanted` characters, or what is left. -/
def Source.read : (fuel wanted : Nat) → Source → Except Utf8.Failure (List Char × Source)
  | 0, _, s => .ok ([], s)
  | fuel + 1, wanted, s => do
    let found := s.ready.take wanted
    let s := { s with ready := s.ready.drop wanted }
    let missing := wanted - found.length
    if missing == 0 || s.ended then return (found, s)
    else
      let (more, s) ← (← s.decodePiece missing).read fuel missing
      return (found ++ more, s)

/-- The blocks of a text one after the other, up to the first that cannot be read, and why. -/
def Source.blocks : (fuel : Nat) → Source → List Char × Option Utf8.Failure
  | 0, _ => ([], none)
  | fuel + 1, s =>
    match s.read (s.octets.length + 2) blockSize with
    | .error e => ([], some e)
    | .ok (block, s) =>
      if block.isEmpty then ([], none)
      else
        let (rest, failure?) := s.blocks fuel
        (block ++ rest, failure?)

/-- The characters of a text with unified line ends, as far as its blocks can be read, and what is
wrong with the next block. -/
def readBlocks (octets : List UInt8) : List Char × Option Utf8.Failure :=
  (Source.start octets).blocks (octets.length + 2)

end SheetFill.Text
