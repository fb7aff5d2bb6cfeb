import SheetFill.Text.Blocks
import SheetFill.Yaml.Character

/-!
# Texts of YAML

A YAML text is read block by block as it is looked at. The first two blocks are read before anything
else. A block that cannot be read, or that holds a character that is not allowed, is noticed when
the text is looked at beyond the block before it; all that stands before has been dealt with by
then.
-/
namespace SheetFill.Yaml

/-- Why a text cannot be cut into tokens: it is no YAML, its octets are no text, a character is
asked for by a number that no character has, or the number of a version has more digits than are
read. -/
inductive TokenError where
  | malformed
  | encoding (e : Text.Utf8.Failure)
  | noCharacter (number : Nat)
  | tooManyDigits (count : Nat)
  deriving DecidableEq, Repr

/-- The characters that can be looked at, and what is noticed behind them; there is nothing behind
the end of the text. -/
structure Input where
  text : List Char
  fault : Option TokenError

def firstBlocks : Nat := 2

/-- The blocks before the first character that is not allowed; `fault` stands behind the text. -/
def Input.upToFault (text : List Char) (fault : Option TokenError) : Input :=
  match text.findIdx? (fun c => !isAllowed c) with
  | some i => ⟨text.take (i / Text.blockSize * Text.blockSize), some .malformed⟩
  | none => ⟨text, fault⟩

/-- The text that octets encode, unless the first blocks are at fault. -/
def Input.ofOctets (octets : List UInt8) : Except TokenError Input :=
  let (text, failure?) := Text.readBlocks octets
  let first := firstBlocks * Text.blockSize
  let input := upToFault text (failure?.map .encoding)
  match failure? with
  | some e =>
    if text.length < first then .error (.encoding e)
    else if input.text.length < first then .error .malformed
    else .ok input
  | none =>
    if input.fault.isSome && input.text.length < first then .error .malformed else .ok input

end SheetFill.Yaml
