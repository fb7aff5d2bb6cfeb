import SheetFill.Text.Basic
import SheetFill.Text.Printable

/-!
# Quoted text

How texts and octets are shown inside messages: in quotes, with unprintable characters escaped.
Single quotes are used unless the text holds a single quote and no double quote.
-/
namespace SheetFill.Text

/-- The digits of `n` in base 16, lower case, with leading zeros up to `width` places. -/
def hex (width n : Nat) : List Char :=
  let digits := Nat.toDigits 16 n
  List.replicate (width - digits.length) '0' ++ digits

def quoteFor (cs : List Char) : Char :=
  if cs.contains '\'' && !cs.contains '"' then '"' else '\''

def escapeChar (quote c : Char) : List Char :=
  let n := c.toNat
  if c == quote || c == '\\' then ['\\', c]
  else if c == '\n' then ['\\', 'n']
  else if c == '\t' then ['\\', 't']
  else if c == '\r' then ['\\', 'r']
  else if isPrintable c then [c]
  else if n < 0x100 then '\\' :: 'x' :: hex 2 n
  else if n < 0x10000 then '\\' :: 'u' :: hex 4 n
  else '\\' :: 'U' :: hex 8 n

/-- Half of a surrogate pair is shown by its number wherever it stands. -/
def escapeHalf (distance : Nat) : List Char :=
  '\\' :: 'u' :: hex 4 (0xD800 + distance)

def escapePoint (quote : Char) : Point → List Char
  | .char c => escapeChar quote c
  | .half distance => escapeHalf distance

def quoted (t : Text) : String :=
  let quote := quoteFor t.chars
  String.ofList (quote :: t.points.flatMap (escapePoint quote) ++ [quote])

/-- A point as it is reported. -/
def printPoint : Point → List Char
  | .char c => [c]
  | .half distance => escapeHalf distance

def printed (t : Text) : String := String.ofList (t.points.flatMap printPoint)

/-- Why a text has no octets, by its first half of a pair. -/
def halfMessage (t : Text) : String :=
  match t.points.findIdx? Point.isHalf with
  | none => ""
  | some place =>
    match (t.points.drop place).takeWhile Point.isHalf with
    | [p] => "'utf-8' codec can't encode character '" ++ String.ofList (escapePoint '\'' p) ++
        "' in position " ++ toString place ++ ": surrogates not allowed"
    | halves => "'utf-8' codec can't encode characters in position " ++ toString place ++ "-" ++
        toString (place + halves.length - 1) ++ ": surrogates not allowed"

/-- Octets above 0x7E are escaped even where they would be a letter in some encoding. -/
def escapeOctet (quote : Char) (b : UInt8) : List Char :=
  if b < 0x80 then escapeChar quote (Char.ofNat b.toNat) else '\\' :: 'x' :: hex 2 b.toNat

/-- Octets are shown as a text of their own kind, marked by a leading `b`. -/
def quotedOctets (bs : List UInt8) : String :=
  let quote := quoteFor (bs.map (fun b => Char.ofNat b.toNat))
  String.ofList ('b' :: quote :: bs.flatMap (escapeOctet quote) ++ [quote])

end SheetFill.Text
