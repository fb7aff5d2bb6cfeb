import SheetFill.Text.Blank

/-!
# Texts

A text of a data model or of a cell is made of code points. Most of them are characters, but half of
a surrogate pair can stand alone, which no character is. Such a text can be compared, cut and kept
in memory like any other; it cannot be written to a file and read again.
-/
namespace SheetFill

/-- A character, or half of a surrogate pair by its distance from U+D800. -/
inductive Point where
  | char (c : Char)
  | half (distance : Fin 2048)
  deriving DecidableEq, Repr

instance : Coe Char Point := ⟨.char⟩

structure Text where
  points : List Point
  deriving DecidableEq, Repr

namespace Point

/-- The code point with a number, which must be below U+110000. -/
def ofNat (n : Nat) : Point :=
  if h : 0xD800 ≤ n ∧ n < 0xE000 then .half ⟨n - 0xD800, by omega⟩ else .char (Char.ofNat n)

def number : Point → Nat
  | .char c => c.toNat
  | .half distance => 0xD800 + distance

def char? : Point → Option Char
  | .char c => some c
  | .half _ => none

def isHalf : Point → Bool
  | .char _ => false
  | .half _ => true

/-- Whether a file that holds the point can be read again. -/
def isLegible : Point → Bool
  | .char c => c.toNat != 0xFFFE && c.toNat != 0xFFFF
  | .half _ => false

def isBlank : Point → Bool
  | .char c => Text.isBlank c
  | .half _ => false

end Point

namespace Text

def ofChars (cs : List Char) : Text := ⟨cs.map .char⟩

def ofString (s : String) : Text := ofChars s.toList

instance : Coe String Text := ⟨ofString⟩

instance : Inhabited Text := ⟨⟨[]⟩⟩

def isEmpty (t : Text) : Bool := t.points.isEmpty

def string? (t : Text) : Option String :=
  (t.points.mapM Point.char?).map String.ofList

/-- The characters, with a replacement character for each half. -/
def chars (t : Text) : List Char :=
  t.points.map (fun p => p.char?.getD (Char.ofNat 0xFFFD))

end Text

end SheetFill
