/-!
# Cell styles

The six groups of a style. A group that is set anew is replaced as a whole.
-/
namespace SheetFill

/-- The letters of a cell. A font that was chosen for a cell is another than the one that cells
have of their own, even where the two look alike. -/
structure Font where
  bold : Bool
  italic : Bool
  size : Int
  color : Option String
  chosen : Bool
  deriving DecidableEq, Repr

/-- The lines at two edges of a cell, each with the name of its kind. As with fonts, the border that
was chosen for a cell is never the one that cells have of their own. -/
structure Border where
  left : Option String
  bottom : Option String
  chosen : Bool
  deriving DecidableEq, Repr

/-- Where the text of a cell stands and whether it is wrapped, where anything is said about that. -/
structure Alignment where
  horizontal : Option String
  wrapText : Option Bool
  deriving DecidableEq, Repr

structure Protection where
  locked : Bool
  hidden : Bool
  deriving DecidableEq, Repr

structure Style where
  font : Font
  fill : Option String
  border : Border
  alignment : Alignment
  protection : Protection
  numberFormat : String
  deriving DecidableEq, Repr

def Font.plain : Font := ⟨false, false, 11, none, false⟩

def Border.none : Border := ⟨Option.none, Option.none, false⟩

def Alignment.none : Alignment := ⟨Option.none, Option.none⟩

/-- A cell is locked until it is said otherwise. -/
def Protection.plain : Protection := ⟨true, false⟩

def Style.plain : Style := ⟨.plain, none, .none, .none, .plain, "General"⟩

def Border.or (b : Border) (left bottom : Option String) : Border :=
  { b with left := b.left.or left, bottom := b.bottom.or bottom }

/-- Whether the text is wrapped; nothing said means that it is not. -/
def Alignment.wraps (a : Alignment) : Bool := a.wrapText.getD false

/-- What a saved workbook keeps of an alignment: that a text is not wrapped goes without saying. -/
def Alignment.kept (a : Alignment) : Alignment :=
  { a with wrapText := if a.wraps then some true else Option.none }

def Style.kept (s : Style) : Style :=
  { s with alignment := s.alignment.kept }

/-- New groups for a style; a group that is not given stays as it is. -/
structure StyleChange where
  font : Option Font
  fill : Option String
  border : Option Border
  alignment : Option Alignment
  protection : Option Protection
  numberFormat : Option String
  deriving DecidableEq, Repr

def Style.change (s : Style) (c : StyleChange) : Style where
  font := c.font.getD s.font
  fill := c.fill.or s.fill
  border := c.border.getD s.border
  alignment := c.alignment.getD s.alignment
  protection := c.protection.getD s.protection
  numberFormat := c.numberFormat.getD s.numberFormat

end SheetFill
