import SheetFill.Value.Basic

/-!
# Markers

A cell of a template is plain, or names a field whose value it takes, or names a collection and
opens a block. A marker is an opening text, a name without blanks and a closing brace. It may stand
anywhere in the text of the cell; the leftmost one counts, and its name reaches as far as possible,
to the last closing brace before the next blank. A field marker anywhere takes precedence over a
block marker.
-/
namespace SheetFill

/-- What a cell of a template row can be; blocks do not nest. -/
inductive CellMarker where
  | plain
  | field (name : Text)
  deriving DecidableEq, Repr

/-- What a cell of a template can be. The columns of a block say what stands in each column of its
template row. -/
inductive Marker where
  | plain
  | field (name : Text)
  | each (name : Text) (columns : List (Nat × CellMarker))
  deriving DecidableEq, Repr

namespace Marker

def fieldOpening : List Point := ['$', 'F', '{']

def eachOpening : List Point := ['$', 'E', 'a', 'c', 'h', '{']

def closing : Point := '}'

def beforeLastBrace : List Point → Option (List Point)
  | [] => none
  | c :: rest =>
    match beforeLastBrace rest with
    | some cs => some (c :: cs)
    | none => if c == closing then some [] else none

/-- The name at the head of `cs`, if there is one: all that stands before the last closing brace of
the run of characters up to the next blank. -/
def name? (cs : List Point) : Option (List Point) :=
  match beforeLastBrace (cs.takeWhile (fun c => !c.isBlank)) with
  | some (c :: rest) => some (c :: rest)
  | _ => none

/-- The name of the leftmost marker that begins with `opening`. -/
def find? (opening : List Point) : List Point → Option (List Point)
  | [] => none
  | c :: rest =>
    if opening.isPrefixOf (c :: rest) then
      match name? ((c :: rest).drop opening.length) with
      | some name => some name
      | none => find? opening rest
    else find? opening rest

/-- The marker in a text; the columns of a block are not known from its text. -/
def ofText (s : Text) : Marker :=
  match find? fieldOpening s.points with
  | some name => .field ⟨name⟩
  | none =>
    match find? eachOpening s.points with
    | some name => .each ⟨name⟩ []
    | none => .plain

def ofValue : Value → Marker
  | .text s => ofText s
  | _ => .plain

/-- The marker as it counts inside a template row, where a block marker is plain text. -/
def inTemplateRow : Marker → CellMarker
  | .field name => .field name
  | _ => .plain

end Marker

end SheetFill
