import SheetFill.Text.Basic

/-!
# Line ends

Texts are handled with a single line feed at each line end, whatever the file used.
-/
namespace SheetFill.Text

/-- Each carriage return `cr`, with the line feed `lf` after it if there is one, becomes a line
feed. -/
def unifyNewlines {α : Type} [BEq α] (cr lf : α) : List α → List α
  | [] => []
  | [c] => [if c == cr then lf else c]
  | c :: d :: rest =>
    if c == cr && d == lf then lf :: unifyNewlines cr lf rest
    else (if c == cr then lf else c) :: unifyNewlines cr lf (d :: rest)

def unified (t : Text) : Text := ⟨unifyNewlines (.char '\r') (.char '\n') t.points⟩

end SheetFill.Text
