import SheetFill.Proofs.Expansion.Parts

/-!
# The styles of a filled sheet

A generated row has the styles of its template row in all columns, whatever was written to it. All
other rows keep their styles wherever they come to stand. Only a field of such a row may be given
another number format, where it received a date, a time or a duration and its own format shows none.
-/
namespace SheetFill

/-- The style of a cell after the field that a marker names was written to it, if the record has
it. -/
def Record.styleFor (record : Record) (marker : CellMarker) (s : Style) : Style :=
  match marker with
  | .plain => s
  | .field name =>
    match record.field? name with
    | .ok (some v) => Cell.styleFor v s
    | _ => s

namespace Line

def styles (line : Line) : List Style := line.map Cell.style

theorem styles_cons (c : Cell) (line : Line) : styles (c :: line) = c.style :: line.styles := rfl

def stylesFor (record : Record) : Line → List Style
  | [] => []
  | c :: rest =>
    match Marker.ofValue c.value with
    | .plain => c.style :: stylesFor record rest
    | .field name => record.styleFor (.field name) c.style :: stylesFor record rest
    | .each _ _ => styles (c :: rest)

end Line

def Sheet.styles (s : Sheet) : List (List Style) := s.lines.map Line.styles

def Part.styles (record : Record) : Part → List (List Style)
  | .plain line => [line.stylesFor record]
  | .kept marker template? => marker.stylesFor record :: template?.toList.map Line.styles
  | .expanded _ template? items =>
    template?.toList.flatMap fun template => List.replicate items.length template.styles

theorem Cell.style_of_filled {c c' : Cell} {marker : CellMarker} {record : Record}
    (h : c.filled marker record = (c', none)) : c'.style = record.styleFor marker c.style := by
  cases marker with
  | plain =>
    obtain ⟨rfl, -⟩ := Prod.mk.inj h
    rfl
  | field name =>
    rcases hf : record.field? name with e | _ | v
    · simp [filled, hf] at h
    · obtain ⟨rfl, -⟩ : c = c' ∧ True := by simpa [filled, hf] using h
      simp [Record.styleFor, hf]
    · simp only [filled, hf, assign] at h
      simp only [Record.styleFor, hf]
      -- a covered cell and a refused value would have been failures
      split_ifs at h
      · simp at h
      · cases hc : content v with
        | error e => simp [hc] at h
        | ok stored =>
          rw [hc] at h
          rw [← (Prod.mk.inj h).1]

namespace Line

variable {record : Record} {line line' : Line}

theorem styles_of_filled (h : line.Filled record line') : line'.styles = line.stylesFor record := by
  induction h with
  | nil => rfl
  | @cell c c' line line' hc hf h ih =>
    have hstyle := Cell.style_of_filled hf
    rw [styles_cons, hstyle, ih]
    cases hm : Marker.ofValue c.value with
    | plain =>
      simp only [stylesFor, hm]
      rfl
    | field name =>
      simp only [stylesFor, hm]
      rfl
    | each name columns => exact absurd hm (hc name columns)
  | block hc => simp only [stylesFor, hc]

/-- A generated row has the styles of its template row. -/
theorem styles_drawn (template : Line) (child : Record) :
    (template.drawn child).styles = template.styles := by
  simp [styles, drawn, Cell.drawn, Function.comp_def]

end Line

theorem Part.styles_of_becomes {record : Record} {part : Part} {out : List Line}
    (h : part.Becomes record out) : out.map Line.styles = part.styles record := by
  cases h with
  | plain h => rw [List.map_singleton, Line.styles_of_filled h, Part.styles]
  | kept h => rw [List.map_cons, Line.styles_of_filled h, Part.styles]
  | @expanded marker template? items =>
    cases template? with
    | none => rfl
    | some template =>
      simp [Lines.children, Part.styles, Function.comp_def, Line.styles_drawn]

/-- The styles of a sheet that could be filled are those of the parts of its template, from the top
to the bottom. Where these have no rows the sheet reads like one without cells. -/
theorem Run.styles_fill (run : Run) (record : Record) (h : (run.fill record).failure? = none) :
    (run.fill record).run.sheet.styles =
      if (Lines.parts record run.streams run.sheet.lines).flatMap (Part.styles record) = [] then
        run.sheet.cleared.styles
      else (Lines.parts record run.streams run.sheet.lines).flatMap (Part.styles record) := by
  obtain ⟨outs, houts, hr, hk⟩ := run.becomes_fill record h
  have hstyles : (Lines.parts record run.streams run.sheet.lines).flatMap (Part.styles record) =
      outs.flatten.map Line.styles :=
    (Lines.map_flatten_of_becomes houts fun _ _ => Part.styles_of_becomes).symm
  simp only [hstyles, List.map_eq_nil_iff]
  show List.map _ _ = _
  rw [hr.lines, Sheet.cleared_lines_congr hk.above]
  split_ifs <;> rfl

def Style.bold : Style := { Style.plain with font := { Font.plain with bold := true } }

def Run.visits : Run where
  sheet :=
    { title := "Visits"
      rows := [
        [some ⟨.text "$F{day}", .text, .plain⟩,
          some ⟨.text "$F{day}", .text, { Style.plain with numberFormat := "d.m.yy" }⟩],
        [none, some ⟨.text "$Each{visits}", .text, .plain⟩],
        [some ⟨.text "$F{at}", .text, .bold⟩, some ⟨.null, .number, .bold⟩],
        [some ⟨.text "end", .text, .bold⟩]]
      merged := [] }
  streams := []
  edits := []
  refusal := none

def Record.visits : Record :=
  .mapping [(.text "day", .date ⟨2024, 2, 29⟩),
    (.text "visits", .list [.map [(.text "at", .time ⟨9, 30, 0, 0, none⟩)], .map []])]

theorem Run.styles_fill_visits :
    (Run.visits.fill .visits).failure? = none ∧
      (Run.visits.fill .visits).run.sheet.styles =
        [[{ Style.plain with numberFormat := "yyyy-mm-dd" },
            { Style.plain with numberFormat := "d.m.yy" }],
          [.bold, .bold], [.bold, .bold], [.bold, .plain]] := by
  have h : (Run.visits.fill .visits).failure? = none := by
    decide +kernel
  exact ⟨h, (Run.styles_fill _ _ h).trans (by decide +kernel)⟩

end SheetFill
