import SheetFill.FileTree.Basic
import SheetFill.Workbook.Saved

/-!
# Contents of files

A file holds a saved workbook, or what is left of one that could not be saved to its end, or octets
that are no workbook.
-/
namespace SheetFill

inductive Content where
  | plain (bs : List UInt8)
  | workbook (w : SavedWorkbook)
  /-- An archive with some sheets and without the list of its contents, which is written last. -/
  | unfinished (sheets : SavedWorkbook)
  deriving DecidableEq

/-- The octets that every archive begins with; a workbook is stored as one. -/
def archiveSignature : List UInt8 := [0x50, 0x4B, 0x03, 0x04]

/-- The octets of a file, as far as they matter where no workbook is expected. -/
def Content.octets : Content → List UInt8
  | .plain bs => bs
  | .workbook _ | .unfinished _ => archiveSignature

/-- What saving a workbook leaves in its file, and why it is left unfinished if it is. -/
def Content.ofWorkbook (w : Workbook) : Content × Option SaveError :=
  match Workbook.saved w with
  | .ok saved => (.workbook saved, none)
  | .error e => (.unfinished (Workbook.savedBefore w), some e)

abbrev Files := FileTree Content

end SheetFill
