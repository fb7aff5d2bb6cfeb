import SheetFill.Main
import SheetFill.Workbook.Encoding
import SheetFill.Sheet.Shift
import SheetFill.Proofs.Expansion.Drawing
import SheetFill.Proofs.Expansion.Agreement
import SheetFill.Proofs.Expansion.Idempotence
import SheetFill.Proofs.Expansion.Interruption
import SheetFill.Proofs.Expansion.Noninterference
import SheetFill.Proofs.Expansion.Styles
import SheetFill.Proofs.Expansion.Extent
import SheetFill.Proofs.Expansion.Turns
import SheetFill.Proofs.Expansion.Addresses
import SheetFill.Proofs.Expansion.FieldCells
import SheetFill.Proofs.Expansion.Unexpanded
import SheetFill.Proofs.Marker.Grammar
import SheetFill.Proofs.Workbook.Selection
import SheetFill.Proofs.Workbook.Reopening
import SheetFill.Proofs.Binary64.Arithmetic
import SheetFill.Proofs.Decimal.Stored
import SheetFill.Proofs.Workbook.Files
import SheetFill.Proofs.CommandLine.Endings
import SheetFill.Proofs.CommandLine.FileEffects
import SheetFill.Proofs.Expansion.Calls
import SheetFill.Proofs.Expansion.CoveredCells
import SheetFill.Proofs.Expansion.Collections
import SheetFill.Proofs.Expansion.RecordKinds
import SheetFill.Proofs.Binary64.Arithmetic
import SheetFill.Proofs.Decimal.Stored
