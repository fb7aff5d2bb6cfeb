import SheetFill.Text.Utf8

/-!
# Archives

A workbook is stored as an archive, at whose end a record leads to the directory of its entries.
Octets that hold no workbook are refused, and the refusal says how far they are an archive.
-/
namespace SheetFill.Archive

inductive Fault where
  | noArchive
  | severalDisks
  | badOffset
  | truncated
  | badMark
  | tooNew (version : Nat)
  | entryName (e : Text.Utf8.Failure)
  | extraField (kind size : Nat)
  | noExtraSize (field : String)
  | noContents
  deriving DecidableEq, Repr

def Fault.message : Fault → String
  | .noArchive => "File is not a zip file"
  | .severalDisks => "zipfiles that span multiple disks are not supported"
  | .badOffset => "Bad offset for central directory"
  | .truncated => "Truncated central directory"
  | .badMark => "Bad magic number for central directory"
  | .tooNew version =>
    "zip file version " ++ toString (version / 10) ++ "." ++ toString (version % 10)
  | .entryName e => e.message
  | .extraField kind size =>
    "Corrupt extra field " ++ String.ofList (Text.hex 4 kind) ++ " (size=" ++ toString size ++ ")"
  | .noExtraSize field => "Corrupt zip64 extra field. " ++ field ++ " not found."
  | .noContents => Text.quoted "There is no item named '[Content_Types].xml' in the archive"

def number : List UInt8 → Nat
  | [] => 0
  | b :: rest => b.toNat + 256 * number rest

def numberAt (start width : Nat) (bs : List UInt8) : Nat := number ((bs.drop start).take width)

/-- The marks at the head of the records: two letters and two numbers. -/
def mark (a b : UInt8) : List UInt8 := [0x50, 0x4B, a, b]

def endMark : List UInt8 := mark 5 6

def wideEndMark : List UInt8 := mark 6 6

def wideLocatorMark : List UInt8 := mark 6 7

def entryMark : List UInt8 := mark 1 2

/-- The lengths of the records without the parts of varying length at their end. -/
def endLength : Nat := 22

def wideEndLength : Nat := 56

def wideLocatorLength : Nat := 20

def entryLength : Nat := 46

/-- What the record at the end says: where it stands itself, and how long the directory is. A wide
end record has a second record and a pointer to it in front. -/
structure EndRecord where
  place : Nat
  directoryLength : Nat
  isWide : Bool
  deriving DecidableEq, Repr

/-- The place of the last occurrence of a mark. -/
def lastPlace? (sought : List UInt8) : List UInt8 → Option Nat
  | [] => none
  | b :: rest =>
    match lastPlace? sought rest with
    | some n => some (n + 1)
    | none => if sought.isPrefixOf (b :: rest) then some 0 else none

/-- The place of the end record: at the very end if there is no comment, and otherwise where its
mark occurs last within the greatest length of a comment. -/
def endPlace? (bs : List UInt8) : Option Nat :=
  if bs.length < endLength then none
  else
    let place := bs.length - endLength
    let last := bs.drop place
    if endMark.isPrefixOf last && last.drop (endLength - 2) == [0, 0] then some place
    else
      let start := bs.length - 0x10000 - endLength
      match lastPlace? endMark (bs.drop start) with
      | some n => if bs.length < start + n + endLength then none else some (start + n)
      | none => none

/-- The end record, with the length of the directory from the wide record where there is one. -/
def endRecord (bs : List UInt8) : Except Fault EndRecord :=
  match endPlace? bs with
  | none => .error .noArchive
  | some place =>
    let plain : EndRecord := ⟨place, numberAt 12 4 (bs.drop place), false⟩
    if place < wideLocatorLength then .ok plain
    else
      let locator := bs.drop (place - wideLocatorLength)
      if !wideLocatorMark.isPrefixOf locator then .ok plain
      else if numberAt 4 4 locator != 0 || 1 < numberAt 16 4 locator then .error .severalDisks
      else if place < wideLocatorLength + wideEndLength then .error .noArchive
      else
        let wide := bs.drop (place - wideLocatorLength - wideEndLength)
        if wideEndMark.isPrefixOf wide then .ok ⟨place, numberAt 40 8 wide, true⟩ else .ok plain

/-- Checks that the sizes of an entry that do not fit into it are in a wide extra field. -/
def checkSizes (data : List UInt8) : List (String × Bool) → Except Fault Unit
  | [] => .ok ()
  | (field, isWide) :: rest =>
    if !isWide then checkSizes data rest
    else if data.length < 8 then .error (.noExtraSize field)
    else checkSizes (data.drop 8) rest

/-- Checks the extra fields of an entry, each a kind, a size and that many octets. -/
def checkExtra (sizes : List (String × Bool)) : (fuel : Nat) → List UInt8 → Except Fault Unit
  | 0, _ => .ok ()
  | fuel + 1, extra =>
    if extra.length < 4 then .ok ()
    else
      let kind := numberAt 0 2 extra
      let size := numberAt 2 2 extra
      if extra.length < size + 4 then .error (.extraField kind size)
      else
        let checked := if kind == 1 then checkSizes ((extra.drop 4).take size) sizes else .ok ()
        match checked with
        | .error e => .error e
        | .ok () => checkExtra sizes fuel (extra.drop (size + 4))

def maxVersion : Nat := 63

/-- Checks the entries of a directory, of which `left` octets are still to come. -/
def checkEntries : (fuel left : Nat) → List UInt8 → Except Fault Unit
  | 0, _, _ => .ok ()
  | fuel + 1, left, bs =>
    if left == 0 then .ok ()
    else if bs.length < entryLength then .error .truncated
    else if !entryMark.isPrefixOf bs then .error .badMark
    else
      let nameLength := numberAt 28 2 bs
      let extraLength := numberAt 30 2 bs
      let commentLength := numberAt 32 2 bs
      let name := (bs.drop entryLength).take nameLength
      let extra := (bs.drop (entryLength + nameLength)).take extraLength
      let isText := numberAt 8 2 bs / 0x800 % 2 == 1
      match if isText then Text.Utf8.decode name else .ok [] with
      | .error e => .error (.entryName e)
      | .ok _ =>
        let widest := numberAt 24 4 bs == 0xFFFFFFFF
        let sizes := [("File size", widest),
          ("Compress size", numberAt 20 4 bs == 0xFFFFFFFF),
          ("Header offset", numberAt 42 4 bs == 0xFFFFFFFF)]
        if maxVersion < numberAt 6 1 bs then .error (.tooNew (numberAt 6 1 bs))
        else
          match checkExtra sizes extra.length extra with
          | .error e => .error e
          | .ok () =>
            let length := entryLength + nameLength + extraLength + commentLength
            checkEntries fuel (left - length) (bs.drop length)

/-- Why octets that hold no workbook cannot be opened as one. -/
def fault (bs : List UInt8) : Fault :=
  match endRecord bs with
  | .error e => e
  | .ok r =>
    let before := r.directoryLength + if r.isWide then wideEndLength + wideLocatorLength else 0
    if r.place < before then .badOffset
    else
      let directory := (bs.drop (r.place - before)).take r.directoryLength
      match checkEntries bs.length r.directoryLength directory with
      | .error e => e
      | .ok () => .noContents

end SheetFill.Archive
