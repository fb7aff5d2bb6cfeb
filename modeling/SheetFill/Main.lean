import SheetFill.CommandLine.Session
import SheetFill.Workbook.Encoding

/-!
# The program

Runs the command line on the files of the working directory: they are read, the run is followed, its
reports are printed, and what it changed is written back. A file with the extension of a workbook
that holds the text of one is a workbook; all others are octets.
-/
namespace SheetFill.Program

def contentOf (path : String) (octets : List UInt8) : Content :=
  if !Rendering.extensions.contains (Text.lower (Path.extension path)) then .plain octets
  else
    match Text.Utf8.decode octets with
    | .error _ => .plain octets
    | .ok text =>
      match SavedWorkbook.read? text with
      | some w => .workbook w
      | none => .plain octets

/-- An archive without entries stands for one that was left unfinished. -/
def octetsOf : Content → List UInt8
  | .plain octets => octets
  | .unfinished _ =>
    Archive.endMark ++ List.replicate (Archive.endLength - Archive.endMark.length) 0
  | .workbook w => (String.ofList w.write).toUTF8.toList

partial def readDirectory (place : List String) (entries : Array IO.FS.DirEntry) (files : Files) :
    IO Files := do
  let mut files := files
  for e in entries do
    let place := place ++ [e.fileName]
    if ← e.path.isDir then
      files ← readDirectory place (← e.path.readDir) (files.put place .directory)
    else
      let octets := (← IO.FS.readBinFile e.path).toList
      files := files.put place (.file (contentOf e.fileName octets))
  return files

/-- Writes the files and directories that differ from those before. -/
def writeChanges (before after : Files) : IO Unit := do
  for (place, node) in after.nodes do
    if before.node? place != some node then
      let path := "/".intercalate place
      match node with
      | .directory => IO.FS.createDirAll path
      | .file content => IO.FS.writeBinFile path ⟨(octetsOf content).toArray⟩

end SheetFill.Program

open SheetFill in
def main (args : List String) : IO UInt32 := do
  let files ← Program.readDirectory [] (← (← IO.currentDir).readDir) FileTree.empty
  let out := CommandLine.run args files
  for e in out.log do
    IO.eprintln e.line
  Program.writeChanges files out.files
  match out.ending with
  | .status code => return UInt32.ofNat code
  | .stopped stop =>
    match stop with
    | .help => IO.println "usage: render template_file data_file [options]"
    | .usage e => IO.eprintln ("error: " ++ e.message)
    return UInt32.ofNat stop.status
  | .failed e =>
    IO.eprintln e.message
    return 1
