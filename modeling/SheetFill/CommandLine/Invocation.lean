import SheetFill.CommandLine.Arguments

/-!
# Invocations

The one command, `render`, with its options and its two places.
-/
namespace SheetFill.CommandLine

def helpFlag : Flag := ⟨["-h", "--help"], .help⟩

/-- The words up to the command and the command itself, to which all that follows belongs. -/
def programGrammar : Grammar := ⟨[helpFlag], [.rest "command"]⟩

def renderGrammar : Grammar where
  flags := [helpFlag, ⟨["--output"], .one⟩, ⟨["--sheets"], .many⟩, ⟨["--config"], .one⟩,
    ⟨["--log-level"], .one⟩]
  places := [.single "template_file", .single "data_file"]

structure Invocation where
  template : Given
  data : Given
  output : Given
  sheets : Option (List String)
  config : Given
  logLevel : Given
  deriving DecidableEq, Repr

def commands : List String := ["render"]

def Invocation.ofDealt (d : Dealt) : Invocation where
  template := d.argument "template_file"
  data := d.argument "data_file"
  output := d.argument "--output"
  sheets := d.arguments? "--sheets"
  config := d.argument "--config"
  logLevel := d.argument "--log-level"

/-- Reads a command line. Words that nothing takes are refused only when all else is right. -/
def Invocation.read (words : List String) : Except Stop Invocation := do
  let program ← programGrammar.read words
  let called := (program.arguments? "command").getD []
  let command := called.head?.getD ""
  if !commands.contains command then
    throw (.usage (.invalidChoice "command" command commands))
  let render ← renderGrammar.read (called.drop 1)
  let leftOver := program.leftOver ++ render.leftOver
  if leftOver.isEmpty then return .ofDealt render
  else throw (.usage (.unrecognized (leftOver.map String.ofList)))

end SheetFill.CommandLine
