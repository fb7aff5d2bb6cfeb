/-!
# Paths

Paths as text, with slashes between the names: taking them apart and putting them together.
-/
namespace SheetFill.Path

/-- What stands up to and with the last slash, and what stands behind it. -/
def splitLast (cs : List Char) : List Char × List Char :=
  let back := cs.reverse.takeWhile (· != '/')
  (cs.take (cs.length - back.length), back.reverse)

def baseName (path : String) : String :=
  String.ofList (splitLast path.toList).2

/-- What stands before the name; slashes at its end count only if there is nothing else. -/
def directory (path : String) : String :=
  let head := (splitLast path.toList).1
  if head.all (· == '/') then String.ofList head
  else String.ofList (head.reverse.dropWhile (· == '/')).reverse

/-- A path without its extension, and the extension with its dot. Dots at the start of the name
begin no extension. -/
def splitExtension (path : String) : String × String :=
  let (head, name) := splitLast path.toList
  let back := name.reverse.takeWhile (· != '.')
  let stem := name.take (name.length - back.length - 1)
  if back.length == name.length || stem.all (· == '.') then (path, "")
  else (String.ofList (head ++ stem), String.ofList ('.' :: back.reverse))

def extension (path : String) : String := (splitExtension path).2

def stem (path : String) : String := (splitExtension (baseName path)).1

/-- The path of `b` seen from the directory `a`. -/
def join (a b : String) : String :=
  if b.toList.head? == some '/' then b
  else if a.isEmpty || a.toList.getLast? == some '/' then a ++ b
  else a ++ "/" ++ b

/-- The names between the slashes. -/
def names : List Char → List (List Char)
  | [] => [[]]
  | c :: rest =>
    match names rest with
    | [] => [[c]]
    | first :: more => if c == '/' then [] :: first :: more else (c :: first) :: more

end SheetFill.Path
