import SheetFill.FileTree.Path
import SheetFill.Text.Quoted

/-!
# File trees

The files and directories below a working directory, with what each file holds. A place in the tree
is a list of names from the working directory down; names `..` at its head lead to the directories
above, and a slash at its head to the root of all directories. Of these nothing is known but that
they are there.
-/
namespace SheetFill

inductive FileNode (α : Type) where
  | directory
  | file (content : α)
  deriving DecidableEq

/-- The nodes of a tree by their places, the working directory itself left out. -/
structure FileTree (α : Type) where
  nodes : List (List String × FileNode α)

inductive FileError where
  | notFound (path : String)
  | exists (path : String)
  | notDirectory (path : String)
  | isDirectory (path : String)
  | nameTooLong (path : String)
  | embeddedNull
  deriving DecidableEq, Repr

def FileError.message : FileError → String
  | .notFound path => "[Errno 2] No such file or directory: " ++ Text.quoted path
  | .exists path => "[Errno 17] File exists: " ++ Text.quoted path
  | .notDirectory path => "[Errno 20] Not a directory: " ++ Text.quoted path
  | .isDirectory path => "[Errno 21] Is a directory: " ++ Text.quoted path
  | .nameTooLong path => "[Errno 36] File name too long: " ++ Text.quoted path
  | .embeddedNull => "embedded null byte"

namespace FileTree

variable {α : Type}

def empty : FileTree α := ⟨[]⟩

def node? (t : FileTree α) (place : List String) : Option (FileNode α) :=
  if place.all (· == "..") || place == ["/"] then some .directory
  else (t.nodes.find? (fun (p, _) => p == place)).map (·.2)

/-- The place one name further on. -/
def enter (place : List String) (name : String) : List String :=
  if name == "." || name == "" then place
  else if name == ".." then
    match place.reverse with
    | [] => [".."]
    | ".." :: _ => ".." :: place
    | "/" :: _ => place
    | _ :: above => above.reverse
  else place ++ [name]

/-- How a place was reached: it is there, all that leads to it is there, the way ends before it, the
way leads through a file, it has a name that no file can have, or the path is none. -/
inductive Reached where
  | present
  | absent
  | cutOff
  | throughFile
  | tooLong
  | noPath
  deriving DecidableEq, Repr

/-- The most octets of a name and of a path. -/
def maxName : Nat := 255

def maxPath : Nat := 4095

/-- Goes down a path from a place. Slashes at the end lead no further. -/
def follow (t : FileTree α) (place : List String) : List String → List String × Reached
  | [] => (place, if (t.node? place).isSome then .present else .absent)
  | name :: rest =>
    match t.node? place with
    | some .directory =>
      if maxName < name.utf8ByteSize then (place, .tooLong) else follow t (enter place name) rest
    | some (.file _) => (place, .throughFile)
    | none => (place, if (name :: rest).all (· == "") then .absent else .cutOff)

/-- The place of a path and how it is reached. The empty path leads nowhere. -/
def locate (t : FileTree α) (path : String) : List String × Reached :=
  let cs := path.toList
  if cs.contains '\x00' then ([], .noPath)
  else if cs.isEmpty then ([], .cutOff)
  else if maxPath < path.utf8ByteSize then ([], .tooLong)
  else
    let start := if cs.head? == some '/' then ["/"] else []
    t.follow start ((Path.names cs).map String.ofList)

/-- Why nothing can be done at a place that was not reached. -/
def reachedError (path : String) : Reached → FileError
  | .throughFile => .notDirectory path
  | .tooLong => .nameTooLong path
  | .noPath => .embeddedNull
  | _ => .notFound path

def lookup? (t : FileTree α) (path : String) : Option (FileNode α) :=
  match t.locate path with
  | (place, .present) => t.node? place
  | _ => none

def contains (t : FileTree α) (path : String) : Bool :=
  (t.lookup? path).isSome

def isDirectory (t : FileTree α) (path : String) : Bool :=
  match t.lookup? path with
  | some .directory => true
  | _ => false

def read (t : FileTree α) (path : String) : Except FileError α :=
  match t.locate path with
  | (place, .present) =>
    match t.node? place with
    | some (.file content) => .ok content
    | _ => .error (.isDirectory path)
  | (_, reached) => .error (reachedError path reached)

def put (t : FileTree α) (place : List String) (node : FileNode α) : FileTree α :=
  if t.nodes.any (fun (p, _) => p == place) then
    ⟨t.nodes.map (fun (p, n) => if p == place then (p, node) else (p, n))⟩
  else ⟨t.nodes ++ [(place, node)]⟩

def endsInSlash (path : String) : Bool :=
  path.toList.getLast? == some '/'

/-- Writes a file, whose directory has to be there. -/
def write (t : FileTree α) (path : String) (content : α) : Except FileError (FileTree α) :=
  match t.locate path with
  | (place, .present) =>
    match t.node? place with
    | some (.file _) => .ok (t.put place (.file content))
    | _ => .error (.isDirectory path)
  | (place, .absent) =>
    if endsInSlash path then .error (.isDirectory path) else .ok (t.put place (.file content))
  | (_, reached) => .error (reachedError path reached)

/-- Makes one directory, whose own directory has to be there. -/
def makeDirectory (t : FileTree α) (path : String) : Except FileError (FileTree α) :=
  match t.locate path with
  | (_, .present) => .error (.exists path)
  | (place, .absent) => .ok (t.put place .directory)
  | (_, reached) => .error (reachedError path reached)

/-- The directory above a path and the last name in it; a slash at the end is no name. -/
def headAndTail (path : String) : String × String :=
  let head := Path.directory path
  if (Path.baseName path).isEmpty then (Path.directory head, Path.baseName head)
  else (head, Path.baseName path)

/-- Makes a directory with all that lead to it; one that is there already is left as it is. What was
made before a failure stays. -/
def makeDirectories (t : FileTree α) : (fuel : Nat) → (path : String) →
    FileTree α × Option FileError
  | 0, _ => (t, none)
  | fuel + 1, path =>
    let (head, tail) := headAndTail path
    let (t, failure?) :=
      if !head.isEmpty && !tail.isEmpty && !t.contains head then makeDirectories t fuel head
      else (t, none)
    match failure? with
    | some e =>
      -- only a file in the way of the directory above is passed over here
      match e with
      | .exists _ => finish t path tail head
      | e => (t, some e)
    | none => finish t path tail head
where
  finish (t : FileTree α) (path tail head : String) : FileTree α × Option FileError :=
    if tail == "." && !head.isEmpty && t.contains path then (t, none)
    else
      match t.makeDirectory path with
      | .ok t => (t, none)
      | .error e => if t.isDirectory path then (t, none) else (t, some e)

/-- The directories that are needed for a place to be in the tree. -/
def withParents (t : FileTree α) (place : List String) : FileTree α :=
  (List.range place.length).foldl (fun t n =>
    let parent := place.take n
    if (t.node? parent).isSome then t else t.put parent .directory) t

end FileTree

end SheetFill
