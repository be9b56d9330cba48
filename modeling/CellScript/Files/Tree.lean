import CellScript.Bytes
import CellScript.Text.Category

/-!
# Files

What a program can do with files, in whatever world it runs, and files that are kept in memory.

A path is a text with slashes between its parts. Empty parts say nothing, and neither does a dot,
except at the start of a path. Relative paths start at the root of a tree. What lies outside of it
is not there.

## Main definitions

* `Path.join`, `Path.parent?` — a path inside another one, and the path that it is inside of.
* `Path.ancestors` — a path with those around it.
* `Path.fileName?`, `Path.extension?` — the last part, and what follows its last dot.
* `FileAccess` — the operations on files.
* `FileTree` — directories and files under their paths from the root.
* `FileTree.find`, `read`, `write` — follow a path, and read and write what it leads to.
-/

namespace CellScript

/-! ## Paths -/

namespace Path

def isAbsolute (path : String) : Bool :=
  path.toList.head? = some '/'

/-- A path that is read inside another one, unless it is absolute. -/
def join (base path : String) : String :=
  if isAbsolute path || base.isEmpty then path
  else if base.toList.getLast? = some '/' then base ++ path
  else base ++ "/" ++ path

/-- The parts between the slashes, those that say nothing included. -/
def parts (path : String) : List String :=
  (Text.pieces (· = '/') path.toList).map String.ofList

/-- Whether a part that is not the first one says nothing. -/
def isVoid (part : String) : Bool :=
  part = "" || part = "."

/-- The parts up to the last one that says something. -/
def trimParts : List String → List String
  | [] => []
  | first :: rest => first :: Text.dropTrailing isVoid rest

/-- The path that a path is inside of, none for a root and for the empty path. -/
def parent? (path : String) : Option String :=
  let all := trimParts (parts path)
  if all = [""] then none
  else
    match trimParts all.dropLast with
    | [] => some ""
    | [""] => some "/"
    | parts => some ("/".intercalate parts)

/-- A path and the paths around it, at most `count` of them. -/
def outward : Nat → String → List String
  | 0, _ => []
  | count + 1, path =>
    path :: match parent? path with
      | some outer => outward count outer
      | none => []

/-- A path and the paths around it, the innermost first. -/
def ancestors (path : String) : List String :=
  outward (path.length + 1) path

/-- The name that a path ends with. -/
def fileName? (path : String) : Option String :=
  match (trimParts (parts path)).getLast? with
  | some name => if isVoid name || name = ".." then none else some name
  | none => none

/-- What follows the last dot of the name that a path ends with, unless the name starts with that
dot. -/
def extension? (path : String) : Option String := do
  let name := (← fileName? path).toList
  let tail := (name.reverse.takeWhile (· ≠ '.')).reverse
  if tail.length + 1 < name.length then some (String.ofList tail) else none

end Path

/-! ## Files -/

/-- Why a file cannot be read or written. -/
inductive FileError where
  | missing
  | notDirectory
  | isDirectory
  | invalidText
  /-- the system refused, in its own words -/
  | system (text : String)
  deriving DecidableEq, Repr

def FileError.message : FileError → String
  | .missing => "No such file or directory (os error 2)"
  | .notDirectory => "Not a directory (os error 20)"
  | .isDirectory => "Is a directory (os error 21)"
  | .invalidText => "stream did not contain valid UTF-8"
  | .system text => text

/-- What a program can do with files. -/
class FileAccess (m : Type → Type) where
  read : String → m (Except FileError Bytes)
  write : String → Bytes → m (Except FileError Unit)
  /-- whether there is a file or a directory -/
  isKnown : String → m Bool
  isFile : String → m Bool

/-- Read a file that holds a text. -/
def FileAccess.readText {m : Type → Type} [Monad m] [FileAccess m] (path : String) :
    m (Except FileError String) := do
  return (← read path).bind fun bytes => (bytes.text?.map .ok).getD (.error .invalidText)

/-- What stands under a path. -/
inductive FileNode where
  | directory
  | file (content : Bytes)

/-- Directories and files under their paths from the root, which is a directory itself. -/
structure FileTree where
  nodes : List (List String × FileNode)
  deriving Inhabited

namespace FileTree

def empty : FileTree :=
  ⟨[]⟩

def node? (t : FileTree) : List String → Option FileNode
  | [] => some .directory
  | place => t.nodes.lookup place

/-- Put a node in its place, where it replaces what was there. -/
def setNode (t : FileTree) (place : List String) (node : FileNode) : FileTree :=
  ⟨(place, node) :: t.nodes.filter (·.1 ≠ place)⟩

/-- Take one part of a path from a place that has to be a directory. -/
def step (t : FileTree) (place : List String) (part : String) : Except FileError (List String) :=
  match t.node? place with
  | none => .error .missing
  | some (.file _) => .error .notDirectory
  | some .directory =>
    if Path.isVoid part then .ok place
    else if part = ".." then (if place.isEmpty then .error .missing else .ok place.dropLast)
    else .ok (place ++ [part])

/-- The place that a path leads to, which need not exist. -/
def find (t : FileTree) (path : String) : Except FileError (List String) :=
  if path.isEmpty || Path.isAbsolute path then .error .missing
  else (Path.parts path).foldlM t.step []

def read (t : FileTree) (path : String) : Except FileError Bytes := do
  match t.node? (← t.find path) with
  | some (.file content) => .ok content
  | some .directory => .error .isDirectory
  | none => .error .missing

/-- Write a file into a directory that exists. -/
def write (t : FileTree) (path : String) (content : Bytes) : Except FileError FileTree := do
  let place ← t.find path
  match t.node? place, t.node? place.dropLast with
  | some .directory, _ => .error .isDirectory
  | _, some .directory => .ok (t.setNode place (.file content))
  | _, _ => .error .missing

def isKnown (t : FileTree) (path : String) : Bool :=
  match t.find path with
  | .ok place => (t.node? place).isSome
  | .error _ => false

def isFile (t : FileTree) (path : String) : Bool :=
  (t.read path).toOption.isSome

/-- Add a directory with the directories on the way to it. -/
def addDirectory (t : FileTree) (place : List String) : FileTree :=
  (List.range place.length).foldl (fun t i =>
    let ancestor := place.take (i + 1)
    if (t.node? ancestor).isSome then t else t.setNode ancestor .directory) t

/-- Add a file or a directory under a path with the directories on the way to it. -/
def add (t : FileTree) (path : String) (node : FileNode) : FileTree :=
  let place := (Path.parts path).filter (!Path.isVoid ·)
  (t.addDirectory place.dropLast).setNode place node

instance : FileAccess (StateM FileTree) where
  read path := return (← get).read path
  write path content := do
    match (← get).write path content with
    | .ok t =>
      set t
      return .ok ()
    | .error e => return .error e
  isKnown path := return (← get).isKnown path
  isFile path := return (← get).isFile path

end FileTree

end CellScript
