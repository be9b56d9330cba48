import CellScript.Files.Tree
import CellScript.Program.Binary
import CellScript.Program.Image

/-!
# Program files

A program is kept in a file in one of two formats, which the extension of the path tells.

## Main definitions

* `ProgramFormat.ofPath?` — the format of a path.
* `Program.load`, `Program.save` — read a program from a file, and write it to one.
-/

namespace CellScript

inductive ProgramFormat where
  | json
  | binary
  deriving DecidableEq, Repr

def ProgramFormat.ofPath? (path : String) : Option ProgramFormat :=
  match Path.extension? path with
  | some "json" => some .json
  | some "dwc" => some .binary
  | some "bin" => some .binary
  | _ => none

/-- Why a program cannot be loaded or saved. -/
inductive ProgramError where
  | file (e : FileError)
  | json
  | binary
  | unknownFormat (path : String)
  deriving DecidableEq, Repr

def ProgramError.message : ProgramError → String
  | .file e => "I/O error: " ++ e.message
  | .json => "invalid program JSON"
  | .binary => "invalid program image: io error: unexpected end of file"
  | .unknownFormat path => s!"unrecognised program format for '{path}' (expected .json or .dwc)"

namespace Program

/-- The contents of the file of a program. -/
def encode (p : Program) : ProgramFormat → Bytes
  | .json => Bytes.utf8 p.toJson
  | .binary => p.toBytes

/-- The program of the contents of a file. -/
def decode (bytes : Bytes) : ProgramFormat → Except ProgramError Program
  | .json =>
    match bytes.text? with
    | some text => ((ofJson? text).map .ok).getD (.error .json)
    | none => .error (.file .invalidText)
  | .binary => ((ofBytes? bytes).map .ok).getD (.error .binary)

variable {m : Type → Type} [Monad m] [FileAccess m]

def load (path : String) : m (Except ProgramError Program) := do
  match ProgramFormat.ofPath? path with
  | none => return .error (.unknownFormat path)
  | some format =>
    match ← FileAccess.read path with
    | .ok bytes => return decode bytes format
    | .error e => return .error (.file e)

def save (p : Program) (path : String) : m (Except ProgramError Unit) := do
  match ProgramFormat.ofPath? path with
  | none => return .error (.unknownFormat path)
  | some format => return (← FileAccess.write path (p.encode format)).mapError .file

end Program

end CellScript
