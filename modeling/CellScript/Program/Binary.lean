import CellScript.Bytes
import CellScript.Program.Contents

/-!
# Program images in bytes

The binary image of a program: integers of fixed size with the least byte first, texts and lists
after their length, one byte for an option or a truth value, four for the number of a variant. A
reader ignores what follows the image.

## Main definitions

* `Program.toBytes` — the image of a program.
* `Program.ofBytes?` — the program of an image.
* `Program.agrees` — equality of programs, with which one holding not-a-number does not equal
  itself.
-/

namespace CellScript

namespace Bytes

/-- The `count` lowest bytes of a number, the lowest first. -/
def ofNat : Nat → Nat → Bytes
  | 0, _ => []
  | count + 1, n => UInt8.ofNat (n % 256) :: ofNat count (n / 256)

/-- The number whose bytes these are, the lowest first. -/
def toNat : Bytes → Nat
  | [] => 0
  | b :: rest => b.toNat + 256 * toNat rest

/-- A text after its length in bytes. -/
def ofText (s : String) : Bytes :=
  ofNat 8 s.utf8ByteSize ++ utf8 s

/-- An optional text. -/
def ofText? : Option String → Bytes
  | none => [0]
  | some s => 1 :: ofText s

/-- A truth value. -/
def ofBool (b : Bool) : Bytes :=
  [if b then 1 else 0]

/-- The number of a variant. -/
def tag (n : Nat) : Bytes :=
  ofNat 4 n

/-- Items after their number. -/
def ofList {α : Type} (item : α → Bytes) (items : List α) : Bytes :=
  ofNat 8 items.length ++ items.flatMap item

end Bytes

open Bytes

/-- The image of a constant. -/
def Literal.toBytes : Literal → Bytes
  | .null => tag 0
  | .int n => tag 1 ++ ofNat 8 n.toUInt64.toNat
  | .float bits => tag 2 ++ ofNat 8 bits.toNat
  | .str s => tag 3 ++ ofText s

/-- The image of a piece of interpolated text. -/
def Fragment.toBytes : Fragment → Bytes
  | .text s => tag 0 ++ ofText s
  | .var name => tag 1 ++ ofText name

/-- The image of a flow. -/
def FlowKind.toBytes : FlowKind → Bytes
  | .return => tag 0
  | .break => tag 1
  | .continue => tag 2
  | .throw => tag 3
  | .yield => tag 4
  | .callcc => tag 5

mutual

/-- The image of a block. -/
def Block.toBytes : Block → Bytes
  | .mk source steps => ofText? source ++ ofNat 8 steps.length ++ bytesOfSteps steps

/-- The images of some steps. -/
def bytesOfSteps : List Step → Bytes
  | [] => []
  | step :: rest => step.toBytes ++ bytesOfSteps rest

/-- The images of some blocks. -/
def bytesOfBlocks : List Block → Bytes
  | [] => []
  | block :: rest => block.toBytes ++ bytesOfBlocks rest

/-- The image of a block that may be missing. -/
def bytesOfBlock? : Option Block → Bytes
  | none => [0]
  | some block => 1 :: block.toBytes

/-- The image of a step. -/
def Step.toBytes : Step → Bytes
  | .mk line instruction => ofNat 4 line.toNat ++ instruction.toBytes

/-- The image of a condition. -/
def Check.toBytes : Check → Bytes
  | .predicate setup name negated => tag 0 ++ setup.toBytes ++ ofText name ++ ofBool negated
  | .and parts => tag 1 ++ ofNat 8 parts.length ++ bytesOfChecks parts
  | .or parts => tag 2 ++ ofNat 8 parts.length ++ bytesOfChecks parts
  | .iterNext => tag 3
  | .always => tag 4

/-- The images of some conditions. -/
def bytesOfChecks : List Check → Bytes
  | [] => []
  | part :: rest => part.toBytes ++ bytesOfChecks rest

/-- The image of an instruction. -/
def Instruction.toBytes : Instruction → Bytes
  | .createFrame => tag 0
  | .literal value => tag 1 ++ value.toBytes
  | .interpolate fragments => tag 2 ++ Bytes.ofList Fragment.toBytes fragments
  | .get name => tag 3 ++ ofText name
  | .operate op => tag 4 ++ ofText op
  | .assign target op => tag 5 ++ target.toBytes ++ ofText? op
  | .assignMulti targets op =>
    tag 6 ++ ofNat 8 targets.length ++ bytesOfBlocks targets ++ ofText? op
  | .index => tag 7
  | .call function => tag 8 ++ ofText function
  | .closure body => tag 9 ++ body.toBytes
  | .bind name body isInline _ => tag 10 ++ ofText name ++ body.toBytes ++ ofBool isInline
  | .decide check onTrue onFalse =>
    tag 11 ++ check.toBytes ++ onTrue.toBytes ++ bytesOfBlock? onFalse
  | .loop check body increment => tag 12 ++ check.toBytes ++ body.toBytes ++ bytesOfBlock? increment
  | .iterCreate key value => tag 13 ++ ofText? key ++ ofText value
  | .iterDestroy => tag 14
  | .objectNew className => tag 15 ++ ofText className
  | .objectAccess member className => tag 16 ++ ofText? member ++ ofText? className
  | .try body handler var => tag 17 ++ body.toBytes ++ handler.toBytes ++ ofText var
  | .flow kind value => tag 18 ++ kind.toBytes ++ ofBool value

end

/-- The binary image of a program. -/
def Program.toBytes (p : Program) : Bytes :=
  ofText p.name ++ p.main.toBytes

/-- Equality of programs by their images. A literal that is not a number differs from itself. -/
def Program.agrees (p q : Program) : Bool :=
  p.toBytes = q.toBytes && !p.main.hasNotNumber

/-! ## Reading -/

/-- A reader takes what it reads off the front of the bytes. -/
abbrev ByteReader := StateT Bytes Option

namespace ByteReader

/-- The next `count` bytes. -/
def take : Nat → ByteReader Bytes
  | 0, bytes => some ([], bytes)
  | _ + 1, [] => none
  | count + 1, b :: bytes => (take count bytes).map fun (front, rest) => (b :: front, rest)

/-- A number of `count` bytes. -/
def nat (count : Nat) : ByteReader Nat :=
  return toNat (← take count)

/-- A truth value. -/
def bool : ByteReader Bool := do
  match ← nat 1 with
  | 0 => return false
  | 1 => return true
  | _ => failure

/-- A text after its length in bytes. -/
def text : ByteReader String := do
  let bytes ← take (← nat 8)
  match String.fromUTF8? (ByteArray.mk bytes.toArray) with
  | some s => return s
  | none => failure

/-- A value that may be missing. -/
def optional {α : Type} (item : ByteReader α) : ByteReader (Option α) := do
  if ← bool then return some (← item) else return none

/-- `count` items. -/
def repeated {α : Type} (item : ByteReader α) : Nat → ByteReader (List α)
  | 0 => return []
  | count + 1 => do
    let first ← item
    let rest ← repeated item count
    return first :: rest

/-- Items after their number. -/
def list {α : Type} (item : ByteReader α) : ByteReader (List α) := do
  repeated item (← nat 8)

/-- A constant. -/
def literal : ByteReader Literal := do
  match ← nat 4 with
  | 0 => return .null
  | 1 => return .int (UInt64.ofNat (← nat 8)).toInt64
  | 2 => return .float (UInt64.ofNat (← nat 8))
  | 3 => return .str (← text)
  | _ => failure

/-- A piece of interpolated text. -/
def fragment : ByteReader Fragment := do
  match ← nat 4 with
  | 0 => return .text (← text)
  | 1 => return .var (← text)
  | _ => failure

/-- A flow. -/
def flowKind : ByteReader FlowKind := do
  match ← nat 4 with
  | 0 => return .return
  | 1 => return .break
  | 2 => return .continue
  | 3 => return .throw
  | 4 => return .yield
  | 5 => return .callcc
  | _ => failure

mutual

/-- A block nested less than `fuel` deep. -/
def block : Nat → ByteReader Block
  | 0 => failure
  | fuel + 1 => return .mk (← optional text) (← list (step fuel))

/-- A step. -/
def step : Nat → ByteReader Step
  | 0 => failure
  | fuel + 1 => return .mk (UInt32.ofNat (← nat 4)) (← instruction fuel)

/-- A condition. -/
def check : Nat → ByteReader Check
  | 0 => failure
  | fuel + 1 => do
    match ← nat 4 with
    | 0 => return .predicate (← block fuel) (← text) (← bool)
    | 1 => return .and (← list (check fuel))
    | 2 => return .or (← list (check fuel))
    | 3 => return .iterNext
    | 4 => return .always
    | _ => failure

/-- An instruction. -/
def instruction : Nat → ByteReader Instruction
  | 0 => failure
  | fuel + 1 => do
    match ← nat 4 with
    | 0 => return .createFrame
    | 1 => return .literal (← literal)
    | 2 => return .interpolate (← list fragment)
    | 3 => return .get (← text)
    | 4 => return .operate (← text)
    | 5 => return .assign (← block fuel) (← optional text)
    | 6 => return .assignMulti (← list (block fuel)) (← optional text)
    | 7 => return .index
    | 8 => return .call (← text)
    | 9 => return .closure (← block fuel)
    | 10 => return .bind (← text) (← block fuel) (← bool) 0
    | 11 => return .decide (← check fuel) (← block fuel) (← optional (block fuel))
    | 12 => return .loop (← check fuel) (← block fuel) (← optional (block fuel))
    | 13 => return .iterCreate (← optional text) (← text)
    | 14 => return .iterDestroy
    | 15 => return .objectNew (← text)
    | 16 => return .objectAccess (← optional text) (← optional text)
    | 17 => return .try (← block fuel) (← block fuel) (← text)
    | 18 => return .flow (← flowKind) (← bool)
    | _ => failure

end

end ByteReader

/-- The program of a binary image. Every block, step, condition and instruction takes at least one
byte, so the number of bytes bounds how deep they nest. -/
def Program.ofBytes? (bytes : Bytes) : Option Program :=
  let read : ByteReader Program :=
    return ⟨← ByteReader.text, ← ByteReader.block (bytes.length + 1)⟩
  (read.run bytes).map (·.1)

end CellScript
