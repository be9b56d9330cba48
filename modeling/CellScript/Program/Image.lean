import CellScript.Decimal.Format
import CellScript.Json.Printer
import CellScript.Json.Reader
import CellScript.Json.Record
import CellScript.Program.Listing

/-!
# Program images in JSON

The textual image of a program: records with their fields in a fixed order, variants by name.

## Main definitions

* `Program.toJson` — the image of a program.
* `Program.ofJson?` — the program of an image, which may nest at most 127 lists and objects.
-/

namespace CellScript

/-- An optional text. -/
def optionalText : Option String → Json
  | none => .null
  | some s => .string s

/-- The variant `name` that holds a record. -/
def variantRecord (name : String) (fields : List (String × Json)) : Json :=
  .object [(name, .object fields)]

/-- The image of a constant. -/
def Literal.toImage : Literal → Json
  | .null => .string "Null"
  | .int n => .object [("Int", .number (toString n.toInt))]
  | .float bits =>
    let x := Float.ofBits bits
    .object [("Float", if x.isFinite then .number (Decimal.image.write x) else .null)]
  | .str s => .object [("Str", .string s)]

/-- The image of a piece of interpolated text. -/
def Fragment.toImage : Fragment → Json
  | .text s => .object [("Text", .string s)]
  | .var name => .object [("Var", .string name)]

mutual

/-- The image of a block. -/
def Block.toImage : Block → Json
  | .mk source steps =>
    .object [("source", optionalText source), ("steps", .array (imagesOfSteps steps))]

/-- The images of some steps. -/
def imagesOfSteps : List Step → List Json
  | [] => []
  | step :: rest => step.toImage :: imagesOfSteps rest

/-- The images of some blocks. -/
def imagesOfBlocks : List Block → List Json
  | [] => []
  | block :: rest => block.toImage :: imagesOfBlocks rest

/-- The image of a block that may be missing. -/
def imageOfBlock? : Option Block → Json
  | none => .null
  | some block => block.toImage

/-- The image of a step. -/
def Step.toImage : Step → Json
  | .mk line instruction =>
    .object [("line", .number (toString line.toNat)), ("kind", instruction.toImage)]

/-- The image of a condition. -/
def Check.toImage : Check → Json
  | .predicate setup name negated =>
    variantRecord "Predicate"
      [("setup", setup.toImage), ("name", .string name), ("negated", .bool negated)]
  | .and parts => .object [("And", .array (imagesOfChecks parts))]
  | .or parts => .object [("Or", .array (imagesOfChecks parts))]
  | .iterNext => .string "IterNext"
  | .always => .string "Always"

/-- The images of some conditions. -/
def imagesOfChecks : List Check → List Json
  | [] => []
  | part :: rest => part.toImage :: imagesOfChecks rest

/-- The image of an instruction. -/
def Instruction.toImage : Instruction → Json
  | .createFrame => .string "CreateFrame"
  | .literal value => .object [("Literal", value.toImage)]
  | .interpolate fragments => .object [("Interpolate", .array (fragments.map Fragment.toImage))]
  | .get name => variantRecord "Get" [("name", .string name)]
  | .operate op => variantRecord "Operate" [("op", .string op)]
  | .assign target op =>
    variantRecord "Assign" [("target", target.toImage), ("op", optionalText op)]
  | .assignMulti targets op =>
    variantRecord "AssignMulti"
      [("targets", .array (imagesOfBlocks targets)), ("op", optionalText op)]
  | .index => .string "Index"
  | .call function => variantRecord "Call" [("function", .string function)]
  | .closure body => variantRecord "Closure" [("body", body.toImage)]
  | .bind name body isInline _ =>
    variantRecord "Bind" [("name", .string name), ("body", body.toImage),
      ("inline", .bool isInline)]
  | .decide check onTrue onFalse =>
    variantRecord "Decide"
      [("check", check.toImage), ("then", onTrue.toImage), ("otherwise", imageOfBlock? onFalse)]
  | .loop check body increment =>
    variantRecord "Loop"
      [("check", check.toImage), ("body", body.toImage), ("increment", imageOfBlock? increment)]
  | .iterCreate key value =>
    variantRecord "IterCreate" [("key", optionalText key), ("value", .string value)]
  | .iterDestroy => .string "IterDestroy"
  | .objectNew className => variantRecord "ObjectNew" [("class", .string className)]
  | .objectAccess member className =>
    variantRecord "ObjectAccess"
      [("member", optionalText member), ("class", optionalText className)]
  | .try body handler var =>
    variantRecord "Try" [("body", body.toImage), ("handler", handler.toImage), ("var", .string var)]
  | .flow kind value => variantRecord "Flow" [("kind", .string kind.name), ("value", .bool value)]

end

/-- The image of a program as a document. -/
def Program.toImage (p : Program) : Json :=
  .object [("name", .string p.name), ("main", p.main.toImage)]

/-- The textual image of a program. -/
def Program.toJson (p : Program) : String :=
  p.toImage.pretty

/-! ## Reading -/

/-- How many lists and objects a program image may nest. -/
def imageNesting : Nat := 127

/-- A variant without content: its name, alone or holding nothing. Holding it opens an object. -/
def bareName? (room : Nat) (j : Json) : Option String :=
  match j.variant?, room with
  | some (.bare name), _ => some name
  | some (.holding name .null), _ + 1 => some name
  | _, _ => none

/-- The constant of an image. -/
def Literal.ofImage? (room : Nat) (j : Json) : Option Literal :=
  match room, j.variant? with
  | _ + 1, some (.holding "Int" content) => content.int64?.map .int
  | _ + 1, some (.holding "Float" content) => content.number?.map fun x => .float x.toBits
  | _ + 1, some (.holding "Str" content) => content.text?.map .str
  | _, _ => if bareName? room j = some "Null" then some .null else none

/-- The piece of interpolated text of an image. -/
def Fragment.ofImage? (room : Nat) (j : Json) : Option Fragment :=
  match room, j.variant? with
  | _ + 1, some (.holding "Text" content) => content.text?.map .text
  | _ + 1, some (.holding "Var" content) => content.text?.map .var
  | _, _ => none

/-- The flow of an image. -/
def FlowKind.ofImage? (room : Nat) (j : Json) : Option FlowKind :=
  match bareName? room j with
  | some "Return" => some .return
  | some "Break" => some .break
  | some "Continue" => some .continue
  | some "Throw" => some .throw
  | some "Yield" => some .yield
  | some "CallCC" => some .callcc
  | _ => none

/-- An optional text in a field that may be missing. -/
def textField? (field : Option Json) : Option (Option String) :=
  Json.orDefault? none (Json.optional? Json.text?) field

mutual

/-- The block of an image. -/
def Block.ofImage? : Nat → Json → Option Block
  | 0, _ => none
  | room + 1, j => do
    let [source, steps] ← j.fieldsOf? ["source", "steps"] | none
    some (.mk (← textField? source) (← stepsOfImage? room (← steps)))

/-- The steps of an image. -/
def stepsOfImage? : Nat → Json → Option (List Step)
  | room + 1, .array items => items.mapM (Step.ofImage? room)
  | _, _ => none

/-- The blocks of an image. -/
def blocksOfImage? : Nat → Json → Option (List Block)
  | room + 1, .array items => items.mapM (Block.ofImage? room)
  | _, _ => none

/-- The step of an image. -/
def Step.ofImage? : Nat → Json → Option Step
  | 0, _ => none
  | room + 1, j => do
    let [line, kind] ← j.fieldsOf? ["line", "kind"] | none
    some (.mk (UInt32.ofNat (← (← line).unsigned? 32)) (← Instruction.ofImage? room (← kind)))

/-- The condition of an image. -/
def Check.ofImage? : Nat → Json → Option Check
  | room + 2, .object [("Predicate", j)] => do
    let [setup, name, negated] ← j.fieldsOf? ["setup", "name", "negated"] | none
    some (.predicate (← Block.ofImage? room (← setup)) (← (← name).text?) (← (← negated).flag?))
  | room + 2, .object [("And", .array parts)] => (parts.mapM (Check.ofImage? room)).map .and
  | room + 2, .object [("Or", .array parts)] => (parts.mapM (Check.ofImage? room)).map .or
  | room, j =>
    match bareName? room j with
    | some "IterNext" => some .iterNext
    | some "Always" => some .always
    | _ => none

/-- The instruction of an image. -/
def Instruction.ofImage? : Nat → Json → Option Instruction
  | room + 1, .object [("Literal", j)] => (Literal.ofImage? room j).map .literal
  | room + 2, .object [("Interpolate", .array items)] =>
    (items.mapM (Fragment.ofImage? room)).map .interpolate
  | room + 2, .object [(variant, j)] =>
    match variant with
    | "Get" => do
      let [name] ← j.fieldsOf? ["name"] | none
      some (.get (← (← name).text?))
    | "Operate" => do
      let [op] ← j.fieldsOf? ["op"] | none
      some (.operate (← (← op).text?))
    | "Assign" => do
      let [target, op] ← j.fieldsOf? ["target", "op"] | none
      some (.assign (← Block.ofImage? room (← target)) (← textField? op))
    | "AssignMulti" => do
      let [targets, op] ← j.fieldsOf? ["targets", "op"] | none
      some (.assignMulti (← blocksOfImage? room (← targets)) (← textField? op))
    | "Call" => do
      let [function] ← j.fieldsOf? ["function"] | none
      some (.call (← (← function).text?))
    | "Closure" => do
      let [body] ← j.fieldsOf? ["body"] | none
      some (.closure (← Block.ofImage? room (← body)))
    | "Bind" => do
      let [name, body, isInline] ← j.fieldsOf? ["name", "body", "inline"] | none
      some (.bind (← (← name).text?) (← Block.ofImage? room (← body))
        (← Json.orDefault? false Json.flag? isInline) 0)
    | "Decide" => do
      let [check, onTrue, onFalse] ← j.fieldsOf? ["check", "then", "otherwise"] | none
      some (.decide (← Check.ofImage? room (← check)) (← Block.ofImage? room (← onTrue))
        (← Json.orDefault? none (Json.optional? (Block.ofImage? room)) onFalse))
    | "Loop" => do
      let [check, body, increment] ← j.fieldsOf? ["check", "body", "increment"] | none
      some (.loop (← Check.ofImage? room (← check)) (← Block.ofImage? room (← body))
        (← Json.orDefault? none (Json.optional? (Block.ofImage? room)) increment))
    | "IterCreate" => do
      let [key, value] ← j.fieldsOf? ["key", "value"] | none
      some (.iterCreate (← textField? key) (← (← value).text?))
    | "ObjectNew" => do
      let [className] ← j.fieldsOf? ["class"] | none
      some (.objectNew (← (← className).text?))
    | "ObjectAccess" => do
      let [member, className] ← j.fieldsOf? ["member", "class"] | none
      some (.objectAccess (← textField? member) (← textField? className))
    | "Try" => do
      let [body, handler, var] ← j.fieldsOf? ["body", "handler", "var"] | none
      some (.try (← Block.ofImage? room (← body)) (← Block.ofImage? room (← handler))
        (← (← var).text?))
    | "Flow" => do
      let [kind, value] ← j.fieldsOf? ["kind", "value"] | none
      some (.flow (← FlowKind.ofImage? room (← kind)) (← Json.orDefault? false Json.flag? value))
    | _ => plainInstruction? (bareName? 1 (.object [(variant, j)]))
  | room, j => plainInstruction? (bareName? room j)
where
  plainInstruction? : Option String → Option Instruction
    | some "CreateFrame" => some .createFrame
    | some "Index" => some .index
    | some "IterDestroy" => some .iterDestroy
    | _ => none

end

/-- The program of a document. -/
def Program.ofImage? (j : Json) : Option Program :=
  j.record? ["name", "main"] imageNesting fun room fields => do
    let [name, main] := fields | none
    some ⟨← (← name).text?, ← Block.ofImage? room (← main)⟩

/-- The program of a textual image. -/
def Program.ofJson? (text : String) : Option Program :=
  (Json.read? text).bind Program.ofImage?

end CellScript
