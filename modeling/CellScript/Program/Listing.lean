import CellScript.Decimal.Format
import CellScript.Program.Basic
import CellScript.Text.Quoted

/-!
# Program listings

An indented listing of a program tree, one step a line; nested blocks stand below their step, two
blanks further in.

## Main definitions

* `Check.describe` — a condition on one line.
* `Block.listing` — the listing of a block.
-/

namespace CellScript

/-- A constant as a listing shows it. -/
def Literal.describe : Literal → String
  | .null => "Null"
  | .int n => "Int(" ++ toString n.toInt ++ ")"
  | .float bits => "Float(" ++ Decimal.listing.write (Float.ofBits bits) ++ ")"
  | .str s => "Str(" ++ Text.quoted s ++ ")"

/-- A piece of interpolated text as a listing shows it. -/
def Fragment.describe : Fragment → String
  | .text s => "Text(" ++ Text.quoted s ++ ")"
  | .var name => "Var(" ++ Text.quoted name ++ ")"

/-- The name of a flow in listings and images. -/
def FlowKind.name : FlowKind → String
  | .return => "Return"
  | .break => "Break"
  | .continue => "Continue"
  | .throw => "Throw"
  | .yield => "Yield"
  | .callcc => "CallCC"

mutual

/-- A condition on one line, without the operands of its predicates. -/
def Check.describe : Check → String
  | .predicate _ name negated => (if negated then "!" else "") ++ name
  | .and parts => String.intercalate " && " (describeChecks parts)
  | .or parts => String.intercalate " || " (describeChecks parts)
  | .iterNext => "next"
  | .always => "true"

/-- The parts of a compound condition. -/
def describeChecks : List Check → List String
  | [] => []
  | part :: rest => part.describe :: describeChecks rest

end

/-- The blanks in front of a line at some depth. -/
def indent (depth : Nat) : String :=
  String.ofList (List.replicate (2 * depth) ' ')

mutual

/-- The lines of a block at some depth. -/
def Block.listingLines (depth : Nat) : Block → List String
  | .mk _ steps => listingOfSteps depth steps

/-- The lines of several steps. -/
def listingOfSteps (depth : Nat) : List Step → List String
  | [] => []
  | step :: rest => step.listingLines depth ++ listingOfSteps depth rest

/-- The lines of several blocks. -/
def listingOfBlocks (depth : Nat) : List Block → List String
  | [] => []
  | block :: rest => block.listingLines depth ++ listingOfBlocks depth rest

/-- The lines of a block that may be missing, under a heading at the depth of its step. -/
def listingUnder (heading : String) (depth : Nat) : Option Block → List String
  | none => []
  | some block => (indent depth ++ heading) :: block.listingLines (depth + 1)

/-- The lines of a step. -/
def Step.listingLines (depth : Nat) : Step → List String
  | .mk line instruction =>
    instruction.listingLines depth (indent depth ++ "[" ++ toString line.toNat ++ "] ")

/-- The lines of an instruction; `start` stands in front of the first one. -/
def Instruction.listingLines (depth : Nat) (start : String) : Instruction → List String
  | .createFrame => [start ++ "CreateFrame"]
  | .literal value => [start ++ "Literal " ++ value.describe]
  | .interpolate fragments =>
    [start ++ "Interpolate [" ++ String.intercalate ", " (fragments.map Fragment.describe) ++ "]"]
  | .get name => [start ++ "Get " ++ name]
  | .operate op => [start ++ "Operate " ++ op]
  | .assign target op => (start ++ "Assign " ++ op.getD "=") :: target.listingLines (depth + 1)
  | .assignMulti targets op =>
    (start ++ "AssignMulti " ++ op.getD "=" ++ " x" ++ toString targets.length) ::
      listingOfBlocks (depth + 1) targets
  | .index => [start ++ "Index"]
  | .call function => [start ++ "Call " ++ function]
  | .closure body => (start ++ "Closure") :: body.listingLines (depth + 1)
  | .bind name body isInline _ =>
    (start ++ "Bind " ++ name ++ if isInline then " (inline)" else "") ::
    body.listingLines (depth + 1)
  | .decide check onTrue onFalse =>
    (start ++ "Decide " ++ check.describe) :: onTrue.listingLines (depth + 1) ++
      listingUnder "else" depth onFalse
  | .loop check body increment =>
    (start ++ "Loop " ++ check.describe) :: body.listingLines (depth + 1) ++
      listingUnder "increment" depth increment
  | .iterCreate key value =>
    [start ++ "IterCreate " ++ (key.elim "" (· ++ ", ")) ++ value]
  | .iterDestroy => [start ++ "IterDestroy"]
  | .objectNew className => [start ++ "ObjectNew " ++ className]
  | .objectAccess member className =>
    [start ++ "ObjectAccess " ++ (className.elim "" (· ++ ".")) ++ member.getD "<call>"]
  | .try body handler var =>
    (start ++ "Try") :: body.listingLines (depth + 1) ++
      (indent depth ++ "catch " ++ var) :: handler.listingLines (depth + 1)
  | .flow kind value => [start ++ "Flow " ++ kind.name ++ if value then " (value)" else ""]

end

/-- The listing of a block, every line ended by a line feed. -/
def Block.listing (b : Block) : String :=
  String.join ((b.listingLines 0).map (· ++ "\n"))

end CellScript
