import CellScript.Program.Basic

/-!
# The instructions of a program

All instructions of a tree in the order of its listing, nested blocks and the operands of conditions
included, and the numbering of the definitions among them.

## Main definitions

* `Block.contents` — every instruction of a block, nested ones included.
* `Block.hasNotNumber` — whether a literal of the block is not a number.
* `Block.numbered` — the block with its definitions told apart.
-/

namespace CellScript

mutual

/-- Every instruction of a block, nested ones included. -/
def Block.contents : Block → List Instruction
  | .mk _ steps => contentsOfSteps steps

/-- Every instruction of some steps. -/
def contentsOfSteps : List Step → List Instruction
  | [] => []
  | step :: rest => step.contents ++ contentsOfSteps rest

/-- Every instruction of some blocks. -/
def contentsOfBlocks : List Block → List Instruction
  | [] => []
  | block :: rest => block.contents ++ contentsOfBlocks rest

/-- Every instruction of a block that may be missing. -/
def contentsOfBlock? : Option Block → List Instruction
  | none => []
  | some block => block.contents

/-- Every instruction of a step. -/
def Step.contents : Step → List Instruction
  | .mk _ instruction => instruction :: instruction.inner

/-- Every instruction nested in a condition. -/
def Check.inner : Check → List Instruction
  | .predicate setup _ _ => setup.contents
  | .and parts | .or parts => innerOfChecks parts
  | .iterNext | .always => []

/-- Every instruction nested in some conditions. -/
def innerOfChecks : List Check → List Instruction
  | [] => []
  | part :: rest => part.inner ++ innerOfChecks rest

/-- Every instruction nested in an instruction. -/
def Instruction.inner : Instruction → List Instruction
  | .assign target _ => target.contents
  | .assignMulti targets _ => contentsOfBlocks targets
  | .closure body | .bind _ body _ _ => body.contents
  | .decide check onTrue onFalse => check.inner ++ onTrue.contents ++ contentsOfBlock? onFalse
  | .loop check body increment => check.inner ++ body.contents ++ contentsOfBlock? increment
  | .try body handler _ => body.contents ++ handler.contents
  | _ => []

end

/-- Whether the bits are those of a float that is not a number. -/
def Literal.isNotNumber : Literal → Bool
  | .float bits => (Float.ofBits bits).isNaN
  | _ => false

/-- Whether some literal of the block is not a number. -/
def Block.hasNotNumber (b : Block) : Bool :=
  b.contents.any fun
    | .literal value => value.isNotNumber
    | _ => false

mutual

/-- Number the definitions of a block from `next` on; answers the next free number too. -/
def Block.number (next : Nat) : Block → Block × Nat
  | .mk source steps =>
    let (steps, next) := numberSteps next steps
    (.mk source steps, next)

/-- Number the definitions of some steps. -/
def numberSteps (next : Nat) : List Step → List Step × Nat
  | [] => ([], next)
  | step :: rest =>
    let (step, next) := step.number next
    let (rest, next) := numberSteps next rest
    (step :: rest, next)

/-- Number the definitions of some blocks. -/
def numberBlocks (next : Nat) : List Block → List Block × Nat
  | [] => ([], next)
  | block :: rest =>
    let (block, next) := block.number next
    let (rest, next) := numberBlocks next rest
    (block :: rest, next)

/-- Number the definitions of a block that may be missing. -/
def numberBlock? (next : Nat) : Option Block → Option Block × Nat
  | none => (none, next)
  | some block =>
    let (block, next) := block.number next
    (some block, next)

/-- Number the definitions of a step. -/
def Step.number (next : Nat) : Step → Step × Nat
  | .mk line instruction =>
    let (instruction, next) := instruction.number next
    (.mk line instruction, next)

/-- Number the definitions in a condition. -/
def Check.number (next : Nat) : Check → Check × Nat
  | .predicate setup name negated =>
    let (setup, next) := setup.number next
    (.predicate setup name negated, next)
  | .and parts =>
    let (parts, next) := numberChecks next parts
    (.and parts, next)
  | .or parts =>
    let (parts, next) := numberChecks next parts
    (.or parts, next)
  | .iterNext => (.iterNext, next)
  | .always => (.always, next)

/-- Number the definitions in some conditions. -/
def numberChecks (next : Nat) : List Check → List Check × Nat
  | [] => ([], next)
  | part :: rest =>
    let (part, next) := part.number next
    let (rest, next) := numberChecks next rest
    (part :: rest, next)

/-- Number the definitions of an instruction. -/
def Instruction.number (next : Nat) : Instruction → Instruction × Nat
  | .assign target op =>
    let (target, next) := target.number next
    (.assign target op, next)
  | .assignMulti targets op =>
    let (targets, next) := numberBlocks next targets
    (.assignMulti targets op, next)
  | .closure body =>
    let (body, next) := body.number next
    (.closure body, next)
  | .bind name body isInline _ =>
    let (body, next') := body.number (next + 1)
    (.bind name body isInline next, next')
  | .decide check onTrue onFalse =>
    let (check, next) := check.number next
    let (onTrue, next) := onTrue.number next
    let (onFalse, next) := numberBlock? next onFalse
    (.decide check onTrue onFalse, next)
  | .loop check body increment =>
    let (check, next) := check.number next
    let (body, next) := body.number next
    let (increment, next) := numberBlock? next increment
    (.loop check body increment, next)
  | .try body handler var =>
    let (body, next) := body.number next
    let (handler, next) := handler.number next
    (.try body handler var, next)
  | instruction => (instruction, next)

end

/-- The block with its definitions numbered from 1 on. -/
def Block.numbered (b : Block) : Block :=
  (b.number 1).1

end CellScript
