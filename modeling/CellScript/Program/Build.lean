import CellScript.Program.Basic

/-!
# Building programs

Expressions, conditions and statements, and their lowering to steps. An operation that consumes
operands opens a frame, evaluates each operand into it and collapses it with one consuming step. All
steps of a statement carry its line; each statement takes the current line and advances it by one.

## Main definitions

* `Expr`, `Cond`, `Statement`, `Body` — what a front end builds.
* `Expr.lower`, `Cond.lower`, `Body.build` — their lowering.
* `Check.negate` — the opposite condition, by De Morgan's laws.
-/

namespace CellScript

mutual

/-- An expression. -/
inductive Expr where
  | literal (value : Literal)
  | interpolate (fragments : List Fragment)
  | var (name : String)
  | op (op : String) (operands : List Expr)
  | call (function : String) (args : List Expr)
  | index (container index : Expr)
  | assign (target : Expr) (op : Option String) (value : Expr)
  | assignMulti (targets : List Expr) (op : Option String) (source : Expr)
  | closure (body : Body)
  | new (className : String) (args : List Expr)
  /-- a message to a host object or closure; without a member a plain call of a closure -/
  | send (receiver : Expr) (member : Option String) (args : List Expr)
  | static (className member : String) (args : List Expr)

/-- A condition. -/
inductive Cond where
  | pred (name : String) (args : List Expr)
  | not (cond : Cond)
  | and (parts : List Cond)
  | or (parts : List Cond)
  /-- true when the value is truthy -/
  | truthy (value : Expr)
  | always

/-- A statement. -/
inductive Statement where
  | expr (e : Expr)
  /-- declare names in the current local scope -/
  | declare (names : List String)
  | flow (kind : FlowKind) (value : Option Expr)
  | branch (cond : Cond) (onTrue : Body) (onFalse : Option Body)
  | while (cond : Cond) (body : Body)
  | for (start : List Expr) (cond : Cond) (increment : List Expr) (body : Body)
  | foreach (key : Option String) (value : String) (source : Expr) (body : Body)
  | try (body : Body) (var : String) (handler : Body)
  | define (name : String) (body : Body) (isInline : Bool)
  /-- move the current line -/
  | line (n : UInt32)
  /-- one step as it is -/
  | raw (instruction : Instruction)

/-- Statements from a line on, with the source they are attributed to. -/
inductive Body where
  | mk (source : Option String) (line : UInt32) (statements : List Statement)

end

instance : Inhabited Expr := ⟨.literal .null⟩
instance : Inhabited Cond := ⟨.always⟩
instance : Inhabited Body := ⟨.mk none 1 []⟩

mutual

/-- The opposite of a condition. The opposite of the constant condition asks whether a literal is
false. -/
def Check.negate (line : UInt32) : Check → Check
  | .predicate setup name negated => .predicate setup name !negated
  | .and parts => .or (negateChecks line parts)
  | .or parts => .and (negateChecks line parts)
  | .always => .predicate (.mk none [.mk line (.literal (.int 1))]) "-istrue" true
  | .iterNext => .iterNext

/-- The opposites of several conditions. -/
def negateChecks (line : UInt32) : List Check → List Check
  | [] => []
  | part :: rest => part.negate line :: negateChecks line rest

end

mutual

/-- The steps of an expression. They leave one value on the current frame. -/
def Expr.lower (line : UInt32) : Expr → List Step
  | .literal value => [.mk line (.literal value)]
  | .interpolate fragments => [.mk line (.interpolate fragments)]
  | .var name => [.mk line (.get name)]
  | .op op operands => .mk line .createFrame :: lowerAll line operands ++ [.mk line (.operate op)]
  | .call function args =>
    .mk line .createFrame :: lowerAll line args ++ [.mk line (.call function)]
  | .index container index =>
    .mk line .createFrame :: container.lower line ++ index.lower line ++ [.mk line .index]
  | .assign target op value =>
    .mk line .createFrame :: value.lower line ++
      [.mk line (.assign (.mk none (target.lower line)) op)]
  | .assignMulti targets op source =>
    .mk line .createFrame :: source.lower line ++
      [.mk line (.assignMulti (lowerTargets line targets) op)]
  | .closure body => [.mk line (.closure body.build)]
  | .new className args =>
    .mk line .createFrame :: lowerAll line args ++ [.mk line (.objectNew className)]
  | .send receiver member args =>
    .mk line .createFrame :: receiver.lower line ++ lowerAll line args ++
      [.mk line (.objectAccess member none)]
  | .static className member args =>
    .mk line .createFrame :: lowerAll line args ++
      [.mk line (.objectAccess (some member) (some className))]

/-- The steps of several expressions, one value each. -/
def lowerAll (line : UInt32) : List Expr → List Step
  | [] => []
  | e :: rest => e.lower line ++ lowerAll line rest

/-- The blocks of several assignment targets. -/
def lowerTargets (line : UInt32) : List Expr → List Block
  | [] => []
  | e :: rest => .mk none (e.lower line) :: lowerTargets line rest

/-- The check of a condition. -/
def Cond.lower (line : UInt32) : Cond → Check
  | .pred name args => .predicate (.mk none (lowerAll line args)) name false
  | .truthy value => .predicate (.mk none (value.lower line)) "-istrue" false
  | .and parts => .and (lowerConds line parts)
  | .or parts => .or (lowerConds line parts)
  | .always => .always
  | .not cond => (cond.lower line).negate line

/-- The checks of several conditions. -/
def lowerConds (line : UInt32) : List Cond → List Check
  | [] => []
  | c :: rest => c.lower line :: lowerConds line rest

/-- The steps of a statement at its line; moving the line takes none. -/
def Statement.lower (line : UInt32) : Statement → List Step
  | .expr e => e.lower line
  | .declare names =>
    .mk line .createFrame :: names.map (fun n => .mk line (.literal (.str n))) ++
      [.mk line (.call "&local")]
  | .flow kind none => [.mk line (.flow kind false)]
  | .flow kind (some value) =>
    .mk line .createFrame :: value.lower line ++ [.mk line (.flow kind true)]
  | .branch cond onTrue onFalse =>
    [.mk line (.decide (cond.lower line) onTrue.build (buildBody? onFalse))]
  | .while cond body => [.mk line (.loop (cond.lower line) body.build none)]
  | .for start cond increment body =>
    let after := lowerAll line increment
    lowerAll line start ++ [.mk line (.loop (cond.lower line) body.build
      (if after.isEmpty then none else some (.mk none after)))]
  | .foreach key value source body =>
    .mk line .createFrame :: source.lower line ++
      [.mk line (.iterCreate key value), .mk line (.loop .iterNext body.build none),
        .mk line .iterDestroy]
  | .try body var handler => [.mk line (.try body.build handler.build var)]
  | .define name body isInline => [.mk line (.bind name body.build isInline 0)]
  | .line _ => []
  | .raw instruction => [.mk line instruction]

/-- The steps of statements from a line on. -/
def lowerStatements (line : UInt32) : List Statement → List Step
  | [] => []
  | .line n :: rest => lowerStatements n rest
  | s :: rest => s.lower line ++ lowerStatements (line + 1) rest

/-- The block of a body. -/
def Body.build : Body → Block
  | .mk source line statements => .mk source (lowerStatements line statements)

/-- The block of a body that may be missing. -/
def buildBody? : Option Body → Option Block
  | none => none
  | some body => some body.build

end

end CellScript
