/-!
# Programs

A compiled script is a tree of blocks of steps. Each step carries the line it came from. Operands
are evaluated into a frame: a step that consumes operands collapses the frame that an earlier
`createFrame` opened.

## Main definitions

* `Literal`, `Fragment` — constants and the pieces of interpolated text.
* `Block`, `Step`, `Check`, `Instruction` — the tree.
* `Program` — a named block.
-/

namespace CellScript

/-- A constant. A float is kept as its bits, so that images preserve it exactly. -/
inductive Literal where
  | null
  | int (n : Int64)
  | float (bits : UInt64)
  | str (s : String)
  deriving DecidableEq, Inhabited, Repr

/-- A piece of interpolated text: plain text or the name of a variable. -/
inductive Fragment where
  | text (s : String)
  | var (name : String)
  deriving DecidableEq, Inhabited, Repr

/-- The ways in which a step leaves its block on purpose. -/
inductive FlowKind where
  | return
  | break
  | continue
  | throw
  | yield
  | callcc
  deriving DecidableEq, Inhabited, Repr

mutual

/-- Steps in order, and the source they are attributed to in stack traces. -/
inductive Block where
  | mk (source : Option String) (steps : List Step)

/-- One instruction and its line. -/
inductive Step where
  | mk (line : UInt32) (instruction : Instruction)

/-- A condition. -/
inductive Check where
  /-- evaluate `setup` into a fresh frame, then ask the named predicate -/
  | predicate (setup : Block) (name : String) (negated : Bool)
  | and (parts : List Check)
  | or (parts : List Check)
  /-- advance the innermost iterator; false once it is exhausted -/
  | iterNext
  | always

/-- What a step does. -/
inductive Instruction where
  | createFrame
  | literal (value : Literal)
  | interpolate (fragments : List Fragment)
  | get (name : String)
  | operate (op : String)
  | assign (target : Block) (op : Option String)
  | assignMulti (targets : List Block) (op : Option String)
  | index
  | call (function : String)
  | closure (body : Block)
  /-- define a named function, or an inline block; `site` tells apart the definitions of a loaded
  program and is zero in one that is not loaded -/
  | bind (name : String) (body : Block) (isInline : Bool) (site : Nat)
  | decide (check : Check) (onTrue : Block) (onFalse : Option Block)
  | loop (check : Check) (body : Block) (increment : Option Block)
  | iterCreate (key : Option String) (value : String)
  | iterDestroy
  | objectNew (className : String)
  /-- with a class this is a static access; otherwise the first operand is the receiver. Without a
  member a closure receiver is called without a message -/
  | objectAccess (member : Option String) (className : Option String)
  | try (body : Block) (handler : Block) (var : String)
  /-- with `value` the flow carries the last operand of the current frame, which is then
  collapsed -/
  | flow (kind : FlowKind) (value : Bool)

end

instance : Inhabited Block := ⟨.mk none []⟩
instance : Inhabited Step := ⟨.mk 0 .createFrame⟩
instance : Inhabited Check := ⟨.always⟩
instance : Inhabited Instruction := ⟨.createFrame⟩

namespace Block

def source : Block → Option String
  | .mk source _ => source

def steps : Block → List Step
  | .mk _ steps => steps

/-- Line of the first step, or 0 for an empty block. -/
def firstLine (b : Block) : UInt32 :=
  match b.steps with
  | [] => 0
  | .mk line _ :: _ => line

/-- The block attributed to `source` unless it has a source already. -/
def withDefaultSource (b : Block) (source : String) : Block :=
  .mk (some (b.source.getD source)) b.steps

end Block

namespace Step

def line : Step → UInt32
  | .mk line _ => line

def instruction : Step → Instruction
  | .mk _ instruction => instruction

end Step

/-- A named script. -/
structure Program where
  name : String
  main : Block
  deriving Inhabited

/-- A program of a name and a block, which is attributed to the name unless it has a source. -/
def Program.ofBlock (name : String) (main : Block) : Program :=
  ⟨name, main.withDefaultSource name⟩

end CellScript
