import CellScript.Heap.Basic
import CellScript.Program.Build
import CellScript.Program.Contents

/-!
# Shapes of step lists

The frames and iterators that the steps of a block have open are known before the block runs. A
block is balanced when every step finds the frame or iterator that it takes away and nothing is left
open at the end. What the builder makes is balanced, and a position at which a balanced block can be
suspended says how many loops are open there.

## Main definitions

* `Shape`, `shapeAfter` — what is open before a step, and after some steps.
* `Block.isBalanced`, `Block.isExpression` — blocks that close what they open; blocks of operand
  steps only.
* `Block.opens?` — the number of `foreach` loops that are open at a position, if a block can be
  suspended there.
* `Block.slips` — how many of them a throw that is caught in the block can leave open.
* `Body.isBuilt` — bodies without raw steps.

## Main statements

* `Body.isBalanced_build` — the builder makes balanced blocks.
* `Block.isBalanced_numbered` — numbering the definitions of a block keeps it balanced.
-/

namespace CellScript

/-- How many frames and how many iterators the steps of a block have open. -/
structure Shape where
  frames : Nat
  iterators : Nat
  deriving DecidableEq, Repr

namespace Shape

/-- The shape at the start and at the end of a block. -/
def flat : Shape := ⟨0, 0⟩

/-- A step that takes its operands' frame away. -/
def collapse (s : Shape) : Option Shape :=
  if 0 < s.frames then some { s with frames := s.frames - 1 } else none

/-- A loop, which stands outside of all frames. -/
def loop (s : Shape) (isSound : Bool) : Option Shape :=
  if s.frames = 0 ∧ isSound then some s else none

/-- Any other statement, which stands outside of the steps around a `foreach` loop as well. -/
def statement (s : Shape) (isSound : Bool) : Option Shape :=
  if s = .flat ∧ isSound then some s else none

end Shape

/-- The instructions that expressions are made of. -/
def Instruction.isOperand : Instruction → Bool
  | .createFrame | .literal _ | .interpolate _ | .get _ | .operate _ | .assign _ _
  | .assignMulti _ _ | .index
  | .call _ | .closure _ | .objectNew _ | .objectAccess _ _ => true
  | _ => false

/-- Whether all instructions of a block belong to expressions. -/
def Block.hasOperandsOnly (b : Block) : Bool :=
  b.steps.all (·.instruction.isOperand)

mutual

/-- Whether a block closes what it opens, and so do the blocks in it. -/
def Block.isBalanced : Block → Bool
  | .mk _ steps => shapeAfter .flat steps == some .flat

/-- The shape after some steps; none when one of them takes away what is not there. -/
def shapeAfter (s : Shape) : List Step → Option Shape
  | [] => some s
  | .mk _ instruction :: rest =>
    match instruction.shape? s with
    | some next => shapeAfter next rest
    | none => none

/-- The shape after an instruction. -/
def Instruction.shape? (s : Shape) : Instruction → Option Shape
  | .createFrame => some { s with frames := s.frames + 1 }
  | .literal _ | .interpolate _ | .get _ => some s
  | .operate _ | .index | .call _ | .objectNew _ | .objectAccess _ _ => s.collapse
  | .assign target _ => if target.hasOperandsOnly && target.isBalanced then s.collapse else none
  | .assignMulti targets _ => if areExpressions targets then s.collapse else none
  | .closure body => if body.isBalanced then some s else none
  | .bind _ body _ _ => if body.isBalanced then some s else none
  | .decide check onTrue onFalse =>
    s.statement (check.isSound s.iterators && onTrue.isBalanced && isBalanced? onFalse)
  | .loop check body increment =>
    s.loop (check.isSound s.iterators && body.isBalanced && isExpression? increment)
  | .iterCreate _ _ => s.collapse.map fun s => { s with iterators := s.iterators + 1 }
  | .iterDestroy => if 0 < s.iterators then some { s with iterators := s.iterators - 1 } else none
  | .try body handler _ => s.statement (body.isBalanced && handler.isBalanced)
  | .flow _ true => s.collapse.bind (·.statement true)
  | .flow _ false => s.statement true

/-- Whether all of several blocks are expressions. -/
def areExpressions : List Block → Bool
  | [] => true
  | b :: rest => b.hasOperandsOnly && b.isBalanced && areExpressions rest

/-- Whether a block that may be missing is balanced. -/
def isBalanced? : Option Block → Bool
  | none => true
  | some b => b.isBalanced

/-- Whether a block that may be missing is an expression. -/
def isExpression? : Option Block → Bool
  | none => true
  | some b => b.hasOperandsOnly && b.isBalanced

/-- Whether a condition asks expressions only, and an iterator only where one is open. -/
def Check.isSound (iterators : Nat) : Check → Bool
  | .predicate setup _ _ => setup.hasOperandsOnly && setup.isBalanced
  | .and parts | .or parts => areSound iterators parts
  | .iterNext => 0 < iterators
  | .always => true

/-- Whether several conditions are sound. -/
def areSound (iterators : Nat) : List Check → Bool
  | [] => true
  | part :: rest => part.isSound iterators && areSound iterators rest

end

/-- Whether a block is an expression: it can neither be left nor be suspended. -/
def Block.isExpression (b : Block) : Bool :=
  b.hasOperandsOnly && b.isBalanced

/-- The blocks inside of an instruction, by the number of the branch. -/
def Instruction.branch? : Instruction → Nat → Option Block
  | .decide _ onTrue _, 0 => some onTrue
  | .decide _ _ onFalse, 1 => onFalse
  | .loop _ body _, 0 => some body
  | .loop _ _ increment, 1 => increment
  | .try body _ _, 0 => some body
  | .try _ handler _, 1 => some handler
  | _, _ => none

/-- The number of iterators that are open before a step, if it stands outside of all frames. -/
def Block.iteratorsAt? (b : Block) (i : Nat) : Option Nat :=
  match shapeAfter .flat (b.steps.take i) with
  | some ⟨0, iterators⟩ => some iterators
  | _ => none

/-- The number of `foreach` loops that are open at a position, if it is one that a block can be
suspended at. -/
def Block.opens? : Cursor → Block → Option Nat
  | [], _ => none
  | [i], b => b.iteratorsAt? i
  | i :: branch :: rest, b =>
    match b.iteratorsAt? i, (b.steps[i]?).bind (·.instruction.branch? branch) with
    | some iterators, some inside => (inside.opens? rest).map (iterators + ·)
    | _, _ => none

/-- Whether an instruction is left by a flow of its own. -/
def Instruction.isFlow : Instruction → Bool
  | .flow _ _ => true
  | _ => false

/-- Whether an instruction is neither a flow nor has blocks that can be left. -/
def Instruction.isSimple : Instruction → Bool
  | .decide _ _ _ | .loop _ _ _ | .try _ _ _ | .flow _ _ => false
  | _ => true

/-- The number of `foreach` loops that are open inside of an instruction. A flow instruction is left
as a whole. -/
def Instruction.opens? (instruction : Instruction) : Cursor → Option Nat
  | [] => if instruction.isFlow then some 0 else none
  | branch :: rest => (instruction.branch? branch).bind (·.opens? rest)

/-- Whether a throw out of a branch of an instruction is caught by the instruction. -/
def Instruction.catches : Instruction → Nat → Bool
  | .try _ _ _, 0 => true
  | _, _ => false

/-- The number of `foreach` loops open at a position that a throw can leave open in the block: those
inside of the outermost body of a `try` on the way. -/
def Block.slips : Cursor → Block → Nat
  | i :: branch :: rest, b =>
    match (b.steps[i]?).map (·.instruction) with
    | some instruction =>
      match instruction.branch? branch with
      | some inside =>
        if instruction.catches branch then (inside.opens? rest).getD 0 else inside.slips rest
      | none => 0
    | none => 0
  | _, _ => 0

/-- The same inside of an instruction. -/
def Instruction.slips (instruction : Instruction) : Cursor → Nat
  | branch :: rest =>
    match instruction.branch? branch with
    | some inside =>
      if instruction.catches branch then (inside.opens? rest).getD 0 else inside.slips rest
    | none => 0
  | [] => 0

mutual

/-- Whether an expression has closure bodies without raw steps only. -/
def Expr.isBuilt : Expr → Bool
  | .literal _ | .interpolate _ | .var _ => true
  | .op _ operands => areBuilt operands
  | .call _ args | .new _ args | .static _ _ args => areBuilt args
  | .index container index => container.isBuilt && index.isBuilt
  | .assign target _ value => target.isBuilt && value.isBuilt
  | .assignMulti targets _ source => areBuilt targets && source.isBuilt
  | .closure body => body.isBuilt
  | .send receiver _ args => receiver.isBuilt && areBuilt args

def areBuilt : List Expr → Bool
  | [] => true
  | e :: rest => e.isBuilt && areBuilt rest

def Cond.isBuilt : Cond → Bool
  | .pred _ args => areBuilt args
  | .not cond => cond.isBuilt
  | .and parts | .or parts => areBuiltConds parts
  | .truthy value => value.isBuilt
  | .always => true

def areBuiltConds : List Cond → Bool
  | [] => true
  | c :: rest => c.isBuilt && areBuiltConds rest

/-- Whether a statement is one of the builder's, and so are those inside of it. -/
def Statement.isBuilt : Statement → Bool
  | .expr e => e.isBuilt
  | .declare _ | .line _ | .flow _ none => true
  | .flow _ (some value) => value.isBuilt
  | .branch cond onTrue onFalse => cond.isBuilt && onTrue.isBuilt && isBuilt? onFalse
  | .while cond body => cond.isBuilt && body.isBuilt
  | .for start cond increment body =>
    areBuilt start && cond.isBuilt && areBuilt increment && body.isBuilt
  | .foreach _ _ source body => source.isBuilt && body.isBuilt
  | .try body _ handler => body.isBuilt && handler.isBuilt
  | .define _ body _ => body.isBuilt
  | .raw _ => false

def areBuiltStatements : List Statement → Bool
  | [] => true
  | s :: rest => s.isBuilt && areBuiltStatements rest

/-- Whether a body is made of the builder's statements, without raw steps. -/
def Body.isBuilt : Body → Bool
  | .mk _ _ statements => areBuiltStatements statements

def isBuilt? : Option Body → Bool
  | none => true
  | some body => body.isBuilt

end

/-! ## Steps one after another -/

theorem shapeAfter_append (s : Shape) (xs ys : List Step) :
    shapeAfter s (xs ++ ys) = (shapeAfter s xs).bind (shapeAfter · ys) := by
  induction xs generalizing s with
  | nil => simp [shapeAfter]
  | cons x xs ih =>
    obtain ⟨line, instruction⟩ := x
    cases h : instruction.shape? s with
    | none => simp [shapeAfter, h]
    | some next => simpa [shapeAfter, h] using ih next

theorem Block.isBalanced_iff (b : Block) :
    b.isBalanced ↔ shapeAfter .flat b.steps = some .flat := by
  obtain ⟨source, steps⟩ := b
  simp [Block.isBalanced, Block.steps]

theorem Block.isExpression_iff (b : Block) :
    b.isExpression ↔ b.hasOperandsOnly ∧ b.isBalanced := by
  simp [Block.isExpression]

@[simp] theorem Shape.collapse_succ (n k : Nat) : Shape.collapse ⟨n + 1, k⟩ = some ⟨n, k⟩ := by
  simp [Shape.collapse]

/-- The shape before a frame was taken away. -/
theorem Shape.eq_of_collapse {s t : Shape} (h : s.collapse = some t) :
    s = ⟨t.frames + 1, t.iterators⟩ := by
  obtain ⟨n, k⟩ := s
  simp only [Shape.collapse, Option.ite_none_right_eq_some, Option.some.injEq] at h
  obtain ⟨positive, rfl⟩ := h
  simp only [Shape.mk.injEq, and_true]
  omega

theorem Shape.eq_of_statement {s t : Shape} {isSound : Bool} (h : s.statement isSound = some t) :
    s = .flat ∧ t = .flat ∧ isSound := by
  simp only [Shape.statement, Option.ite_none_right_eq_some, Option.some.injEq] at h
  obtain ⟨⟨rfl, sound⟩, rfl⟩ := h
  exact ⟨rfl, rfl, sound⟩

theorem Shape.eq_of_loop {s t : Shape} {isSound : Bool} (h : s.loop isSound = some t) :
    t = s ∧ s.frames = 0 ∧ isSound := by
  simp only [Shape.loop, Option.ite_none_right_eq_some, Option.some.injEq] at h
  obtain ⟨⟨outside, sound⟩, rfl⟩ := h
  exact ⟨rfl, outside, sound⟩

/-- Only compound instructions have blocks inside of them. -/
theorem Instruction.compound_of_branch? {i : Instruction} {n : Nat} {b : Block}
    (h : i.branch? n = some b) :
    i.isSimple = false ∧ i.isFlow = false := by
  cases i <;> first | exact ⟨rfl, rfl⟩ | cases h

/-- A flow instruction stands where nothing is open, apart from the frame of its value. -/
theorem Instruction.shape?_flow {kind : FlowKind} {value : Bool} {s t : Shape}
    (h : (Instruction.flow kind value).shape? s = some t) : s.iterators = 0 ∧ t = .flat := by
  cases value with
  | true =>
    obtain ⟨ρ, collapsed, outside⟩ := Option.bind_eq_some_iff.mp h
    obtain ⟨rfl, flat, -⟩ := Shape.eq_of_statement outside
    exact ⟨congrArg Shape.iterators (Shape.eq_of_collapse collapsed), flat⟩
  | false =>
    obtain ⟨rfl, flat, -⟩ := Shape.eq_of_statement h
    exact ⟨rfl, flat⟩

theorem Instruction.isSimple_of_isOperand {i : Instruction} (h : i.isOperand) : i.isSimple := by
  cases i <;> first | rfl | cases h

/-- A compound instruction stands outside of all frames and leaves the shape as it is. -/
theorem Instruction.shape?_compound {i : Instruction} {s t : Shape} (compound : i.isSimple = false)
    (flow : i.isFlow = false) (h : i.shape? s = some t) : t = s ∧ s.frames = 0 := by
  cases i with
  | decide _ _ _ | «try» _ _ _ =>
    obtain ⟨rfl, rfl, -⟩ := Shape.eq_of_statement h
    exact ⟨rfl, rfl⟩
  | loop _ _ _ =>
    obtain ⟨rfl, outside, -⟩ := Shape.eq_of_loop h
    exact ⟨rfl, outside⟩
  | flow _ _ => cases flow
  | _ => cases compound

/-! ## Positions -/

theorem Block.iteratorsAt?_of_shape {b : Block} {i k : Nat}
    (h : shapeAfter .flat (b.steps.take i) = some ⟨0, k⟩) :
    b.iteratorsAt? i = some k := by
  simp [Block.iteratorsAt?, h]

theorem Block.shape_of_iteratorsAt? {b : Block} {i k : Nat} (h : b.iteratorsAt? i = some k) :
    shapeAfter .flat (b.steps.take i) = some ⟨0, k⟩ := by
  unfold Block.iteratorsAt? at h
  split at h
  · rename_i found
    obtain rfl := Option.some_inj.mp h
    exact found
  · cases h

/-- The steps of a balanced block close what is open before them. -/
theorem Block.shapeAfter_drop {b : Block} {i : Nat} {s : Shape} (hb : b.isBalanced)
    (h : shapeAfter .flat (b.steps.take i) = some s) :
    shapeAfter s (b.steps.drop i) = some .flat := by
  have whole := (Block.isBalanced_iff b).mp hb
  rwa [← List.take_append_drop i b.steps, shapeAfter_append, h, Option.bind_some] at whole

theorem shapeAfter_cons {s : Shape} {line : UInt32} {i : Instruction} {rest : List Step} {t : Shape}
    (h : shapeAfter s (.mk line i :: rest) = some t) :
    ∃ next, i.shape? s = some next ∧ shapeAfter next rest = some t := by
  unfold shapeAfter at h
  split at h
  · rename_i next found
    exact ⟨next, found, h⟩
  · cases h

/-- A position inside of a step. -/
theorem Block.opens?_cons {i n : Nat} {rest : Cursor} {b : Block} {k : Nat}
    (h : b.opens? (i :: n :: rest) = some k) :
    ∃ line instruction iterators inside k', b.steps[i]? = some (.mk line instruction) ∧
      b.iteratorsAt? i = some iterators ∧ instruction.branch? n = some inside ∧
      inside.opens? rest = some k' ∧
      k = iterators + k' := by
  unfold Block.opens? at h
  split at h
  · rename_i iterators inside here found
    obtain ⟨⟨line, instruction⟩, hs, hb⟩ := Option.bind_eq_some_iff.mp found
    obtain ⟨k', hk, rfl⟩ := Option.map_eq_some_iff.mp h
    exact ⟨line, instruction, iterators, inside, k', hs, here, hb, hk, rfl⟩
  · cases h

theorem Block.slips_cons {i n : Nat} {rest : Cursor} {b inside : Block} {line : UInt32}
    {instruction : Instruction} (hs : b.steps[i]? = some (.mk line instruction))
    (hb : instruction.branch? n = some inside) :
    b.slips (i :: n :: rest) = instruction.slips (n :: rest) := by
  simp [Block.slips, Instruction.slips, hs, hb, Step.instruction]

/-- No more is left open than what is open. -/
theorem Block.slips_le :
    ∀ (cursor : Cursor) (b : Block) {k : Nat}, b.opens? cursor = some k → b.slips cursor ≤ k
  | [], _, _, _ | [_], _, _, _ => by simp [Block.slips]
  | i :: n :: rest, b, k, h => by
    obtain ⟨line, instruction, iterators, inside, k', hs, -, hb, hk, rfl⟩ := Block.opens?_cons h
    have within := Block.slips_le rest inside hk
    simp only [Block.slips_cons hs hb, Instruction.slips, hb]
    split
    · simp [hk]
    · omega

/-! ## What the builder makes -/

/-- Steps that leave the shape as it is, in whatever shape they start, and belong to expressions. -/
structure Neutral (steps : List Step) : Prop where
  shape : ∀ s, shapeAfter s steps = some s
  operands : ∀ step ∈ steps, step.instruction.isOperand

namespace Neutral

theorem nil : Neutral [] := ⟨fun s => by simp [shapeAfter], by simp⟩

theorem append {xs ys : List Step} (hx : Neutral xs) (hy : Neutral ys) : Neutral (xs ++ ys) where
  shape s := by simp [shapeAfter_append, hx.shape, hy.shape]
  operands step h := by
    rcases List.mem_append.mp h with h | h
    · exact hx.operands step h
    · exact hy.operands step h

/-- One step that needs no operands. -/
theorem single {line : UInt32} {i : Instruction} (hi : i.isOperand) (h : ∀ s, i.shape? s = some s) :
    Neutral [.mk line i] := by
  refine ⟨fun s => ?_, ?_⟩
  · simp [shapeAfter, h]
  · simpa [Step.instruction] using hi

/-- Operands in a frame of their own, and the step that takes the frame away. -/
theorem framed {line : UInt32} {i : Instruction} {xs : List Step} (hx : Neutral xs)
    (hi : i.isOperand) (h : ∀ s, i.shape? s = s.collapse) :
    Neutral (.mk line .createFrame :: xs ++ [.mk line i]) := by
  refine ⟨fun s => ?_, ?_⟩
  · simp [shapeAfter, shapeAfter_append, Instruction.shape?, hx.shape, h]
  · simp only [List.cons_append, List.mem_cons, List.mem_append, List.not_mem_nil, or_false]
    rintro step (rfl | h | rfl)
    · rfl
    · exact hx.operands step h
    · exact hi

/-- Neutral steps make an expression. -/
theorem isExpression {xs : List Step} (h : Neutral xs) (source : Option String) :
    (Block.mk source xs).isExpression := by
  simp only [Block.isExpression, Block.hasOperandsOnly, Block.isBalanced, Block.steps, h.shape,
    BEq.rfl, Bool.and_true, List.all_eq_true]
  exact h.operands

theorem isBalanced {xs : List Step} (h : Neutral xs) (source : Option String) :
    (Block.mk source xs).isBalanced := ((Block.isExpression_iff _).mp (h.isExpression source)).2

end Neutral

mutual

theorem Check.isSound_negate (line : UInt32) (k : Nat) :
    ∀ c : Check, c.isSound k → (c.negate line).isSound k
  | .predicate _ _ _, h => by simpa [Check.negate, Check.isSound] using h
  | .and parts, h | .or parts, h => by
    simpa [Check.negate, Check.isSound] using
      areSound_negateChecks line k parts (by simpa [Check.isSound] using h)
  | .always, _ => by
    have h : Neutral [.mk line (.literal (.int 1))] := .single rfl fun s => by
      simp [Instruction.shape?]
    simpa [Check.negate, Check.isSound, Block.isExpression] using h.isExpression none
  | .iterNext, h => by simpa [Check.negate, Check.isSound] using h

theorem areSound_negateChecks (line : UInt32) (k : Nat) :
    ∀ parts : List Check, areSound k parts → areSound k (negateChecks line parts)
  | [], _ => by simp [negateChecks, areSound]
  | part :: rest, h => by
    simp only [areSound, Bool.and_eq_true] at h
    simp only [negateChecks, areSound, Bool.and_eq_true]
    exact ⟨part.isSound_negate line k h.1, areSound_negateChecks line k rest h.2⟩

end

/-- The steps of names to declare. -/
theorem neutral_literals (line : UInt32) (names : List String) :
    Neutral (names.map fun n => .mk line (.literal (.str n))) := by
  induction names with
  | nil => exact .nil
  | cons n rest ih =>
    have one : Neutral [.mk line (.literal (.str n))] :=
      .single rfl fun s => by simp [Instruction.shape?]
    exact one.append ih

/-- A statement of one step, outside of all frames. -/
theorem shapeAfter_single {line : UInt32} {i : Instruction} {s t : Shape}
    (h : i.shape? s = some t) :
    shapeAfter s [.mk line i] = some t := by
  simp [shapeAfter, h]

mutual

/-- An expression leaves the frames as they are, in whatever shape it starts. -/
theorem Expr.neutral_lower (line : UInt32) : ∀ e : Expr, e.isBuilt → Neutral (e.lower line)
  | .literal _, _ | .interpolate _, _ | .var _, _ => .single rfl fun s => by
    simp [Instruction.shape?]
  | .op op operands, h =>
    .framed (neutral_lowerAll line operands (by simpa [Expr.isBuilt] using h)) rfl
      fun s => by simp [Instruction.shape?]
  | .call _ args, h | .new _ args, h | .static _ _ args, h =>
    .framed (neutral_lowerAll line args (by simpa [Expr.isBuilt] using h)) rfl
      fun s => by simp [Instruction.shape?]
  | .index container index, h => by
    simp only [Expr.isBuilt, Bool.and_eq_true] at h
    have inside := (container.neutral_lower line h.1).append (index.neutral_lower line h.2)
    have whole : Neutral (.mk line .createFrame :: _ ++ [.mk line .index]) :=
      inside.framed rfl fun s => by simp [Instruction.shape?]
    simpa [Expr.lower] using whole
  | .assign target op value, h => by
    simp only [Expr.isBuilt, Bool.and_eq_true] at h
    have goal := (Block.isExpression_iff _).mp ((target.neutral_lower line h.1).isExpression none)
    exact (value.neutral_lower line h.2).framed rfl fun s => by simp [Instruction.shape?, goal]
  | .assignMulti targets op source, h => by
    simp only [Expr.isBuilt, Bool.and_eq_true] at h
    exact (source.neutral_lower line h.2).framed rfl fun s => by
      simp [Instruction.shape?, areExpressions_lowerTargets line targets h.1]
  | .closure body, h =>
    .single rfl fun s => by
      simp [Instruction.shape?, body.isBalanced_build (by simpa [Expr.isBuilt] using h)]
  | .send receiver member args, h => by
    simp only [Expr.isBuilt, Bool.and_eq_true] at h
    have inside := (receiver.neutral_lower line h.1).append (neutral_lowerAll line args h.2)
    have whole : Neutral (.mk line .createFrame :: _ ++ [.mk line (.objectAccess member none)]) :=
      inside.framed rfl fun s => by simp [Instruction.shape?]
    simpa [Expr.lower] using whole

theorem neutral_lowerAll (line : UInt32) :
    ∀ es : List Expr, areBuilt es → Neutral (lowerAll line es)
  | [], _ => .nil
  | e :: rest, h => by
    simp only [areBuilt, Bool.and_eq_true] at h
    exact (e.neutral_lower line h.1).append (neutral_lowerAll line rest h.2)

theorem areExpressions_lowerTargets (line : UInt32) :
    ∀ es : List Expr, areBuilt es → areExpressions (lowerTargets line es)
  | [], _ => by simp [lowerTargets, areExpressions]
  | e :: rest, h => by
    simp only [areBuilt, Bool.and_eq_true] at h
    have first := (Block.isExpression_iff _).mp ((e.neutral_lower line h.1).isExpression none)
    simp [lowerTargets, areExpressions, first, areExpressions_lowerTargets line rest h.2]

theorem Cond.isSound_lower (line : UInt32) (k : Nat) :
    ∀ c : Cond, c.isBuilt → (c.lower line).isSound k
  | .pred _ args, h => by
    simpa [Cond.lower, Check.isSound, Block.isExpression] using
      (neutral_lowerAll line args (by simpa [Cond.isBuilt] using h)).isExpression none
  | .truthy value, h => by
    simpa [Cond.lower, Check.isSound, Block.isExpression] using
      (value.neutral_lower line (by simpa [Cond.isBuilt] using h)).isExpression none
  | .not cond, h =>
    Check.isSound_negate line k _ (cond.isSound_lower line k (by simpa [Cond.isBuilt] using h))
  | .and parts, h | .or parts, h => by
    simpa [Cond.lower, Check.isSound] using
      areSound_lowerConds line k parts (by simpa [Cond.isBuilt] using h)
  | .always, _ => by simp [Cond.lower, Check.isSound]

theorem areSound_lowerConds (line : UInt32) (k : Nat) :
    ∀ cs : List Cond, areBuiltConds cs → areSound k (lowerConds line cs)
  | [], _ => by simp [lowerConds, areSound]
  | c :: rest, h => by
    simp only [areBuiltConds, Bool.and_eq_true] at h
    simp [lowerConds, areSound, c.isSound_lower line k h.1, areSound_lowerConds line k rest h.2]

/-- A statement closes what it opens. -/
theorem Statement.shapeAfter_lower (line : UInt32) :
    ∀ s : Statement, s.isBuilt → shapeAfter .flat (s.lower line) = some .flat
  | .expr e, h => (e.neutral_lower line (by simpa [Statement.isBuilt] using h)).shape _
  | .declare names, _ =>
    ((neutral_literals line names).framed (i := .call "&local") rfl
      fun s => by simp [Instruction.shape?]).shape _
  | .flow _ none, _ => shapeAfter_single (by simp [Instruction.shape?, Shape.statement, Shape.flat])
  | .flow _ (some value), h => by
    have inside := value.neutral_lower line (by simpa [Statement.isBuilt] using h)
    simp [Statement.lower, shapeAfter, shapeAfter_append, Instruction.shape?, inside.shape,
      Shape.statement, Shape.flat]
  | .branch cond onTrue onFalse, h => by
    simp only [Statement.isBuilt, Bool.and_eq_true] at h
    exact shapeAfter_single (by
      simp [Instruction.shape?, Shape.statement, Shape.flat, cond.isSound_lower line 0 h.1.1,
        onTrue.isBalanced_build h.1.2, isBalanced?_buildBody? onFalse h.2])
  | .while cond body, h => by
    simp only [Statement.isBuilt, Bool.and_eq_true] at h
    exact shapeAfter_single (by
      simp [Instruction.shape?, Shape.loop, Shape.flat, cond.isSound_lower line 0 h.1,
        body.isBalanced_build h.2, isExpression?])
  | .for start cond increment body, h => by
    simp only [Statement.isBuilt, Bool.and_eq_true] at h
    obtain ⟨⟨⟨hs, hc⟩, hi⟩, hb⟩ := h
    have after := neutral_lowerAll line increment hi
    simp only [Statement.lower, shapeAfter_append, (neutral_lowerAll line start hs).shape,
      Option.bind_some]
    refine shapeAfter_single ?_
    have last := (Block.isExpression_iff _).mp (after.isExpression none)
    split <;> simp [Instruction.shape?, Shape.loop, Shape.flat, cond.isSound_lower line 0 hc,
      body.isBalanced_build hb, isExpression?, last]
  | .foreach key value source body, h => by
    simp only [Statement.isBuilt, Bool.and_eq_true] at h
    have inside := source.neutral_lower line h.1
    simp [Statement.lower, shapeAfter, shapeAfter_append, Instruction.shape?, inside.shape,
      Shape.loop, Shape.flat, Check.isSound, body.isBalanced_build h.2, isExpression?]
  | .try body _ handler, h => by
    simp only [Statement.isBuilt, Bool.and_eq_true] at h
    exact shapeAfter_single (by
      simp [Instruction.shape?, Shape.statement, Shape.flat, body.isBalanced_build h.1,
        handler.isBalanced_build h.2])
  | .define _ body _, h =>
    shapeAfter_single (by
      simp [Instruction.shape?, body.isBalanced_build (by simpa [Statement.isBuilt] using h)])
  | .line _, _ => by simp [Statement.lower, shapeAfter]
  | .raw _, h => by simp [Statement.isBuilt] at h

theorem shapeAfter_lowerStatements :
    ∀ (line : UInt32) (ss : List Statement), areBuiltStatements ss →
      shapeAfter .flat (lowerStatements line ss) = some .flat
  | _, [], _ => by simp [lowerStatements, shapeAfter]
  | line, s :: rest, h => by
    simp only [areBuiltStatements, Bool.and_eq_true] at h
    have first := s.shapeAfter_lower line h.1
    have after := fun line => shapeAfter_lowerStatements line rest h.2
    cases s <;> simp_all [lowerStatements, shapeAfter_append]

/-- The builder makes balanced blocks. -/
theorem Body.isBalanced_build : ∀ b : Body, b.isBuilt → b.build.isBalanced
  | .mk source line statements, h => by
    simpa [Body.build, Block.isBalanced] using
      shapeAfter_lowerStatements line statements (by simpa [Body.isBuilt] using h)

theorem isBalanced?_buildBody? : ∀ b : Option Body, isBuilt? b → isBalanced? (buildBody? b)
  | none, _ => by simp [buildBody?, isBalanced?]
  | some b, h => by
    simpa [buildBody?, isBalanced?] using b.isBalanced_build (by simpa [isBuilt?] using h)

end

/-! ## Numbering definitions -/

@[simp] theorem Instruction.isOperand_number (n : Nat) (i : Instruction) :
    (i.number n).1.isOperand = i.isOperand := by
  cases i <;> simp [Instruction.number, Instruction.isOperand]

theorem all_isOperand_numberSteps (n : Nat) (steps : List Step) :
    (numberSteps n steps).1.all (·.instruction.isOperand) =
    steps.all (·.instruction.isOperand) := by
  induction steps generalizing n with
  | nil => simp [numberSteps]
  | cons step rest ih =>
    obtain ⟨line, i⟩ := step
    have first : ((Step.mk line i).number n).1.instruction.isOperand = i.isOperand := by
      simp only [Step.number, Step.instruction, Instruction.isOperand_number]
    simp only [numberSteps, List.all_cons, first, ih]
    rfl

@[simp] theorem Block.hasOperandsOnly_number (n : Nat) (b : Block) :
    (b.number n).1.hasOperandsOnly = b.hasOperandsOnly := by
  obtain ⟨source, steps⟩ := b
  simpa [Block.number, Block.hasOperandsOnly, Block.steps] using all_isOperand_numberSteps n steps

mutual

/-- Numbering the definitions of a block keeps it balanced. -/
@[simp] theorem Block.isBalanced_number (n : Nat) :
    ∀ b : Block, (b.number n).1.isBalanced = b.isBalanced
  | .mk source steps => by
    simp [Block.number, Block.isBalanced, shapeAfter_numberSteps n .flat steps]

theorem shapeAfter_numberSteps (n : Nat) :
    ∀ (s : Shape) (steps : List Step), shapeAfter s (numberSteps n steps).1 = shapeAfter s steps
  | s, [] => by simp [numberSteps]
  | s, .mk line i :: rest => by
    simp only [numberSteps, Step.number, shapeAfter, Instruction.shape?_number n s i]
    cases i.shape? s with
    | none => rfl
    | some next => exact shapeAfter_numberSteps _ next rest

theorem Instruction.shape?_number (n : Nat) (s : Shape) :
    ∀ i : Instruction, (i.number n).1.shape? s = i.shape? s
  | .assign target _ => by simp [Instruction.number, Instruction.shape?, target.isBalanced_number n]
  | .assignMulti targets _ => by
    simp [Instruction.number, Instruction.shape?, areExpressions_numberBlocks n targets]
  | .closure body => by simp [Instruction.number, Instruction.shape?, body.isBalanced_number n]
  | .bind _ body _ _ => by
    simp [Instruction.number, Instruction.shape?, body.isBalanced_number (n + 1)]
  | .decide check onTrue onFalse => by
    simp [Instruction.number, Instruction.shape?, check.isSound_number n s.iterators,
      onTrue.isBalanced_number, isBalanced?_numberBlock? _ onFalse]
  | .loop check body increment => by
    simp [Instruction.number, Instruction.shape?, check.isSound_number n s.iterators,
      body.isBalanced_number, isExpression?_numberBlock? _ increment]
  | .try body handler _ => by
    simp [Instruction.number, Instruction.shape?, body.isBalanced_number, handler.isBalanced_number]
  | .createFrame | .literal _ | .interpolate _ | .get _ | .operate _ | .index | .call _
  | .iterCreate _ _
  | .iterDestroy | .objectNew _ | .objectAccess _ _ | .flow _ _ => by simp [Instruction.number]

theorem areExpressions_numberBlocks (n : Nat) :
    ∀ bs : List Block, areExpressions (numberBlocks n bs).1 = areExpressions bs
  | [] => by simp [numberBlocks]
  | b :: rest => by
    simp [numberBlocks, areExpressions, b.isBalanced_number n, areExpressions_numberBlocks _ rest]

theorem isBalanced?_numberBlock? (n : Nat) :
    ∀ b : Option Block, isBalanced? (numberBlock? n b).1 = isBalanced? b
  | none => by simp [numberBlock?]
  | some b => by simp [numberBlock?, isBalanced?, b.isBalanced_number n]

theorem isExpression?_numberBlock? (n : Nat) :
    ∀ b : Option Block, isExpression? (numberBlock? n b).1 = isExpression? b
  | none => by simp [numberBlock?]
  | some b => by simp [numberBlock?, isExpression?, b.isBalanced_number n]

theorem Check.isSound_number (n k : Nat) : ∀ c : Check, (c.number n).1.isSound k = c.isSound k
  | .predicate setup _ _ => by simp [Check.number, Check.isSound, setup.isBalanced_number n]
  | .and parts | .or parts => by simp [Check.number, Check.isSound, areSound_numberChecks n k parts]
  | .iterNext | .always => by simp [Check.number]

theorem areSound_numberChecks (n k : Nat) :
    ∀ cs : List Check, areSound k (numberChecks n cs).1 = areSound k cs
  | [] => by simp [numberChecks]
  | c :: rest => by
    simp [numberChecks, areSound, c.isSound_number n k, areSound_numberChecks _ k rest]

end

theorem Block.isBalanced_numbered (b : Block) : b.numbered.isBalanced = b.isBalanced :=
  b.isBalanced_number 1

@[simp] theorem Block.isBalanced_withDefaultSource (b : Block) (source : String) :
    (b.withDefaultSource source).isBalanced = b.isBalanced := by
  obtain ⟨_, steps⟩ := b
  simp [Block.withDefaultSource, Block.isBalanced, Block.steps]

end CellScript
