import CellScript.Proofs.Eval.Assignment
import CellScript.Proofs.Eval.Watch

/-!
# Operands of lowered expressions

The steps of an expression open a frame, evaluate the operands into it and collapse it with one
consuming step. `Eval.Yields` says what this comes to, by the expression and without its steps: an
operand is evaluated once, in its turn, in the machine that the one before it has left; the
consuming step finds their results and nothing else in its frame, computes with them in the machine
without that frame, and leaves one cell on the frame below. A target of an assignment is evaluated
in a frame of its own when the value is there and its frame is gone.

Between the operands anything may be called. That the frames below stay as they are is what tidiness
of calls gives.

## Main definitions

* `Expr.atom?`, `Expr.consuming?` — the step of an expression without operands, or the operands and
  the step that consumes them.
* `Instruction.Gives`, `Instruction.Consumes` — what these steps do to the current frame.
* `Eval.Yields` — the evaluation of an expression.

## Main statements

* `Eval.steps_append_iff` — steps one after the other.
* `Eval.lowers` — the steps of an expression evaluate it.
* `Eval.Yields.steps_eq` — the evaluation of an expression is that of its steps.
* `Eval.lowered_yields` — both, and what the frames are afterwards.
-/

namespace CellScript

/-! ## Frames of a machine -/

namespace Machine

/-- At a line. -/
def atLine (m : Machine) (line : UInt32) : Machine :=
  { m with context := { m.context with line } }

/-- With a new frame. -/
def opened (m : Machine) : Machine :=
  { m with context := m.context.createFrame }

/-- Without the current frame. -/
def collapsed (m : Machine) : Machine :=
  { m with context := m.context.killFrame.2 }

/-- With a cell on the current frame. -/
def pushed (m : Machine) (cell : CellRef) : Machine :=
  { m with context := m.context.push cell }

/-- With the next of some values, which is made where there are none left. -/
def supplied (m : Machine) (values : List CellRef) : Machine :=
  { m with heap := (m.heap.supply values).2 }

/-- The operands of all frames, those of the current frame first, and of each frame the last one
first. -/
def stack (m : Machine) : List (List CellRef) :=
  m.context.stack

variable {m : Machine} {line : UInt32} {cell : CellRef} {top : List CellRef} {m₀ : Machine}

@[simp] theorem stack_atLine : (m.atLine line).stack = m.stack := rfl

@[simp] theorem stack_opened : m.opened.stack = [] :: m.stack := rfl

@[simp] theorem stack_pushed : (m.pushed cell).stack = m.stack.modifyHead (cell :: ·) :=
  Context.stack_modifyFrame _ _

theorem stack_collapsed (stack : m.stack = top :: m₀.stack) : m.collapsed.stack = m₀.stack :=
  Context.stack_killFrame_of_tail (congrArg List.tail stack)

/-- What the current frame holds, in order. -/
theorem killFrame_of_stack (stack : m.stack = top :: m₀.stack) :
    m.context.killFrame.1 = top.reverse := by
  obtain ⟨operands, below⟩ := m₀.context.stack_eq_cons
  unfold Machine.stack at stack
  rw [below] at stack
  cases frames : m.context.frames with
  | nil => simp [Context.stack, frames] at stack
  | cons operands frames' =>
    simp only [Context.stack, frames, List.cons_append, List.cons.injEq] at stack
    simp [Context.killFrame, frames, stack.1]

/-- Taking an operand off a frame that is taken away makes no difference to what is left. -/
theorem collapsed_pop (stack : m.stack = [cell] :: m₀.stack) :
    m.context.pop.1 = some cell ∧ m.context.pop.2.killFrame.2 = m.context.killFrame.2 := by
  obtain ⟨operands, below⟩ := m₀.context.stack_eq_cons
  unfold Machine.stack at stack
  rw [below] at stack
  cases frames : m.context.frames with
  | nil => simp [Context.stack, frames] at stack
  | cons operands frames' =>
    simp only [Context.stack, frames, List.cons_append, List.cons.injEq] at stack
    simp [Context.pop, Context.operands, Context.modifyFrame, Context.killFrame, frames, stack.1]

/-- There is nothing above the current frame to be cut off. -/
theorem truncateFrames_of_stack (stack : m.stack = top :: m₀.stack) :
    m.context.truncateFrames m₀.opened.context.frameDepth = m.context := by
  have depth : m.context.frames.length = m₀.opened.context.frameDepth - 1 := by
    have length := congrArg List.length stack
    simp only [Machine.stack, List.length_cons, Context.stack_length, Context.frameDepth] at length
    simp only [opened, Context.createFrame, Context.frameDepth, List.length_cons]
    omega
  simp [Context.truncateFrames, truncateStack, depth]

namespace Sound

theorem atLine (hm : m.Sound) (line : UInt32) : (m.atLine line).Sound := hm.of_code rfl

theorem opened (hm : m.Sound) : m.opened.Sound := hm.of_code rfl

theorem collapsed (hm : m.Sound) : m.collapsed.Sound := hm.of_code rfl

theorem pushed (hm : m.Sound) (cell : CellRef) : (m.pushed cell).Sound := hm.of_code rfl

end Sound

end Machine

/-- What a tidy computation leaves that comes to a result. -/
theorem Run.Tidy.leaves {α : Type} {x : Run α} [tidy : Run.Tidy False x x] {m m' : Machine}
    {a : α} (hm : m.Sound) (run : x m = (.ok a, m')) : m.Leaves [] m' := by
  obtain ⟨r, same, left⟩ := (tidy.agrees m hm).ends run nofun
  cases r with
  | ok b => exact left
  | error f => cases same

/-! ## Steps one after the other -/

namespace Eval

section Steps

variable {perform : Option Cursor → Instruction → Run Flow} {i : ℕ} {resume : Option Cursor}
  {line : UInt32} {instruction : Instruction} {xs ys : List Step} {m m' : Machine}

/-- A step that does not end normally ends the block, also where its fault becomes a throw. -/
theorem flowOfStep_stops {r : Except Fault Flow} {k : Except Fault Flow → Run (Except Fault Flow)}
    (ne : r ≠ .ok .normal)
    (stops : ∀ outcome, outcome ≠ .ok .normal → ∃ outcome', k outcome = pure outcome' ∧
      outcome' ≠ .ok .normal) :
    (flowOfStep line r >>= k) m ≠ (.ok (.ok .normal), m') := by
  have ends : Run.Agrees False (flowOfStep line r >>= k) (flowOfStep line r >>= k)
      (fun r' _ => r' ≠ .ok (.ok .normal)) m := by
    refine agrees_flowOfStep line r fun outcome m₁ _ settles => ?_
    obtain ⟨outcome', run, other⟩ := stops outcome fun normal => ne ((normal ▸ settles).normal)
    rw [run]
    exact .pure fun same => other (Except.ok.inj same)
  intro run
  obtain ⟨r', same, other⟩ := ends.ends run nofun
  cases r' with
  | ok outcome => exact other (congrArg _ (Except.ok.inj same).symm)
  | error f => cases same

/-- After a step come the others, unless it does not end normally: then nothing does. -/
theorem steps_cons (perform : Option Cursor → Instruction → Run Flow) (i : ℕ)
    (resume : Option Cursor) (line : UInt32) (instruction : Instruction) (xs : List Step) :
    ∃ k : Except Fault Flow → Run (Except Fault Flow),
      (steps perform i resume (.mk line instruction :: xs) = do
        Run.changeContext ({ · with line })
        flowOfStep line (← Run.attempt (perform resume instruction)) >>= k) ∧
      k (.ok .normal) = steps perform (i + 1) none xs ∧
      ∀ outcome, outcome ≠ .ok .normal → ∃ outcome', k outcome = pure outcome' ∧
        outcome' ≠ .ok .normal := by
  rw [steps]
  refine ⟨_, rfl, rfl, fun outcome ne => ?_⟩
  cases outcome with
  | error f => exact ⟨_, rfl, by rintro ⟨⟩⟩
  | ok flow =>
    cases flow with
    | normal => exact absurd rfl ne
    | yield value cursor | callcc target cursor => cases cursor <;> exact ⟨_, rfl, by rintro ⟨⟩⟩
    | _ => exact ⟨_, rfl, by rintro ⟨⟩⟩

/-- Steps come to their end when the first step does, and then the others. -/
theorem steps_cons_iff :
    steps perform i resume (.mk line instruction :: xs) m = (.ok (.ok .normal), m') ↔
    ∃ m₁, perform resume instruction (m.atLine line) = (.ok .normal, m₁) ∧
      steps perform (i + 1) none xs m₁ = (.ok (.ok .normal), m') := by
  obtain ⟨k, run, normally, stops⟩ := steps_cons perform i resume line instruction xs
  rw [run, ← normally, Run.bind_run, Run.changeContext_run]
  change (Run.attempt (perform resume instruction) >>= fun r => flowOfStep line r >>= k)
    (m.atLine line) = _ ↔ _
  rw [Run.bind_run, Run.attempt_run]
  rcases performed : perform resume instruction (m.atLine line) with ⟨(f | _) | flow, m₁⟩
  · constructor
    · intro run
      exact absurd run (flowOfStep_stops nofun stops)
    · rintro ⟨_, ⟨⟩, -⟩
  · constructor
    · exact nofun
    · rintro ⟨_, ⟨⟩, -⟩
  · by_cases normal : flow = .normal
    · subst normal
      constructor
      · intro run
        exact ⟨m₁, rfl, run⟩
      · rintro ⟨_, ⟨⟩, run⟩
        exact run
    · constructor
      · intro run
        exact absurd run (flowOfStep_stops (fun same => normal (Except.ok.inj same)) stops)
      · rintro ⟨_, ⟨⟩, -⟩
        exact absurd rfl normal

theorem steps_append_iff : steps perform i none (xs ++ ys) m = (.ok (.ok .normal), m') ↔
    ∃ m₁, steps perform i none xs m = (.ok (.ok .normal), m₁) ∧
      steps perform (i + xs.length) none ys m₁ = (.ok (.ok .normal), m') := by
  induction xs generalizing i m with
  | nil =>
    constructor
    · intro run
      exact ⟨m, rfl, run⟩
    · rintro ⟨m₁, ended, run⟩
      cases ended
      exact run
  | cons first rest ih =>
    obtain ⟨line, instruction⟩ := first
    rw [List.cons_append, steps_cons_iff]
    simp only [steps_cons_iff, ih, List.length_cons]
    constructor
    · rintro ⟨m₁, performed, m₂, ended, run⟩
      exact ⟨m₂, ⟨m₁, performed, ended⟩, by rwa [Nat.add_assoc, Nat.add_comm 1] at run⟩
    · rintro ⟨m₂, ⟨m₁, performed, ended⟩, run⟩
      exact ⟨m₁, performed, m₂, ended, by rwa [Nat.add_assoc, Nat.add_comm 1]⟩

end Steps

end Eval

/-! ## Steps of expressions -/

/-- The one step of an expression without operands. -/
def Expr.atom? : Expr → Option Instruction
  | .literal value => some (.literal value)
  | .interpolate fragments => some (.interpolate fragments)
  | .var name => some (.get name)
  | .closure body => some (.closure body.build)
  | _ => none

/-- The operands of an expression in order, and the step that consumes them. -/
def Expr.consuming? : Expr → Option (List Expr × Instruction)
  | .op symbol operands => some (operands, .operate symbol)
  | .call function args => some (args, .call function)
  | .index container position => some ([container, position], .index)
  | .new className args => some (args, .objectNew className)
  | .send receiver member args => some (receiver :: args, .objectAccess member none)
  | .static className member args => some (args, .objectAccess (some member) (some className))
  | _ => none

theorem Expr.lower_of_atom? {e : Expr} {i : Instruction} (line : UInt32) (atom : e.atom? = some i) :
    e.lower line = [.mk line i] := by
  cases e <;> cases atom <;> rfl

theorem Expr.lower_of_consuming? {e : Expr} {operands : List Expr} {i : Instruction} (line : UInt32)
    (consuming : e.consuming? = some (operands, i)) :
    e.lower line = .mk line .createFrame :: (lowerAll line operands ++ [.mk line i]) := by
  cases e <;> cases consuming <;> simp [Expr.lower, lowerAll, List.append_assoc]

namespace Eval

/-- The step leaves the result of `x` on the current frame. -/
def Gives (self : Reentry) (i : Instruction) (x : Run CellRef) : Prop :=
  step self none i = thenNormal (x >>= Run.push)

/-- The step takes the current frame away and leaves on the frame below what `f` computes from the
operands. -/
def Consumes (self : Reentry) (i : Instruction) (f : List CellRef → Run CellRef) : Prop :=
  step self none i = thenNormal (Run.killFrame >>= fun operands => f operands >>= Run.push)

open Run (Tidy)

variable {self : Reentry}

theorem exists_gives {e : Expr} {i : Instruction} (self : Reentry) (atom : e.atom? = some i)
    (built : e.isBuilt) :
    ∃ x, Gives self i x ∧ Tidy False x x := by
  cases e with
  | literal value =>
    cases atom
    exact ⟨_, rfl, inferInstance⟩
  | interpolate fragments =>
    cases atom
    refine ⟨do
      let read ← interpolated fragments
      Run.propagate read.2 (← HeapM.text read.1) "interpolation", ?_, ?_⟩
    · simp only [Gives, step, interpolate, bind_assoc]
    · exact .andThen fun read => .andThen fun text => inferInstance
  | var name =>
    cases atom
    exact ⟨variableCell name, rfl, inferInstance⟩
  | closure body =>
    cases atom
    have balanced : body.build.isBalanced :=
      body.isBalanced_build (by simpa [Expr.isBuilt] using built)
    have made : Tidy False (newClosure body.build none 0) (newClosure body.build none 0) :=
      tidy_newClosure balanced none 0
    refine ⟨do HeapM.cell (.function (← newClosure body.build none 0)), ?_, ?_⟩
    · simp only [Gives, step, bind_assoc]
    · exact .andThen fun f => inferInstance
  | _ => cases atom

theorem exists_consumes [Reentry.Agree False self self] {e : Expr} {operands : List Expr}
    {i : Instruction} (consuming : e.consuming? = some (operands, i)) :
    ∃ f, Consumes self i f ∧ ∀ args, Tidy False (f args) (f args) := by
  cases e with
  | op symbol operands =>
    cases consuming
    exact ⟨applyOperator symbol, rfl, fun args => inferInstance⟩
  | call function args =>
    cases consuming
    refine ⟨fun args => do
      let result ← callFunction self function args
      let policy :=
        (((← Run.script).environment.functions.get? function).map (·.taintPolicy)).getD .permeable
      if policy = .permeable then Run.propagate args result function else pure result,
        ?_, fun args => ?_⟩
    · refine congrArg (fun k => thenNormal (Run.killFrame >>= k)) (funext fun args => ?_)
      simp only [bind_assoc, apply_ite (fun x : Run CellRef => x >>= Run.push)]
      refine congrArg (_ >>= ·) (funext fun result => congrArg (_ >>= ·) (funext fun script => ?_))
      cases script.environment.functions.get? function <;> rfl
    · exact .andThen fun result => .andThen fun script => inferInstance
  | index container index =>
    cases consuming
    refine ⟨fun args => do
      let position ← Library.argument args.reverse 0
      let container ← Library.argument args.reverse 1
      elementAt self container position, ?_, fun args => ?_⟩
    · simp only [Consumes, step, Eval.index, bind_assoc]
    · exact .andThen fun position => .andThen fun container => inferInstance
  | new className args =>
    cases consuming
    refine ⟨fun args => do Run.propagate args (← Host.construct self className args) className,
      ?_, fun args => ?_⟩
    · simp only [Consumes, step, objectNew, bind_assoc]
    · exact .andThen fun result => inferInstance
  | send receiver member args =>
    cases consuming
    refine ⟨fun args => do
      let result ← args.head?.elim (Run.fail (.runtime .noReceiver)) fun receiver =>
        send self receiver member args.tail
      Run.propagate args result (member.getD "call"), ?_, fun args => ?_⟩
    · refine congrArg (fun k => thenNormal (Run.killFrame >>= k)) (funext fun args => ?_)
      cases args <;> simp only [bind_assoc] <;> rfl
    · cases args with
      | nil =>
        exact .seq (inferInstanceAs (Tidy False (Run.fail _) (Run.fail _)))
          fun result => inferInstance
      | cons receiver rest =>
        exact .seq
          (inferInstanceAs
            (Tidy False (send self receiver member rest) (send self receiver member rest)))
          fun result => inferInstance
  | static className member args =>
    cases consuming
    refine ⟨fun args => do
      Run.propagate args (← Host.invokeStatic self className member args) member, ?_,
      fun args => ?_⟩
    · simp only [Consumes, step, objectAccess, bind_assoc]
      rfl
    · exact .andThen fun result => inferInstance
  | _ => cases consuming

/-! ## The evaluation of expressions -/

/-- The cells that an assignment to several targets hands out: the elements of a container, or the
same cell for all. -/
def handedOut (count : ℕ) (source : CellRef) : Run (List CellRef) := do
  match ← Run.askHeap (·.content source) with
  | .sequence s => Library.snapshot s
  | .table t => Run.askHeap fun h => (h.entries t).map (·.2)
  | _ => pure (List.replicate count source)

mutual

/-- An expression is evaluated, with its steps at a line and with a bound on the depth of recursion,
and leaves a cell on the current frame. -/
inductive Yields (line : UInt32) : ℕ → Expr → Machine → CellRef → Machine → Prop
  /-- without operands there is no frame -/
  | atom {n : ℕ} {e : Expr} {i : Instruction} {x : Run CellRef} {m m' : Machine} {cell : CellRef}
    (atom : e.atom? = some i) (gives : Gives (reentry n) i x)
    (run : x (m.atLine line) = (.ok cell, m')) :
    Yields line n e m cell (m'.pushed cell)
  /-- the results of the operands are in the frame in order, and nothing else -/
  | consuming {n : ℕ} {e : Expr} {operands : List Expr} {i : Instruction}
    {f : List CellRef → Run CellRef} {m m₁ m' : Machine} {cells : List CellRef} {cell : CellRef}
    (consuming : e.consuming? = some (operands, i)) (consumes : Consumes (reentry n) i f)
    (each : YieldsAll line n operands (m.atLine line).opened cells m₁)
    (frame : m₁.stack = cells.reverse :: m.stack)
    (run : f cells (m₁.atLine line).collapsed = (.ok cell, m')) :
    Yields line n e m cell (m'.pushed cell)
  /-- the value is alone in the frame, and the target is evaluated when the frame is gone -/
  | assign {n : ℕ} {target value : Expr} {op : Option String} {m m₁ m₂ m' : Machine}
    {v cell : CellRef} (first : Yields line (n + 1) value (m.atLine line).opened v m₁)
    (frame : m₁.stack = [v] :: m.stack)
    (next : Yields line n target (m₁.atLine line).collapsed.opened cell m₂)
    (own : m₂.stack = [cell] :: m.stack) (stored : store cell v op m₂.collapsed = (.ok (), m')) :
    Yields line (n + 1) (.assign target op value) m cell (m'.pushed cell)
  | assignMulti {n : ℕ} {targets : List Expr} {source : Expr} {op : Option String}
    {m m₁ m₂ m' : Machine} {s : CellRef} {values : List CellRef}
    (first : Yields line n source (m.atLine line).opened s m₁) (frame : m₁.stack = [s] :: m.stack)
    (handed : handedOut targets.length s (m₁.atLine line).collapsed = (.ok values, m₂))
    (each : YieldsTargets line n op targets values m₂ m') :
    Yields line n (.assignMulti targets op source) m s (m'.pushed s)

/-- Several expressions are evaluated once each, from left to right. -/
inductive YieldsAll (line : UInt32) : ℕ → List Expr → Machine → List CellRef → Machine → Prop
  | nil {n : ℕ} {m : Machine} : YieldsAll line n [] m [] m
  | cons {n : ℕ} {e : Expr} {es : List Expr} {m m₁ m' : Machine} {cell : CellRef}
    {cells : List CellRef} (first : Yields line n e m cell m₁)
    (rest : YieldsAll line n es m₁ cells m') :
    YieldsAll line n (e :: es) m (cell :: cells) m'

/-- Several targets get values in order, each after it has been evaluated in a frame of its own. -/
inductive YieldsTargets (line : UInt32) :
    ℕ → Option String → List Expr → List CellRef → Machine → Machine → Prop
  | nil {n : ℕ} {op : Option String} {values : List CellRef} {m : Machine} :
    YieldsTargets line n op [] values m m
  | cons {n : ℕ} {op : Option String} {target : Expr} {targets : List Expr} {values : List CellRef}
    {m m₁ m₂ m' : Machine} {cell : CellRef}
    (evaluated : Yields line n target (m.supplied values).opened cell m₁)
    (own : m₁.stack = [cell] :: m.stack)
    (stored : store cell (m.heap.supply values).1 op m₁.collapsed = (.ok (), m₂))
    (rest : YieldsTargets line (n + 1) op targets values.tail m₂ m') :
    YieldsTargets line (n + 1) op (target :: targets) values m m'

end

/-- The steps of an expression evaluate it and leave one cell on the current frame. -/
def Lowers (line : UInt32) (e : Expr) : Prop :=
  ∀ (n i : ℕ) (m m' : Machine), m.Sound →
  steps (step (reentry n)) i none (e.lower line) m = (.ok (.ok .normal), m') →
    ∃ cell, Yields line n e m cell m' ∧ m'.stack = m.stack.modifyHead (cell :: ·) ∧ m'.Sound

/-- The steps of several expressions leave one cell each. -/
def LowersAll (line : UInt32) (es : List Expr) : Prop :=
  ∀ (n i : ℕ) (m m' : Machine), m.Sound →
    steps (step (reentry n)) i none (lowerAll line es) m = (.ok (.ok .normal), m') →
    ∃ cells, YieldsAll line n es m cells m' ∧ m'.stack = m.stack.modifyHead (cells.reverse ++ ·) ∧
      m'.Sound

/-- The blocks of targets are evaluated and stored into in order. -/
def LowersTargets (line : UInt32) (targets : List Expr) : Prop :=
  ∀ (n : ℕ) (op : Option String) (values : List CellRef) (m m' : Machine), m.Sound →
    storeAll (reentry n) op (lowerTargets line targets) (values.map pure) m = (.ok (), m') →
    YieldsTargets line n op targets values m m' ∧ m'.stack = m.stack ∧ m'.Sound

section Lowering

variable {line : UInt32} {n i : ℕ} {m m' : Machine} {e : Expr} {es operands : List Expr}
  {instruction : Instruction} {x : Run CellRef}

theorem thenNormal_iff {x : Run Unit} :
    thenNormal x m = (.ok .normal, m') ↔ x m = (.ok (), m') := by
  unfold thenNormal
  rw [Run.bind_run]
  rcases x m with ⟨stop | _, m₁⟩
  · exact ⟨nofun, nofun⟩
  · constructor
    · intro run
      cases run
      rfl
    · intro run
      cases run
      rfl

/-- One computation after another comes to a result when both do. -/
theorem bind_ok_iff {α β : Type} {x : Run α} {f : α → Run β} {b : β} :
    (x >>= f) m = (.ok b, m') ↔ ∃ a m₁, x m = (.ok a, m₁) ∧ f a m₁ = (.ok b, m') := by
  rw [Run.bind_run]
  rcases x m with ⟨stop | a, m₁⟩
  · constructor
    · exact nofun
    · rintro ⟨_, _, ⟨⟩, -⟩
  · constructor
    · intro run
      exact ⟨a, m₁, rfl, run⟩
    · rintro ⟨_, _, ⟨⟩, run⟩
      exact run

theorem push_iff {cell : CellRef} : Run.push cell m = (.ok (), m') ↔ m' = m.pushed cell := by
  constructor
  · intro run
    cases run
    rfl
  · rintro rfl
    rfl

/-- A result that has been computed by a tidy computation is pushed. -/
theorem pushed_of_tidy [Run.Tidy False x x] {m₀ : Machine} {cell : CellRef} (hm : m.Sound)
    (stack : m.stack = m₀.stack) (run : x m = (.ok cell, m')) :
    (m'.pushed cell).stack = m₀.stack.modifyHead (cell :: ·) ∧ (m'.pushed cell).Sound := by
  have left : m.Leaves [] m' := Run.Tidy.leaves hm run
  refine ⟨?_, left.sound.pushed cell⟩
  rw [Machine.stack_pushed, ← stack]
  exact congrArg _ left.stack

theorem lowers_atom (atom : e.atom? = some instruction) (built : e.isBuilt) : Lowers line e := by
  intro n i m m' hm run
  obtain ⟨x, gives, tidy⟩ := exists_gives (reentry n) atom built
  rw [Expr.lower_of_atom? line atom, steps_cons_iff] at run
  obtain ⟨m₁, performed, ⟨⟩⟩ := run
  rw [gives, thenNormal_iff, bind_ok_iff] at performed
  obtain ⟨cell, m₂, computed, pushed⟩ := performed
  obtain rfl := push_iff.mp pushed
  exact ⟨cell, .atom atom gives computed, pushed_of_tidy (hm.atLine line) rfl computed⟩

theorem lowersAll_nil : LowersAll line [] := by
  intro n i m m' hm run
  cases run
  refine ⟨[], .nil, ?_, hm⟩
  cases m.stack <;> rfl

theorem Lowers.cons (first : Lowers line e) (rest : LowersAll line es) :
    LowersAll line (e :: es) := by
  intro n i m m' hm run
  rw [lowerAll, steps_append_iff] at run
  obtain ⟨m₁, evaluated, run⟩ := run
  obtain ⟨cell, yields, stack, hm₁⟩ := first _ _ _ _ hm evaluated
  obtain ⟨cells, yieldsAll, stack', hm'⟩ := rest _ _ _ _ hm₁ run
  refine ⟨cell :: cells, .cons yields yieldsAll, ?_, hm'⟩
  rw [stack', stack]
  cases m.stack <;> simp

/-- A step that consumes operands finds them in its frame. -/
theorem killFrame_run_of_stack {α : Type} {f : List CellRef → Run α} {m₀ : Machine}
    {cells : List CellRef} (stack : m.stack = cells.reverse :: m₀.stack) :
    (Run.killFrame >>= f) m = f cells m.collapsed := by
  have found : m.context.killFrame.1 = cells := by
    rw [Machine.killFrame_of_stack stack, List.reverse_reverse]
  rw [Run.bind_run, Run.killFrame_run, found]
  rfl

theorem lowers_consuming (consuming : e.consuming? = some (operands, instruction))
    (each : LowersAll line operands) :
    Lowers line e := by
  intro n i m m' hm run
  have agree : Reentry.Agree False (reentry n) (reentry n) := agree_reentry n
  have consumed : ∃ f, Consumes (reentry n) instruction f ∧ ∀ args, Tidy False (f args) (f args) :=
    exists_consumes consuming
  obtain ⟨f, consumes, tidy⟩ := consumed
  rw [Expr.lower_of_consuming? line consuming, steps_cons_iff] at run
  obtain ⟨_, ⟨⟩, run⟩ := run
  obtain ⟨m₁, evaluated, run⟩ := steps_append_iff.mp run
  obtain ⟨m₂, performed, ⟨⟩⟩ := steps_cons_iff.mp run
  obtain ⟨cells, yields, stack, hm₁⟩ := each _ _ _ _ (hm.atLine line).opened evaluated
  have frame : m₁.stack = cells.reverse :: m.stack := by simpa using stack
  have frame' : (m₁.atLine line).stack = cells.reverse :: m.stack := frame
  rw [consumes, thenNormal_iff, killFrame_run_of_stack frame', bind_ok_iff] at performed
  obtain ⟨cell, m₃, computed, pushed⟩ := performed
  obtain rfl := push_iff.mp pushed
  have := tidy cells
  exact ⟨cell, .consuming consuming consumes yields frame computed,
    pushed_of_tidy (hm₁.atLine line).collapsed (Machine.stack_collapsed frame') computed⟩

/-- A block without a source of its own comes to its end when its steps do. -/
theorem block_iff {steps' : List Step} :
    (reentry (n + 1)).block (.mk none steps') none m = (.ok .normal, m') ↔
    steps (step (reentry n)) 0 none steps' m = (.ok (.ok .normal), m') := by
  have run : (reentry (n + 1)).block (.mk none steps') none m = (do
      let outcome ← steps (step (reentry n)) 0 none steps'
      Run.changeContext (closing none m.context.marks outcome)
      Run.settle outcome) m := rfl
  rw [run, Run.bind_run]
  rcases steps (step (reentry n)) 0 none steps' m with ⟨stop | outcome, m₁⟩
  · exact ⟨nofun, nofun⟩
  · match outcome with
    | .ok .normal =>
      constructor
      · intro ended
        cases ended
        rfl
      · intro ended
        cases ended
        rfl
    | .error f => exact ⟨nofun, nofun⟩
    | .ok .break | .ok .continue | .ok (.return _) | .ok (.throw _) | .ok (.yield _ _)
    | .ok (.callcc _ _) =>
      exact ⟨nofun, nofun⟩

/-- What a block of an expression leaves in a frame of its own. -/
theorem intoFrame_iff {block : Block} {self : Reentry} {cells : List CellRef} :
    intoFrame self block m = (.ok cells, m') ↔
    ∃ m₁, self.block block none m.opened = (.ok .normal, m₁) ∧
      (m₁.context.truncateFrames m.opened.context.frameDepth).killFrame.1 = cells ∧
      m' =
        { m₁ with
          context := (m₁.context.truncateFrames m.opened.context.frameDepth).killFrame.2 } := by
  have opened : { m with context := m.context.createFrame } = m.opened := rfl
  have closed (m₁ : Machine) (k : List CellRef → Run (List CellRef)) :
      (do
        Run.changeContext (·.truncateFrames m.opened.context.frameDepth)
        let operands ← Run.killFrame
        k operands) m₁ =
      k (m₁.context.truncateFrames m.opened.context.frameDepth).killFrame.1
        { m₁ with
          context := (m₁.context.truncateFrames m.opened.context.frameDepth).killFrame.2 } := rfl
  unfold intoFrame Run.createFrame
  rw [Run.bind_run, Run.changeContext_run]
  dsimp only
  rw [opened, Run.bind_run, Run.askContext_run]
  dsimp only
  rw [Run.bind_run, Run.attempt_run]
  rcases self.block block none m.opened with ⟨(f | _) | flow, m₁⟩ <;> dsimp only
  · rw [closed]
    constructor
    · intro ended
      cases ended
    · rintro ⟨_, ⟨⟩, -⟩
  · constructor
    · intro ended
      cases ended
    · rintro ⟨_, ⟨⟩, -⟩
  · rw [closed]
    by_cases normal : flow = .normal
    · subst normal
      constructor
      · intro ended
        cases ended
        exact ⟨m₁, rfl, rfl, rfl⟩
      · rintro ⟨_, ⟨⟩, rfl, rfl⟩
        rfl
    · constructor
      · intro ended
        cases flow <;> first | exact absurd rfl normal | cases ended
      · rintro ⟨_, ⟨⟩, -⟩
        exact absurd rfl normal

/-- A target is evaluated in a frame of its own, which is gone afterwards. -/
theorem Lowers.target {cell : CellRef} (lowers : Lowers line e) (hm : m.Sound)
    (run : targetCell (reentry n) (.mk none (e.lower line)) m = (.ok cell, m')) :
    ∃ k m₁, n = k + 1 ∧ Yields line k e m.opened cell m₁ ∧ m₁.stack = [cell] :: m.stack ∧
      m' = m₁.collapsed ∧
      m₁.Sound := by
  unfold targetCell at run
  rw [Run.bind_run] at run
  rcases framed : intoFrame (reentry n) (.mk none (e.lower line)) m with ⟨stop | cells, m₂⟩
  · rw [framed] at run
    cases run
  rw [framed] at run
  obtain ⟨m₁, evaluated, found, rfl⟩ := intoFrame_iff.mp framed
  cases n with
  | zero => cases evaluated
  | succ n =>
    obtain ⟨cell', yields, stack, hm₁⟩ := lowers _ _ _ _ hm.opened (block_iff.mp evaluated)
    have frame : m₁.stack = [cell'] :: m.stack := by simpa using stack
    rw [Machine.truncateFrames_of_stack frame] at found run
    rw [Machine.killFrame_of_stack frame] at found
    subst found
    cases run
    exact ⟨n, m₁, rfl, yields, frame, rfl, hm₁⟩

/-- The value of an assignment is taken from its frame together with the frame. -/
theorem takeOperand_run {α : Type} {m₀ : Machine} {v : CellRef} (stack : m.stack = [v] :: m₀.stack)
    (k : CellRef → Run α) :
    (do
      let value ← Run.pop
      let _ ← Run.killFrame
      k value) m = k v m.collapsed := by
  obtain ⟨top, rest⟩ := Machine.collapsed_pop stack
  have popped : Run.pop m = (.ok v, { m with context := m.context.pop.2 }) := by
    unfold Run.pop
    rw [Run.bind_run]
    dsimp only
    rw [top]
    rfl
  rw [Run.bind_of_ok popped, Run.bind_run, Run.killFrame_run]
  dsimp only
  rw [rest]
  rfl

theorem lower_assign {target value : Expr} {op : Option String} :
    Expr.lower line (.assign target op value) =
    .mk line .createFrame ::
      (value.lower line ++ [.mk line (.assign (.mk none (target.lower line)) op)]) := by
  simp [Expr.lower]

theorem lower_assignMulti {targets : List Expr} {source : Expr} {op : Option String} :
    Expr.lower line (.assignMulti targets op source) =
      .mk line .createFrame ::
        (source.lower line ++ [.mk line (.assignMulti (lowerTargets line targets) op)]) := by
  simp [Expr.lower]

theorem lowers_assign {target value : Expr} {op : Option String} (hv : Lowers line value)
    (ht : Lowers line target) :
    Lowers line (.assign target op value) := by
  intro n i m m' hm run
  rw [lower_assign, steps_cons_iff] at run
  obtain ⟨_, ⟨⟩, run⟩ := run
  obtain ⟨m₁, evaluated, run⟩ := steps_append_iff.mp run
  obtain ⟨m₂, performed, ⟨⟩⟩ := steps_cons_iff.mp run
  obtain ⟨v, yields, stack, hm₁⟩ := hv _ _ _ _ (hm.atLine line).opened evaluated
  have frame : (m₁.atLine line).stack = [v] :: m.stack := by simpa using stack
  have below : (m₁.atLine line).collapsed.stack = m.stack := Machine.stack_collapsed frame
  have performed :
      assign (reentry n) (.mk none (target.lower line)) op (m₁.atLine line) = (.ok (), m') :=
    thenNormal_iff.mp performed
  rw [assign, takeOperand_run frame, bind_ok_iff] at performed
  obtain ⟨cell, m₂, found, performed⟩ := performed
  obtain ⟨k, m₃, rfl, evaluated, own, rfl, hm₃⟩ := ht.target (hm₁.atLine line).collapsed found
  obtain ⟨_, m₄, stored, pushed⟩ := bind_ok_iff.mp performed
  obtain rfl := push_iff.mp pushed
  rw [below] at own
  have left : m₃.collapsed.Leaves [] m₄ := Run.Tidy.leaves hm₃.collapsed stored
  refine ⟨cell, .assign yields frame evaluated own stored, ?_, left.sound.pushed cell⟩
  rw [Machine.stack_pushed, ← Machine.stack_collapsed own]
  exact congrArg _ left.stack

/-- Stores come to an end one after the other. -/
theorem lowersTargets_nil : LowersTargets line [] := by
  intro n op values m m' hm run
  cases run
  exact ⟨.nil, rfl, hm⟩

theorem Lowers.consTarget {targets : List Expr} (first : Lowers line e)
    (rest : LowersTargets line targets) :
    LowersTargets line (e :: targets) := by
  intro n op values m m' hm run
  rw [lowerTargets, storeAll, Run.bind_run, supply_run] at run
  dsimp only at run
  have hm₀ : (m.supplied values).Sound := hm.of_code (by cases values <;> rfl)
  obtain ⟨cell, m₁, found, run⟩ := bind_ok_iff.mp run
  obtain ⟨k, m₂, rfl, evaluated, own, rfl, hm₂⟩ := first.target hm₀ found
  obtain ⟨_, m₃, stored, run⟩ := bind_ok_iff.mp run
  have left : m₂.collapsed.Leaves [] m₃ := Run.Tidy.leaves hm₂.collapsed stored
  rw [← List.map_tail] at run
  obtain ⟨yields, stack, hm'⟩ := rest _ _ _ _ _ left.sound run
  refine ⟨.cons evaluated own stored yields, ?_, hm'⟩
  exact stack.trans (left.stack.trans (Machine.stack_collapsed own))

theorem length_lowerTargets (line : UInt32) (targets : List Expr) :
    (lowerTargets line targets).length = targets.length := by
  induction targets with
  | nil => rfl
  | cons target targets ih => rw [lowerTargets, List.length_cons, List.length_cons, ih]

/-- An assignment to several targets takes what it hands out before any of them is evaluated. -/
theorem assignMulti_of_stack {self : Reentry} {targets : List Block} {op : Option String}
    {m₀ : Machine} {s : CellRef} (stack : m.stack = [s] :: m₀.stack) :
    assignMulti self targets op m =
      (handedOut targets.length s >>= fun values =>
        storeAll self op targets (values.map pure) >>= fun _ => Run.push s) m.collapsed := by
  rw [assignMulti, takeOperand_run stack, handedOut, bind_assoc, Run.bind_run, Run.askHeap_run]
  dsimp only
  rw [Run.bind_run, Run.askHeap_run, ← List.map_const']
  dsimp only
  cases m.collapsed.heap.content s <;> rfl

theorem lowers_assignMulti {targets : List Expr} {source : Expr} {op : Option String}
    (hs : Lowers line source) (ht : LowersTargets line targets) :
    Lowers line (.assignMulti targets op source) := by
  intro n i m m' hm run
  rw [lower_assignMulti, steps_cons_iff] at run
  obtain ⟨_, ⟨⟩, run⟩ := run
  obtain ⟨m₁, evaluated, run⟩ := steps_append_iff.mp run
  obtain ⟨m₂, performed, ⟨⟩⟩ := steps_cons_iff.mp run
  obtain ⟨s, yields, stack, hm₁⟩ := hs _ _ _ _ (hm.atLine line).opened evaluated
  have frame : (m₁.atLine line).stack = [s] :: m.stack := by simpa using stack
  have performed :
      assignMulti (reentry n) (lowerTargets line targets) op (m₁.atLine line) = (.ok (), m') :=
    thenNormal_iff.mp performed
  rw [assignMulti_of_stack frame, length_lowerTargets, bind_ok_iff] at performed
  obtain ⟨values, m₃, handed, performed⟩ := performed
  have tidy : Run.Tidy False (handedOut targets.length s) (handedOut targets.length s) :=
    .andThen fun content => by split <;> infer_instance
  have left : (m₁.atLine line).collapsed.Leaves [] m₃ :=
    Run.Tidy.leaves (hm₁.atLine line).collapsed handed
  obtain ⟨_, m₄, stored, pushed⟩ := bind_ok_iff.mp performed
  obtain rfl := push_iff.mp pushed
  obtain ⟨each, stack', hm₄⟩ := ht _ _ _ _ _ left.sound stored
  refine ⟨s, .assignMulti yields frame handed each, ?_, hm₄.pushed s⟩
  rw [Machine.stack_pushed, stack', ← Machine.stack_collapsed frame]
  exact congrArg _ left.stack

mutual

theorem lowers (line : UInt32) : ∀ e : Expr, e.isBuilt → Lowers line e
  | .literal _, h => lowers_atom rfl h
  | .interpolate _, h => lowers_atom rfl h
  | .var _, h => lowers_atom rfl h
  | .closure _, h => lowers_atom rfl h
  | .op _ operands, h =>
    lowers_consuming rfl (lowersAll line operands (by simpa [Expr.isBuilt] using h))
  | .call _ args, h => lowers_consuming rfl (lowersAll line args (by simpa [Expr.isBuilt] using h))
  | .new _ args, h => lowers_consuming rfl (lowersAll line args (by simpa [Expr.isBuilt] using h))
  | .static _ _ args, h =>
    lowers_consuming rfl (lowersAll line args (by simpa [Expr.isBuilt] using h))
  | .send receiver _ args, h => by
    simp only [Expr.isBuilt, Bool.and_eq_true] at h
    exact lowers_consuming rfl ((lowers line receiver h.1).cons (lowersAll line args h.2))
  | .index container position, h => by
    simp only [Expr.isBuilt, Bool.and_eq_true] at h
    exact lowers_consuming rfl
      ((lowers line container h.1).cons ((lowers line position h.2).cons lowersAll_nil))
  | .assign target _ value, h => by
    simp only [Expr.isBuilt, Bool.and_eq_true] at h
    exact lowers_assign (lowers line value h.2) (lowers line target h.1)
  | .assignMulti targets _ source, h => by
    simp only [Expr.isBuilt, Bool.and_eq_true] at h
    exact lowers_assignMulti (lowers line source h.2) (lowersTargets line targets h.1)

theorem lowersAll (line : UInt32) : ∀ es : List Expr, areBuilt es → LowersAll line es
  | [], _ => lowersAll_nil
  | e :: rest, h => by
    simp only [areBuilt, Bool.and_eq_true] at h
    exact (lowers line e h.1).cons (lowersAll line rest h.2)

theorem lowersTargets (line : UInt32) :
    ∀ targets : List Expr, areBuilt targets → LowersTargets line targets
  | [], _ => lowersTargets_nil
  | e :: rest, h => by
    simp only [areBuilt, Bool.and_eq_true] at h
    exact (lowers line e h.1).consTarget (lowersTargets line rest h.2)

end

/-! ### From evaluations to steps -/

/-- A target whose steps leave one cell in a frame of its own stands for it. -/
theorem targetCell_of_steps {cell : CellRef} {m₁ : Machine} (own : m₁.stack = [cell] :: m.stack)
    (run : steps (step (reentry n)) 0 none (e.lower line) m.opened = (.ok (.ok .normal), m₁)) :
    targetCell (reentry (n + 1)) (.mk none (e.lower line)) m = (.ok cell, m₁.collapsed) := by
  have framed :
      intoFrame (reentry (n + 1)) (.mk none (e.lower line)) m = (.ok [cell], m₁.collapsed) := by
    refine intoFrame_iff.mpr ⟨m₁, block_iff.mpr run, ?_, ?_⟩
    · rw [Machine.truncateFrames_of_stack own, Machine.killFrame_of_stack own]
      rfl
    · rw [Machine.truncateFrames_of_stack own]
      rfl
  rw [targetCell, Run.bind_of_ok framed]
  rfl

mutual

/-- Where an expression is evaluated its steps come to their end. -/
theorem Yields.steps_eq (line : UInt32) : ∀ {n : ℕ} {e : Expr} {m m' : Machine} {cell : CellRef},
    Yields line n e m cell m' → ∀ i, steps (step (reentry n)) i none (e.lower line) m =
      (.ok (.ok .normal), m')
  | _, _, _, _, _, .atom atom gives run, i => by
    rw [Expr.lower_of_atom? line atom, steps_cons_iff]
    refine ⟨_, ?_, rfl⟩
    rw [gives, thenNormal_iff, bind_ok_iff]
    exact ⟨_, _, run, push_iff.mpr rfl⟩
  | _, _, _, _, _, .consuming consuming consumes each frame run, i => by
    rw [Expr.lower_of_consuming? line consuming, steps_cons_iff]
    refine ⟨_, rfl, steps_append_iff.mpr ⟨_, each.steps_eq line _, steps_cons_iff.mpr ⟨_, ?_, rfl⟩⟩⟩
    rw [consumes, thenNormal_iff, killFrame_run_of_stack (Machine.stack_atLine.trans frame),
      bind_ok_iff]
    exact ⟨_, _, run, push_iff.mpr rfl⟩
  | _, _, _, _, _, .assign first frame next own stored, i => by
    rw [lower_assign, steps_cons_iff]
    refine ⟨_, rfl, steps_append_iff.mpr
      ⟨_, first.steps_eq line _, steps_cons_iff.mpr ⟨_, ?_, rfl⟩⟩⟩
    refine thenNormal_iff.mpr ?_
    have frame' : (Machine.atLine _ line).stack = [_] :: Machine.stack _ := frame
    rw [assign, takeOperand_run frame', bind_ok_iff]
    have own' := own.trans (congrArg _ (Machine.stack_collapsed frame').symm)
    refine ⟨_, _, targetCell_of_steps own' (next.steps_eq line 0), ?_⟩
    exact bind_ok_iff.mpr ⟨_, _, stored, push_iff.mpr rfl⟩
  | _, _, _, _, _, .assignMulti first frame handed each, i => by
    rw [lower_assignMulti, steps_cons_iff]
    refine ⟨_, rfl, steps_append_iff.mpr
      ⟨_, first.steps_eq line _, steps_cons_iff.mpr ⟨_, ?_, rfl⟩⟩⟩
    refine thenNormal_iff.mpr ?_
    rw [assignMulti_of_stack (Machine.stack_atLine.trans frame), length_lowerTargets, bind_ok_iff]
    exact ⟨_, _, handed, bind_ok_iff.mpr ⟨_, _, each.storeAll_eq line, push_iff.mpr rfl⟩⟩

theorem YieldsAll.steps_eq (line : UInt32) :
    ∀ {n : ℕ} {es : List Expr} {m m' : Machine} {cells : List CellRef},
    YieldsAll line n es m cells m' → ∀ i, steps (step (reentry n)) i none (lowerAll line es) m =
    (.ok (.ok .normal), m')
  | _, _, _, _, _, .nil, _ => rfl
  | _, _, _, _, _, .cons first rest, i => by
    rw [lowerAll, steps_append_iff]
    exact ⟨_, first.steps_eq line i, rest.steps_eq line _⟩

theorem YieldsTargets.storeAll_eq (line : UInt32) :
    ∀ {n : ℕ} {op : Option String} {targets : List Expr}
    {values : List CellRef} {m m' : Machine}, YieldsTargets line n op targets values m m' →
    storeAll (reentry n) op (lowerTargets line targets) (values.map pure) m = (.ok (), m')
  | _, _, _, _, _, _, .nil => rfl
  | _, _, _, _, _, _, .cons evaluated own stored rest => by
    rw [lowerTargets, storeAll, Run.bind_run, supply_run]
    refine bind_ok_iff.mpr ⟨_, _, targetCell_of_steps own (evaluated.steps_eq line 0), ?_⟩
    refine bind_ok_iff.mpr ⟨_, _, stored, ?_⟩
    rw [← List.map_tail]
    exact rest.storeAll_eq line

end

end Lowering

/-- In a sound machine, whatever its context holds, the steps of an expression come to their end
just when it is evaluated: with the operands of each step that consumes a frame evaluated once, in
order, and their results alone in that frame, and with an assigned value before its target. Then all
frames are as they were but for one more cell on the current one, and the machine is sound. -/
theorem lowered_yields (line : UInt32) {e : Expr} (built : e.isBuilt) (n i : ℕ) {m m' : Machine}
    (hm : m.Sound) :
    steps (step (reentry n)) i none (e.lower line) m = (.ok (.ok .normal), m') ↔
      ∃ cell, Yields line n e m cell m' ∧ m'.stack = m.stack.modifyHead (cell :: ·) ∧ m'.Sound := by
  constructor
  · intro run
    exact lowers line e built n i m m' hm run
  · rintro ⟨cell, yields, -⟩
    exact yields.steps_eq line i

/-- The first element of a list gets the sum of the second one and a number. -/
def sumAssigned : Expr :=
  .assign (.index (.var "@x") (.literal (.int 0))) none
    (.op "+" [.index (.var "@x") (.literal (.int 1)), .literal (.int 5)])

theorem lowered_yields_sumAssigned : sumAssigned.isBuilt ∧ (pairOperand (.int 2)).Sound ∧
    ∃ cell m', steps (step (reentry 5)) 0 none (sumAssigned.lower 3) (pairOperand (.int 2)) =
      (.ok (.ok .normal), m') ∧
      Yields 3 5 sumAssigned (pairOperand (.int 2)) cell m' ∧ m'.stack = [[cell, ⟨2⟩], []] ∧
      isNumber 7 (m'.heap.get ⟨0⟩) := by
  have built : sumAssigned.isBuilt := by decide
  have sound : (pairOperand (.int 2)).Sound := ⟨fun _ => ⟨rfl, nofun⟩, fun _ _ held => nomatch held⟩
  have ends :
      (steps (step (reentry 5)) 0 none (sumAssigned.lower 3) (pairOperand (.int 2))).1.toOption.bind
      Except.toOption = some .normal := by decide +kernel
  have seven :
      isNumber 7
        ((steps (step (reentry 5)) 0 none (sumAssigned.lower 3) (pairOperand (.int 2))).2.heap.get
      ⟨0⟩) := by decide +kernel
  rcases run : steps (step (reentry 5)) 0 none (sumAssigned.lower 3) (pairOperand (.int 2)) with
    ⟨stop | (f | flow), m'⟩ <;> rw [run] at ends seven <;> cases ends
  obtain ⟨cell, yields, stack, -⟩ := (lowered_yields 3 built 5 0 sound).mp run
  exact ⟨built, sound, cell, m', rfl, yields, stack, seven⟩

end Eval

end CellScript
