import CellScript.Machine.Basic
import CellScript.Proofs.Program.Shape

/-!
# Sound machines

A machine is sound when all code that it may come to run is balanced and every suspended closure has
the iterators of the `foreach` loops that it will go on in. Library functions neither change code
nor take part in suspensions, and they leave the stacks of the context alone.

## Main definitions

* `Machine.Sound` — balanced code, and enough iterators in every suspension.
* `Machine.Extends` — closures stay what they are, apart from where they are suspended.
* `Machine.Leaves` — what a call leaves of the machine that it was made in.
* `Machine.Quiet` — changes that concern neither code nor the stacks of the context.
-/

namespace CellScript

namespace Context

/-- What steps leave alone, apart from what is put on the newest end of a stack for the time of a
block. -/
def rigid (c : Context) : ScriptRef × List String × List String × Bool × Nat :=
  (c.script, c.handlers, c.sources, c.taint, c.maxDepth)

/-- The operands of all frames, those of the current frame first. -/
def stack (c : Context) : List (List CellRef) :=
  c.frames ++ [c.base]

theorem handlers_of_rigid {c d : Context} (h : d.rigid = c.rigid) : d.handlers = c.handlers :=
  congrArg (·.2.1) h

theorem sources_of_rigid {c d : Context} (h : d.rigid = c.rigid) : d.sources = c.sources :=
  congrArg (·.2.2.1) h

/-- Every stack has the base frame. -/
theorem stack_eq_cons (c : Context) : ∃ operands, c.stack = operands :: c.stack.tail := by
  cases h : c.frames <;> simp [stack, h]

@[simp] theorem stack_length (c : Context) : c.stack.length = c.frameDepth := by
  simp [stack, frameDepth]

end Context

/-- Code of a script that closes what it opens. -/
structure Script.Sound (s : Script) : Prop where
  main : s.main.isBalanced
  inlines : ∀ name b, s.environment.inlines.get? name = some b → b.isBalanced

/-- A closure with a balanced body that can go on where it was suspended. -/
structure Closure.Sound (c : Closure) : Prop where
  body : c.body.isBalanced
  suspension : ∀ s, c.suspension = some s →
    ∃ k, c.body.opens? s.cursor = some k ∧ k ≤ s.iterators.length

namespace Machine

/-- All code is balanced, and suspended closures can go on. -/
structure Sound (m : Machine) : Prop where
  scripts : ∀ i, (m.scripts.getD i default).Sound
  closures : ∀ f c, m.heap.closure? f = some c → c.Sound

/-- Scripts stay, and so do closures, apart from where they are suspended. -/
structure Extends (m m' : Machine) : Prop where
  scripts : m'.scripts.size = m.scripts.size
  closures : ∀ f c, m.heap.closure? f = some c →
    ∃ s, m'.heap.closure? f = some { c with suspension := s }

/-- Whether a function is a closure, suspended or not. -/
def Has (m : Machine) (f : FunctionRef) (c : Closure) : Prop :=
  ∃ s, m.heap.closure? f = some { c with suspension := s }

/-- What a call that is made in `m` leaves: a sound machine in whose context nothing has changed
but, where a block was suspended that cannot be, the iterators `own` on top. -/
structure Leaves (own : List IterState) (m m' : Machine) : Prop where
  sound : m'.Sound
  grows : m.Extends m'
  rigid : m'.context.rigid = m.context.rigid
  stack : m'.context.stack = m.context.stack
  scope : m'.context.scope = m.context.scope
  iterators : m'.context.iterators = own ++ m.context.iterators

/-- What a call may end with: when it returns, the context is as it was. -/
def Left {α : Type} (m : Machine) : Except Fault α → Machine → Prop
  | .ok _, m' => m.Leaves [] m'
  | .error _, m' => ∃ own, m.Leaves own m'

/-- The code of a machine and where its closures are suspended. -/
def code (m : Machine) : Array Callable × Array (Block × Environment) :=
  (m.heap.functions, m.scripts.map fun s => (s.main, s.environment))

/-- Nothing has changed in code or on the stacks of the context. -/
structure Quiet (m m' : Machine) : Prop where
  code : m'.code = m.code
  rigid : m'.context.rigid = m.context.rigid
  stack : m'.context.stack = m.context.stack
  scope : m'.context.scope = m.context.scope
  iterators : m'.context.iterators = m.context.iterators

variable {m m' m'' : Machine}

/-! ## Code -/

theorem closure?_of_code (h : m'.code = m.code) (f : FunctionRef) :
    m'.heap.closure? f = m.heap.closure? f := by
  have functions : m'.heap.functions = m.heap.functions := congrArg (·.1) h
  simp only [Heap.closure?, Heap.callable, functions]

theorem scripts_of_map (h : (m'.scripts.map fun s => (s.main, s.environment)) =
    m.scripts.map fun s => (s.main, s.environment)) (i : Nat) :
    (m'.scripts.getD i default).main = (m.scripts.getD i default).main ∧
      (m'.scripts.getD i default).environment = (m.scripts.getD i default).environment := by
  have same : (m'.scripts.map fun s => (s.main, s.environment))[i]? =
      (m.scripts.map fun s => (s.main, s.environment))[i]? := congrArg (·[i]?) h
  simp only [Array.getElem?_map] at same
  simp only [Array.getD_eq_getD_getElem?]
  cases h₁ : m.scripts[i]? <;> cases h₂ : m'.scripts[i]? <;> simp_all

theorem Sound.of_code (hm : m.Sound) (h : m'.code = m.code) : m'.Sound where
  scripts i := by
    obtain ⟨main, environment⟩ := scripts_of_map (congrArg (·.2) h) i
    refine ⟨main ▸ (hm.scripts i).main, fun name b => ?_⟩
    rw [environment]
    exact (hm.scripts i).inlines name b
  closures f c hc := hm.closures f c (by rwa [← closure?_of_code h f])

theorem Extends.of_code (h : m'.code = m.code) : m.Extends m' where
  scripts := by simpa [code] using congrArg (·.2.size) h
  closures f c hc := ⟨c.suspension, by rw [closure?_of_code h f, hc]⟩

@[simp] theorem Extends.refl (m : Machine) : m.Extends m := .of_code rfl

theorem Extends.trans (h : m.Extends m') (h' : m'.Extends m'') : m.Extends m'' where
  scripts := h'.scripts.trans h.scripts
  closures f c hc := by
    obtain ⟨s, hs⟩ := h.closures f c hc
    obtain ⟨s', hs'⟩ := h'.closures f _ hs
    exact ⟨s', hs'⟩

/-- The same when nothing is done to the code before and after. -/
theorem Extends.around {e e' : Machine} (h : e.Extends e') (before : e.code = m.code)
    (after : m'.code = e'.code) :
    m.Extends m' :=
  (Extends.of_code before).trans (h.trans (.of_code after))

/-! ## Closures -/

theorem Extends.has {f : FunctionRef} {c : Closure} (h : m.Extends m') (hf : m.Has f c) :
    m'.Has f c := by
  obtain ⟨_, hs⟩ := hf
  obtain ⟨s, hs'⟩ := h.closures f _ hs
  exact ⟨s, hs'⟩

theorem Has.of_closure? {f : FunctionRef} {c : Closure} (h : m.heap.closure? f = some c) :
    m.Has f c :=
  ⟨c.suspension, h⟩

theorem closure?_setSuspension (h : Heap) (f g : FunctionRef) (s : Option Suspension) :
    (h.setSuspension f s).closure? g =
      if f = g then (h.closure? g).map ({ · with suspension := s }) else h.closure? g := by
  obtain ⟨i⟩ := f
  obtain ⟨j⟩ := g
  simp only [Heap.closure?, Heap.callable, Heap.setSuspension, Array.getD_eq_getD_getElem?,
    Array.getElem?_modify, FunctionRef.mk.injEq]
  by_cases same : i = j
  · rw [if_pos same, if_pos same]
    cases h.functions[j]? with
    | none => rfl
    | some callable => cases callable <;> rfl
  · rw [if_neg same, if_neg same]

/-- Suspending a closure at a position where it can go on. -/
theorem Sound.setSuspension (hm : m.Sound) (f : FunctionRef) (s : Option Suspension)
    (h : ∀ c, m.heap.closure? f = some c → ({ c with suspension := s } : Closure).Sound) :
    ({ m with heap := m.heap.setSuspension f s } : Machine).Sound where
  scripts := hm.scripts
  closures g c hc := by
    rw [closure?_setSuspension] at hc
    split at hc
    · rename_i same
      subst same
      obtain ⟨c, found, rfl⟩ := Option.map_eq_some_iff.mp hc
      exact h c found
    · exact hm.closures g c hc

theorem Extends.setSuspension (m : Machine) (f : FunctionRef) (s : Option Suspension) :
    m.Extends { m with heap := m.heap.setSuspension f s } where
  scripts := rfl
  closures g c hc := by
    simp only [closure?_setSuspension, hc, Option.map_some]
    split
    · exact ⟨s, rfl⟩
    · exact ⟨c.suspension, rfl⟩

theorem closure?_newFunction (h : Heap) (callable : Callable) (f : FunctionRef) (c : Closure)
    (hc : (HeapM.newFunction callable h).2.closure? f = some c) :
    h.closure? f = some c ∨ callable = .closure c := by
  simp only [HeapM.newFunction, Heap.closure?, Heap.callable, Array.getD_eq_getD_getElem?,
    Array.getElem?_push] at hc ⊢
  by_cases last : f.index = h.functions.size
  · rw [if_pos last] at hc
    cases callable <;> simp_all
  · rw [if_neg last] at hc
    exact .inl hc

theorem closure?_newFunction_of_closure? (h : Heap) (callable : Callable) (f : FunctionRef)
    (c : Closure) (hc : h.closure? f = some c) :
    (HeapM.newFunction callable h).2.closure? f = some c := by
  simp only [HeapM.newFunction, Heap.closure?, Heap.callable, Array.getD_eq_getD_getElem?,
    Array.getElem?_push] at hc ⊢
  by_cases last : f.index = h.functions.size
  · simp only [last, Array.getElem?_eq_none (Nat.le_refl _), Option.getD_none] at hc
    cases hc
  · rwa [if_neg last]

theorem Extends.newFunction (m : Machine) (callable : Callable) :
    m.Extends { m with heap := (HeapM.newFunction callable m.heap).2 } where
  scripts := rfl
  closures f c hc := ⟨c.suspension, closure?_newFunction_of_closure? m.heap callable f c hc⟩

/-- A new function that, if it is a closure, is a sound one. -/
theorem Sound.newFunction (hm : m.Sound) {callable : Callable}
    (h : ∀ c, callable = .closure c → c.Sound) :
    ({ m with heap := (HeapM.newFunction callable m.heap).2 } : Machine).Sound where
  scripts := hm.scripts
  closures f c hc := (closure?_newFunction m.heap callable f c hc).elim (hm.closures f c) (h c)

/-! ## Changes of scripts -/

theorem getD_modify (scripts : Array Script) (s i : Nat) (f : Script → Script) :
    (scripts.modify s f).getD i default = scripts.getD i default ∨
      (scripts.modify s f).getD i default = f (scripts.getD i default) := by
  simp only [Array.getD_eq_getD_getElem?, Array.getElem?_modify]
  by_cases same : s = i
  · subst same
    cases scripts[s]? <;> simp
  · simp [same]

theorem getD_modify_self (scripts : Array Script) (i : Nat) (f : Script → Script) :
    (scripts.modify i f).getD i default = if i < scripts.size then f (scripts.getD i default)
      else default := by
  simp only [Array.getD_eq_getD_getElem?, Array.getElem?_modify, ↓reduceIte]
  split <;> simp [*]

/-- A change of a script that keeps its code balanced. -/
theorem Sound.changeScript (hm : m.Sound) (s : ScriptRef) (f : Script → Script)
    (hf : ∀ script, script.Sound → (f script).Sound) :
    ({ m with scripts := m.scripts.modify s.index f } : Machine).Sound where
  scripts i := by
    rcases getD_modify m.scripts s.index i f with h | h
    · exact h ▸ hm.scripts i
    · exact h ▸ hf _ (hm.scripts i)
  closures := hm.closures

theorem Extends.changeScript (m : Machine) (s : ScriptRef) (f : Script → Script) :
    m.Extends { m with scripts := m.scripts.modify s.index f } where
  scripts := Array.size_modify
  closures _ c hc := ⟨c.suspension, hc⟩

/-! ## Calls -/

theorem Leaves.refl (hm : m.Sound) : m.Leaves [] m :=
  ⟨hm, .refl m, rfl, rfl, rfl, rfl⟩

theorem Leaves.trans {own own' : List IterState} (h : m.Leaves own m') (h' : m'.Leaves own' m'') :
    m.Leaves (own' ++ own) m'' where
  sound := h'.sound
  grows := h.grows.trans h'.grows
  rigid := h'.rigid.trans h.rigid
  stack := h'.stack.trans h.stack
  scope := h'.scope.trans h.scope
  iterators := by rw [h'.iterators, h.iterators, List.append_assoc]

theorem Quiet.leaves (h : m.Quiet m') (hm : m.Sound) : m.Leaves [] m' :=
  ⟨hm.of_code h.code, .of_code h.code, h.rigid, h.stack, h.scope, h.iterators⟩

/-- Changes that concern neither code nor the stacks of the context, whatever comes of them. -/
theorem Left.of_leaves {α : Type} {r : Except Fault α} (h : m.Leaves [] m') : m.Left r m' := by
  cases r with
  | ok _ => exact h
  | error _ => exact ⟨[], h⟩

/-- What is left of a machine that a call has returned to. -/
theorem Left.after {α : Type} {r : Except Fault α} (h : m.Leaves [] m') (h' : m'.Left r m'') :
    m.Left r m'' := by
  cases r with
  | ok _ => exact h.trans h'
  | error _ =>
    obtain ⟨own, h'⟩ := h'
    exact ⟨own, by simpa using h.trans h'⟩

end Machine

end CellScript
