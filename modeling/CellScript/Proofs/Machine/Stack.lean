import CellScript.Proofs.Run.Tidy

/-!
# Stacks of a context

How the operations of a context change its stacks, and what it means that the iterators of the open
loops have moved on.

## Main definitions

* `ScopeChain.SameCall` — the levels of the same calls, with other containers on the current one.
* `Machine.Advances` — nothing has changed but how far the iterators of the open loops are.
-/

namespace CellScript

namespace Context

variable (c : Context)

@[simp] theorem stack_createFrame : c.createFrame.stack = [] :: c.stack := rfl

@[simp] theorem stack_modifyFrame (f : List CellRef → List CellRef) :
    (c.modifyFrame f).stack = c.stack.modifyHead f := by
  cases h : c.frames <;> simp [stack, modifyFrame, h]

/-- Taking away a frame that is not the base frame. -/
theorem stack_killFrame (h : 1 < c.stack.length) : c.killFrame.2.stack = c.stack.tail := by
  cases hf : c.frames with
  | nil => simp [stack, hf] at h
  | cons operands frames => simp [stack, killFrame, hf]

/-- Back in the frame below. -/
theorem stack_killFrame_of_tail {c d : Context} (h : c.stack.tail = d.stack) :
    c.killFrame.2.stack = d.stack := by
  have deep : 1 < c.stack.length := by
    have length := congrArg List.length h
    simp only [List.length_tail, stack_length, frameDepth] at length ⊢
    omega
  rw [stack_killFrame c deep, h]

theorem stack_truncateFrames {depth : Nat} (h : 0 < depth) :
    (c.truncateFrames depth).stack = truncateStack c.stack depth := by
  obtain ⟨n, rfl⟩ : ∃ n, depth = n + 1 := ⟨depth - 1, by omega⟩
  simp only [stack, truncateFrames, truncateStack, Nat.add_sub_cancel, List.length_append,
    List.length_cons, List.length_nil, Nat.zero_add, Nat.add_sub_add_right]
  rw [List.drop_append_of_le_length (by omega)]

end Context

theorem truncateStack_append {α : Type} (top rest : List α) :
    truncateStack (top ++ rest) rest.length = rest := by
  simp [truncateStack]

/-- Cutting a stack no deeper than its oldest entries. -/
theorem truncateStack_append_add {α : Type} (top rest : List α) (n : Nat) :
    truncateStack (top ++ rest) (n + rest.length) = truncateStack top n ++ rest := by
  rw [truncateStack, truncateStack, List.length_append, Nat.add_sub_add_right,
    List.drop_append_of_le_length (Nat.sub_le _ _)]

theorem length_truncateStack {α : Type} (stack : List α) (n : Nat) :
    (truncateStack stack n).length = min stack.length n := by
  simp only [truncateStack, List.length_drop]
  omega

/-- Only the oldest entry of what is above the rest is kept. -/
theorem tail_truncateStack {α : Type} {top : List α} (rest : List α) (h : top ≠ []) :
    (truncateStack (top ++ rest) (rest.length + 1)).tail = rest := by
  have positive : 0 < top.length := List.length_pos_iff.mpr h
  rw [truncateStack, List.tail_drop, List.length_append,
    show top.length + rest.length - (rest.length + 1) + 1 = top.length by omega, List.drop_left]

/-- What an iterator goes over, and the variables of its loop. -/
def IterState.loop (it : IterState) : Option String × String × IterSource :=
  (it.key, it.value, it.source)

/-! ## Scopes -/

/-- The same levels, with other containers on the current one. -/
def ScopeChain.SameCall (s t : ScopeChain) : Prop :=
  ∃ inner, t = s.modifyCurrent ({ · with inner })

namespace ScopeChain

theorem modifyCurrent_modifyCurrent (s : ScopeChain) (f g : ScopeLevel → ScopeLevel) :
    (s.modifyCurrent f).modifyCurrent g = s.modifyCurrent (g ∘ f) := by
  cases h : s.levels <;> simp [modifyCurrent, h]

theorem modifyCurrent_id (s : ScopeChain) {f : ScopeLevel → ScopeLevel}
    (h : f s.current = s.current) :
    s.modifyCurrent f = s := by
  obtain ⟨base, levels, global⟩ := s
  cases levels <;> simp_all [modifyCurrent, current]

@[simp] theorem SameCall.refl (s : ScopeChain) : s.SameCall s :=
  ⟨s.current.inner, (s.modifyCurrent_id rfl).symm⟩

theorem SameCall.trans {s t u : ScopeChain} : s.SameCall t → t.SameCall u → s.SameCall u
  | ⟨_, ht⟩, ⟨inner, hu⟩ => ⟨inner, by rw [hu, ht, modifyCurrent_modifyCurrent]; rfl⟩

theorem SameCall.of_inner (s : ScopeChain) (f : List VarsRef → List VarsRef) :
    s.SameCall (s.modifyCurrent fun l => { l with inner := f l.inner }) := by
  refine ⟨f s.current.inner, ?_⟩
  obtain ⟨base, levels, global⟩ := s
  cases levels <;> rfl

theorem SameCall.popLocal (s : ScopeChain) : s.SameCall s.popLocal :=
  .of_inner s List.tail

/-- The chain with containers on top of the current level. -/
def pushLocals (s : ScopeChain) (more : List VarsRef) : ScopeChain :=
  s.modifyCurrent fun l => { l with inner := more ++ l.inner }

theorem SameCall.pushLocals (s : ScopeChain) (more : List VarsRef) :
    s.SameCall (s.pushLocals more) :=
  .of_inner s (more ++ ·)

@[simp] theorem pushLocals_nil (s : ScopeChain) : s.pushLocals [] = s :=
  s.modifyCurrent_id rfl

theorem pushLocal_eq (s : ScopeChain) (vars : VarsRef) : s.pushLocal vars = s.pushLocals [vars] :=
  rfl

theorem pushLocals_pushLocals (s : ScopeChain) (more more' : List VarsRef) :
    (s.pushLocals more).pushLocals more' = s.pushLocals (more' ++ more) := by
  unfold ScopeChain.pushLocals
  rw [modifyCurrent_modifyCurrent]
  congr 1
  funext l
  simp

@[simp] theorem popLocal_pushLocal (s : ScopeChain) (vars : VarsRef) :
    (s.pushLocal vars).popLocal = s := by
  unfold ScopeChain.pushLocal ScopeChain.popLocal
  rw [modifyCurrent_modifyCurrent]
  exact s.modifyCurrent_id rfl

@[simp] theorem truncateLocals_pushLocals (s : ScopeChain) (more : List VarsRef) :
    (s.pushLocals more).truncateLocals s.localDepth = s := by
  obtain ⟨base, levels, global⟩ := s
  cases levels <;> simp [ScopeChain.pushLocals, truncateLocals, localDepth, modifyCurrent, current,
    ScopeLevel.truncate, ScopeLevel.depth]

/-- Leaving a call, however its level has changed. -/
theorem SameCall.popLevel {s t : ScopeChain} {level : ScopeLevel}
    (h : (s.pushLevel level).SameCall t) :
    t.popLevel.2 = s ∧ t.popLevel.1 = some { level with inner := t.current.inner } := by
  obtain ⟨inner, rfl⟩ := h
  exact ⟨rfl, rfl⟩

end ScopeChain
namespace Machine

variable {m m' : Machine} {outer : List IterState} {k : Nat}

/-! ## Iterators that move on -/

/-- The machine with other iterators. -/
def withIterators (m : Machine) (iterators : List IterState) : Machine :=
  { m with context := { m.context with iterators } }

/-- The newest `k` iterators have moved on, and `own` are left on top of them. -/
def Advances (k : Nat) (own : List IterState) (m m' : Machine) : Prop :=
  ∃ moved, moved.map IterState.loop = (m.context.iterators.take k).map IterState.loop ∧
    (m.withIterators (moved ++ m.context.iterators.drop k)).Leaves own m'

/-- What a condition leaves of the machine that it is asked in. -/
def Asked {α : Type} (k : Nat) (m : Machine) : Run.Post α
  | .ok _, m' => m.Advances k [] m'
  | .error _, m' => ∃ own, m.Advances k own m'

theorem Leaves.advances {own : List IterState} (h : m.Leaves own m') (k : Nat) :
    m.Advances k own m' := by
  refine ⟨m.context.iterators.take k, rfl, ?_⟩
  rw [List.take_append_drop]
  exact h

theorem Left.asked {α : Type} {r : Except Fault α} (h : m.Left r m') (k : Nat) :
    m.Asked k r m' := by
  cases r with
  | ok _ => exact h.advances k
  | error _ =>
    obtain ⟨own, h⟩ := h
    exact ⟨own, h.advances k⟩

/-- The newest iterators are told apart from the rest by their number. -/
theorem take_drop_moved {moved iterators : List IterState}
    (h : moved.map IterState.loop = (iterators.take k).map IterState.loop) :
    (moved ++ iterators.drop k).take k = moved ∧
    (moved ++ iterators.drop k).drop k = iterators.drop k := by
  have length : moved.length = min k iterators.length := by simpa using congrArg List.length h
  rcases Nat.le_total k iterators.length with enough | short
  · have length : moved.length = k := by omega
    exact ⟨List.take_left' length, List.drop_left' length⟩
  · rw [List.drop_eq_nil_of_le short, List.append_nil]
    exact ⟨List.take_of_length_le (by omega), List.drop_eq_nil_of_le (by omega)⟩

theorem Advances.sound {own : List IterState} (h : m.Advances k own m') : m'.Sound := by
  obtain ⟨moved, -, left⟩ := h
  exact left.sound

theorem Advances.trans {m'' : Machine} {own : List IterState} (h : m.Advances k [] m')
    (h' : m'.Advances k own m'') :
    m.Advances k own m'' := by
  obtain ⟨moved, same, left⟩ := h
  obtain ⟨moved', same', left'⟩ := h'
  have iterators : m'.context.iterators = moved ++ m.context.iterators.drop k := left.iterators
  rw [iterators, (take_drop_moved same).1] at same'
  refine ⟨moved', same'.trans same, ?_⟩
  have after : m'.withIterators (moved' ++ m'.context.iterators.drop k) =
      m'.withIterators (moved' ++ m.context.iterators.drop k) := by
    rw [iterators, (take_drop_moved same).2]
  rw [after] at left'
  have grows : m'.Extends m'' := .around left'.grows rfl rfl
  exact ⟨left'.sound, .around (left.grows.trans grows) rfl rfl, left'.rigid.trans left.rigid,
    left'.stack.trans left.stack, left'.scope.trans left.scope, left'.iterators⟩

/-- The iterators of a machine whose newest ones have moved on. -/
theorem Advances.iterators {own extra : List IterState} (h : m.Advances k extra m')
    (hown : m.context.iterators = own ++ outer) (enough : k ≤ own.length) :
    ∃ own', own'.length = own.length ∧ m'.context.iterators = extra ++ own' ++ outer := by
  obtain ⟨moved, same, left⟩ := h
  have length := congrArg List.length same
  simp only [List.length_map, hown, List.length_take, List.length_append] at length
  refine ⟨moved ++ own.drop k, by simp; omega, ?_⟩
  have iterators : m'.context.iterators = extra ++ (moved ++ m.context.iterators.drop k) :=
    left.iterators
  rw [iterators, hown, List.drop_append_of_le_length enough]
  simp only [List.append_assoc]

theorem Asked.after {α : Type} {r : Except Fault α} {m'' : Machine} (h : m.Advances k [] m')
    (h' : m'.Asked k r m'') : m.Asked k r m'' := by
  cases r with
  | ok _ => exact h.trans h'
  | error _ =>
    obtain ⟨own, h'⟩ := h'
    exact ⟨own, h.trans h'⟩

end Machine

end CellScript
