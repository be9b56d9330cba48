import CellScript.Proofs.Machine.Stack

/-!
# Where the steps of a block are

While the steps of a block run, the stacks of the context are those of the machine that the block
was entered in with something on top. How much is on top of the frames and iterators is the shape
that the steps have come to.

## Main definitions

* `Machine.At` — the steps that began in a machine have come to a shape.
* `Machine.Torn` — a step has failed or thrown: frames and iterators may be left on top.

## Main statements

* `Run.Agrees.tidyThen`, `Run.Agrees.killThen`, `Run.agrees_push`, `Run.agrees_pop` — the rules for
  steps.
-/

namespace CellScript

namespace Machine

/-- The steps that began in `m₀` have come to `s`. The iterators of the context are those of `s`,
then `slack` more that belong to nobody, then `outer`. -/
structure At (m₀ : Machine) (outer : List IterState) (slack : Nat) (s : Shape)
    (m : Machine) : Prop where
  sound : m.Sound
  grows : m₀.Extends m
  rigid : m.context.rigid = m₀.context.rigid
  scope : m.context.scope = m₀.context.scope
  stack : ∃ top, top.length = s.frames + 1 ∧ m.context.stack = top ++ m₀.context.stack.tail
  iterators : ∃ own, own.length = slack + s.iterators ∧ m.context.iterators = own ++ outer

/-- A step after `m₀` has failed or thrown: whatever it had on top of the stacks may still be
there. -/
structure Torn (m₀ : Machine) (outer : List IterState) (slack : Nat) (m : Machine) : Prop where
  sound : m.Sound
  grows : m₀.Extends m
  rigid : m.context.rigid = m₀.context.rigid
  scope : m.context.scope = m₀.context.scope
  stack : ∃ top, top ≠ [] ∧ m.context.stack = top ++ m₀.context.stack.tail
  iterators : ∃ own, slack ≤ own.length ∧ m.context.iterators = own ++ outer

/-- Coming to a shape, or failing on the way. -/
def Comes {α : Type} (m₀ : Machine) (outer : List IterState) (slack : Nat) (s : Shape) : Run.Post α
  | .ok _, m => m₀.At outer slack s m
  | .error _, m => m₀.Torn outer slack m

variable {m₀ m m' : Machine} {outer : List IterState} {slack n k : Nat} {s t : Shape}

namespace At

/-- Where the steps begin. -/
theorem start {own : List IterState} (hm : m.Sound) (h : m.context.iterators = own ++ outer)
    (length : own.length = slack + k) : m.At outer slack ⟨0, k⟩ m where
  sound := hm
  grows := .refl m
  rigid := rfl
  scope := rfl
  stack := by
    obtain ⟨operands, h⟩ := m.context.stack_eq_cons
    exact ⟨[operands], rfl, h⟩
  iterators := ⟨own, length, h⟩

theorem torn (h : m₀.At outer slack s m) : m₀.Torn outer slack m where
  sound := h.sound
  grows := h.grows
  rigid := h.rigid
  scope := h.scope
  stack := by
    obtain ⟨top, length, eq⟩ := h.stack
    exact ⟨top, List.ne_nil_of_length_eq_add_one length, eq⟩
  iterators := by
    obtain ⟨own, length, eq⟩ := h.iterators
    exact ⟨own, by omega, eq⟩

theorem leaves (h : m₀.At outer slack s m) (h' : m.Leaves [] m') : m₀.At outer slack s m' where
  sound := h'.sound
  grows := h.grows.trans h'.grows
  rigid := h'.rigid.trans h.rigid
  scope := h'.scope.trans h.scope
  stack := by simpa only [h'.stack] using h.stack
  iterators := by simpa only [h'.iterators, List.nil_append] using h.iterators

theorem quiet (h : m₀.At outer slack s m) (h' : m.Quiet m') : m₀.At outer slack s m' :=
  h.leaves (h'.leaves h.sound)

/-- After a call. -/
theorem comes {α : Type} {r : Except Fault α} (h : m₀.At outer slack s m) (h' : m.Left r m') :
    m₀.Comes outer slack s r m' := by
  cases r with
  | ok a => exact h.leaves h'
  | error f =>
    obtain ⟨own, h'⟩ := h'
    have torn := h.torn
    refine ⟨h'.sound, h.grows.trans h'.grows, h'.rigid.trans h.rigid, h'.scope.trans h.scope,
      ?_, ?_⟩
    · simpa only [h'.stack] using torn.stack
    · obtain ⟨mine, enough, eq⟩ := torn.iterators
      exact ⟨own ++ mine, by simp; omega, by rw [h'.iterators, eq, List.append_assoc]⟩

/-- A change of the frames. -/
theorem onFrames (h : m₀.At outer slack s m) (f : Context → Context)
    (hf : (f m.context).rigid = m.context.rigid) (scope : (f m.context).scope = m.context.scope)
    (iterators : (f m.context).iterators = m.context.iterators)
    (stack : ∀ top rest, top.length = s.frames + 1 → m.context.stack = top ++ rest →
      ∃ top', top'.length = n + 1 ∧ (f m.context).stack = top' ++ rest) :
    m₀.At outer slack ⟨n, s.iterators⟩ { m with context := f m.context } where
  sound := h.sound.of_code rfl
  grows := h.grows.trans (.of_code rfl)
  rigid := hf.trans h.rigid
  scope := scope.trans h.scope
  stack := by
    obtain ⟨top, length, eq⟩ := h.stack
    exact stack top _ length eq
  iterators := by simpa only [iterators] using h.iterators

theorem modifyFrame (h : m₀.At outer slack s m) (f : List CellRef → List CellRef) :
    m₀.At outer slack s { m with context := m.context.modifyFrame f } := by
  refine h.onFrames (·.modifyFrame f) rfl rfl rfl fun top rest length eq =>
    ⟨top.modifyHead f, by simpa using length, ?_⟩
  cases top with
  | nil => simp at length
  | cons operands top => simp [eq]

theorem createFrame (h : m₀.At outer slack ⟨n, k⟩ m) :
    m₀.At outer slack ⟨n + 1, k⟩ { m with context := m.context.createFrame } :=
  h.onFrames (·.createFrame) rfl rfl rfl fun top rest length eq =>
    ⟨[] :: top, by simp [length], by simp [eq]⟩

theorem killFrame (h : m₀.At outer slack ⟨n + 1, k⟩ m) :
    m₀.At outer slack ⟨n, k⟩ { m with context := m.context.killFrame.2 } := by
  refine h.onFrames (·.killFrame.2) rfl rfl rfl fun top rest length eq =>
    ⟨top.tail, by simp [length], ?_⟩
  have length : top.length = n + 2 := length
  have deep : 1 < m.context.stack.length := by
    rw [eq, List.length_append]
    omega
  rw [Context.stack_killFrame _ deep, eq, List.tail_append_of_ne_nil]
  exact List.ne_nil_of_length_eq_add_one length

theorem pushIterator {it : IterState} (h : m₀.At outer slack s m) :
    m₀.At outer slack { s with iterators := s.iterators + 1 }
      { m with context := { m.context with iterators := it :: m.context.iterators } } := by
  obtain ⟨own, length, eq⟩ := h.iterators
  exact ⟨h.sound.of_code rfl, h.grows.trans (.of_code rfl), h.rigid, h.scope, h.stack, it :: own,
    by simp [length, Nat.add_assoc], by simp [eq]⟩

theorem popIterator (h : m₀.At outer slack s m) (positive : 0 < s.iterators) :
    m₀.At outer slack { s with iterators := s.iterators - 1 }
      { m with context := { m.context with iterators := m.context.iterators.tail } } := by
  obtain ⟨own, length, eq⟩ := h.iterators
  refine ⟨h.sound.of_code rfl, h.grows.trans (.of_code rfl), h.rigid, h.scope, h.stack,
    own.tail, ?_, ?_⟩
  · simp only [List.length_tail, length]
    omega
  · rw [← List.tail_append_of_ne_nil, ← eq]
    exact List.ne_nil_of_length_pos (by omega)

end At

/-- After a condition has been asked. -/
theorem At.asked {α : Type} {a : Except Fault α} (h : m₀.At outer slack s m)
    (h' : m.Asked s.iterators a m') :
    m₀.Comes outer slack s a m' := by
  obtain ⟨own, length, eq⟩ := h.iterators
  have enough : s.iterators ≤ own.length := by omega
  cases a with
  | ok a =>
    obtain ⟨own', length', eq'⟩ := Advances.iterators h' eq enough
    obtain ⟨moved, -, left⟩ := h'
    exact ⟨left.sound, h.grows.trans (.around left.grows rfl rfl), left.rigid.trans h.rigid,
      left.scope.trans h.scope, left.stack ▸ h.stack, own', by omega, by simpa using eq'⟩
  | error f =>
    obtain ⟨extra, h'⟩ := h'
    obtain ⟨own', length', eq'⟩ := Advances.iterators h' eq enough
    obtain ⟨moved, -, left⟩ := h'
    exact ⟨left.sound, h.grows.trans (.around left.grows rfl rfl), left.rigid.trans h.rigid,
      left.scope.trans h.scope, left.stack ▸ h.torn.stack, extra ++ own', by simp; omega, eq'⟩
end Machine

namespace Run

variable {α β : Type} {lax : Prop} {m₀ m : Machine} {outer : List IterState} {slack n k : Nat}
  {s t : Shape}

/-! ## Rules for steps -/

/-- A tidy computation between steps. -/
theorem Agrees.tidy {x y : Run α} {f g : α → Run β} [hx : Tidy lax x y] (h : m₀.At outer slack s m)
    {post : Post β} (ok : ∀ a m', m₀.At outer slack s m' → Agrees lax (f a) (g a) post m')
    (error : ∀ e m', m₀.Torn outer slack m' → post (.error e) m') :
    Agrees lax (x >>= f) (y >>= g) post m :=
  ((hx.agrees m h.sound).mono fun _ _ => h.comes).andThen ok error

/-- The same when the step may only come to a shape or fail. -/
theorem Agrees.tidyThen {x y : Run α} {f g : α → Run β} [Tidy lax x y] (h : m₀.At outer slack s m)
    (next : ∀ a m', m₀.At outer slack s m' → Agrees lax (f a) (g a) (m₀.Comes outer slack t) m') :
    Agrees lax (x >>= f) (y >>= g) (m₀.Comes outer slack t) m :=
  .tidy h next fun _ _ => id

/-- Taking the operands of a step. -/
theorem Agrees.killThen {f g : List CellRef → Run β} (h : m₀.At outer slack ⟨n + 1, k⟩ m)
    {post : Post β} (next : ∀ args m', m₀.At outer slack ⟨n, k⟩ m' →
      Agrees lax (f args) (g args) post m') :
    Agrees lax (Run.killFrame >>= f) (Run.killFrame >>= g) post m :=
  .bind (.killFrame (next _ _ h.killFrame))

theorem agrees_push {cell : CellRef} (h : m₀.At outer slack s m) :
    Agrees lax (push cell) (push cell) (m₀.Comes outer slack s) m :=
  .changeContext (h.modifyFrame _)

theorem agrees_pop (h : m₀.At outer slack s m) : Agrees lax pop pop (m₀.Comes outer slack s) m := by
  refine .bind (.inr ⟨rfl, ?_⟩)
  have popped : m₀.At outer slack s { m with context := m.context.pop.2 } := h.modifyFrame List.tail
  dsimp only
  generalize m.context.pop.1 = top
  cases top with
  | some cell =>
    change Agrees lax (pure cell) (pure cell) (m₀.Comes outer slack s) _
    exact .pure popped
  | none =>
    change Agrees lax (onHeap HeapM.null) (onHeap HeapM.null) (m₀.Comes outer slack s) _
    exact (Tidy.agrees _ popped.sound).mono fun _ _ => popped.comes

end Run

end CellScript
