import CellScript.Proofs.Machine.Steps

/-!
# How blocks and compound steps end

## Main definitions

* `Room` — how many iterators are on top of those of the surroundings at the end.
* `Machine.Ends` — a block or a compound step has ended.
* `Machine.Kept`, `Machine.Midway` — what is kept in the course of a compound step.

## Main statements

* `Machine.Ends.after` — a block or a step in the course of another one.
-/

namespace CellScript

namespace Flow

/-- Whether a block or step has ended for good. -/
def isFinal : Except Fault Flow → Bool
  | .ok flow => !flow.suspends
  | .error _ => true

/-- Whether a flow is one that a loop around takes notice of. -/
def isLocal : Except Fault Flow → Bool
  | .ok .normal | .ok .break | .ok .continue => true
  | _ => false

theorem isFinal_of_isLocal {r : Except Fault Flow} (h : isLocal r) : isFinal r := by
  match r, h with
  | .ok .normal, _ | .ok .break, _ | .ok .continue, _ => rfl

@[simp] theorem isFinal_through (r : Except Fault Flow) (branch : Nat) :
    isFinal (r.map (·.through branch)) = isFinal r := by
  match r with
  | .ok flow => cases flow <;> rfl
  | .error _ => rfl

end Flow

/-- How many iterators may be on top of those of the surroundings when a block or step has ended:
`slack` of them were there before and are nobody's, and up to `slips` are left behind by throws that
were caught inside. A suspension keeps those of the loops that are open as well. -/
def Room (opens? : Cursor → Option Nat) (slack slips : Nat) : Except Fault Flow → Nat → Prop
  | .ok (.yield _ cursor), n | .ok (.callcc _ cursor), n =>
    ∃ k, opens? cursor = some k ∧ slack + k ≤ n ∧ n ≤ slack + k + slips
  | .ok .normal, n | .ok .break, n | .ok .continue, n => slack ≤ n ∧ n ≤ slack + slips
  | .ok (.return _), n | .ok (.throw _), n | .error _, n => slack ≤ n

theorem Room.slack_le {opens? : Cursor → Option Nat} {slack slips n : Nat} {r : Except Fault Flow}
    (h : Room opens? slack slips r n) : slack ≤ n := by
  match r, h with
  | .ok (.yield _ _), ⟨_, _, h, _⟩ | .ok (.callcc _ _), ⟨_, _, h, _⟩ => omega
  | .ok .normal, h | .ok .break, h | .ok .continue, h => exact h.1
  | .ok (.return _), h | .ok (.throw _), h | .error _, h => exact h

/-- More may be left behind. -/
theorem Room.mono {opens? : Cursor → Option Nat} {slack slips slack' slips' n : Nat}
    {r : Except Fault Flow} (h : Room opens? slack' slips' r n) (lower : slack ≤ slack')
    (upper : slack' + slips' ≤ slack + slips) :
    Room opens? slack slips r n := by
  match r, h with
  | .ok (.yield _ _), ⟨k, hk, h, h'⟩ | .ok (.callcc _ _), ⟨k, hk, h, h'⟩ =>
    exact ⟨k, hk, by omega, by omega⟩
  | .ok .normal, h | .ok .break, h | .ok .continue, h =>
    exact ⟨Nat.le_trans lower h.1, Nat.le_trans h.2 upper⟩
  | .ok (.return _), h | .ok (.throw _), h | .error _, h => exact Nat.le_trans lower h

/-- A block that ends for good may cut the iterators back. -/
theorem Room.cut {opens? : Cursor → Option Nat} {slack slips n n' : Nat} {r : Except Fault Flow}
    (h : Room opens? slack slips r n) (final : Flow.isFinal r) (less : n' ≤ n)
    (enough : slack ≤ n') :
    Room opens? slack slips r n' := by
  match r, h, final with
  | .ok .normal, h, _ | .ok .break, h, _ | .ok .continue, h, _ =>
    exact ⟨enough, Nat.le_trans less h.2⟩
  | .ok (.return _), _, _ | .ok (.throw _), _, _ | .error _, _, _ => exact enough

/-- The loops that are open around a step are among what is open in its block. -/
theorem Room.shift {opens? : Cursor → Option Nat} {slack slips j n : Nat} {r : Except Fault Flow}
    (h : Room opens? (slack + j) slips r n) (outside : Flow.isLocal r → j = 0) :
    Room (fun c => (opens? c).map (j + ·)) slack slips r n := by
  match r, h with
  | .ok (.yield _ _), ⟨k, hk, h, h'⟩ | .ok (.callcc _ _), ⟨k, hk, h, h'⟩ =>
    exact ⟨j + k, by simp [hk], by omega, by omega⟩
  | .ok .normal, h | .ok .break, h | .ok .continue, h =>
    obtain rfl := outside rfl
    exact h
  | .ok (.return _), h | .ok (.throw _), h | .error _, h =>
    exact Nat.le_trans (Nat.le_add_right slack j) h

/-- The same seen from an instruction that the block is a branch of. -/
theorem Room.through {i : Instruction} {branch : Nat} {b : Block} {slack slips n : Nat}
    {r : Except Fault Flow} (h : Room (b.opens? ·) slack slips r n)
    (hb : i.branch? branch = some b) :
    Room (i.opens? ·) slack slips (r.map (·.through branch)) n := by
  match r, h with
  | .ok (.yield _ _), ⟨k, hk, h⟩ | .ok (.callcc _ _), ⟨k, hk, h⟩ =>
    exact ⟨k, by simpa [Instruction.opens?, hb] using hk, h⟩
  | .ok .normal, h | .ok .break, h | .ok .continue, h => exact h
  | .ok (.return _), h | .ok (.throw _), h | .error _, h => exact h

namespace Machine

/-- A block or step that began in `m` has ended. Frames that it has not taken away may be left. -/
structure Ends (m : Machine) (outer : List IterState) (slack slips : Nat)
    (opens? : Cursor → Option Nat) (fresh : Prop) (r : Except Fault Flow)
    (m' : Machine) : Prop where
  sound : m'.Sound
  grows : m.Extends m'
  rigid : m'.context.rigid = m.context.rigid
  scope : m.context.scope.SameCall m'.context.scope
  /-- what did not begin in the middle leaves catch scopes only where it is suspended in a
  handler -/
  locals : fresh → ∃ more, m'.context.scope = m.context.scope.pushLocals more ∧
    (Flow.isFinal r → more = [])
  stack : ∃ top, top ≠ [] ∧ m'.context.stack = top ++ m.context.stack.tail
  iterators : ∃ own, Room opens? slack slips r own.length ∧ m'.context.iterators = own ++ outer

/-- No frame is left on top of those that were there. -/
def Level (m m' : Machine) : Prop :=
  m'.context.stack.tail = m.context.stack.tail

variable {m₀ m m' : Machine} {outer : List IterState} {slack slips slack' n k : Nat} {s t : Shape}
  {opens? opens' : Cursor → Option Nat} {fresh : Prop} {r : Except Fault Flow}

theorem Level.top (h : m.Level m') :
    ∃ top, top.length = 0 + 1 ∧ m'.context.stack = top ++ m.context.stack.tail := by
  obtain ⟨operands, eq⟩ := m'.context.stack_eq_cons
  exact ⟨[operands], rfl, eq.trans (by rw [h]; rfl)⟩

theorem Level.stack (h : m.Level m') :
    ∃ top, top ≠ [] ∧ m'.context.stack = top ++ m.context.stack.tail := by
  obtain ⟨top, length, eq⟩ := h.top
  exact ⟨top, List.ne_nil_of_length_eq_add_one length, eq⟩

theorem Level.frameDepth (h : m.Level m') : m'.context.frameDepth = m.context.frameDepth := by
  have same := congrArg List.length h
  simp only [List.length_tail, Context.stack_length, Context.frameDepth] at same ⊢
  omega

theorem Level.modifyFrame (h : m.Level m') (f : List CellRef → List CellRef) :
    m.Level { m' with context := m'.context.modifyFrame f } := by
  have tail : (m'.context.stack.modifyHead f).tail = m'.context.stack.tail := by
    cases m'.context.stack <;> rfl
  exact ((congrArg List.tail (m'.context.stack_modifyFrame f)).trans tail).trans h

theorem At.level (h : m₀.At outer slack ⟨0, k⟩ m) : m₀.Level m := by
  obtain ⟨top, length, eq⟩ := h.stack
  obtain ⟨operands, rfl⟩ := List.length_eq_one_iff.mp length
  rw [Level, eq, List.cons_append, List.tail_cons, List.nil_append]

/-- The steps have come to their end. -/
theorem At.ends (h : m₀.At outer slack .flat m) :
    m₀.Ends outer slack slips opens? fresh (.ok .normal) m where
  sound := h.sound
  grows := h.grows
  rigid := h.rigid
  scope := h.scope ▸ .refl _
  locals _ := ⟨[], by simp [h.scope], fun _ => rfl⟩
  stack := h.torn.stack
  iterators := by
    obtain ⟨own, length, eq⟩ := h.iterators
    exact ⟨own, ⟨by simp [length], by simp [length, Shape.flat]⟩, eq⟩

/-- What steps and blocks keep of the machine that they began in, apart from operands and
iterators. -/
structure Kept (fresh : Prop) (m m' : Machine) : Prop where
  sound : m'.Sound
  grows : m.Extends m'
  rigid : m'.context.rigid = m.context.rigid
  scope : m.context.scope.SameCall m'.context.scope
  same : fresh → m'.context.scope = m.context.scope
  level : m.Level m'

/-- A failure or a throw of a step, or a return. -/
theorem Torn.ends (h : m₀.Torn outer slack m)
    (room : ∀ n, slack ≤ n → Room opens? slack slips r n) :
    m₀.Ends outer slack slips opens? fresh r m where
  sound := h.sound
  grows := h.grows
  rigid := h.rigid
  scope := h.scope ▸ .refl _
  locals _ := ⟨[], by simp [h.scope], fun _ => rfl⟩
  stack := h.stack
  iterators := by
    obtain ⟨own, enough, eq⟩ := h.iterators
    exact ⟨own, room _ enough, eq⟩

/-! ## What is kept -/

namespace Kept

theorem refl (hm : m.Sound) : m.Kept fresh m :=
  ⟨hm, .refl m, rfl, .refl _, fun _ => rfl, rfl⟩

theorem trans {m'' : Machine} (h : m.Kept fresh m') (h' : m'.Kept fresh m'') :
    m.Kept fresh m'' where
  sound := h'.sound
  grows := h.grows.trans h'.grows
  rigid := h'.rigid.trans h.rigid
  scope := h.scope.trans h'.scope
  same fr := (h'.same fr).trans (h.same fr)
  level := h'.level.trans h.level

/-- What began in the middle of something need not keep its catch scopes. -/
theorem resumed (h : m.Kept fresh m') : m.Kept False m' :=
  ⟨h.sound, h.grows, h.rigid, h.scope, nofun, h.level⟩

theorem of_leaves {own : List IterState} (h : m.Leaves own m') : m.Kept fresh m' where
  sound := h.sound
  grows := h.grows
  rigid := h.rigid
  scope := h.scope ▸ .refl _
  same _ := h.scope
  level := congrArg List.tail h.stack

theorem of_advances {own : List IterState} (h : m.Advances k own m') : m.Kept fresh m' := by
  obtain ⟨moved, -, left⟩ := h
  exact ⟨left.sound, .around left.grows rfl rfl, left.rigid, left.scope ▸ .refl _,
    fun _ => left.scope, congrArg List.tail left.stack⟩

/-- Changing the operands of the current frame. -/
theorem modifyFrame (h : m.Kept fresh m') (f : List CellRef → List CellRef) :
    m.Kept fresh { m' with context := m'.context.modifyFrame f } where
  sound := h.sound.of_code rfl
  grows := h.grows.trans (.of_code rfl)
  rigid := h.rigid
  scope := h.scope
  same := h.same
  level := h.level.modifyFrame f

end Kept

/-- Between steps, outside of all frames. -/
theorem At.kept (h : m₀.At outer slack ⟨0, k⟩ m) : m₀.Kept fresh m :=
  ⟨h.sound, h.grows, h.rigid, h.scope ▸ .refl _, fun _ => h.scope, h.level⟩

/-- A block that has ended for good. -/
theorem Ends.kept (h : m.Ends outer slack slips opens? fresh r m') (level : m.Level m')
    (final : Flow.isFinal r) :
    m.Kept fresh m' where
  sound := h.sound
  grows := h.grows
  rigid := h.rigid
  scope := h.scope
  same fr := by
    obtain ⟨more, scope, none⟩ := h.locals fr
    rw [scope, none final, ScopeChain.pushLocals_nil]
  level := level

/-- An instruction that began in `m` is in its course: it can go on where `k` iterators are open,
`e` of which a throw may leave behind. -/
structure Midway (m : Machine) (outer : List IterState) (slack slips : Nat) (fresh : Prop)
    (k e : Nat) (m' : Machine) : Prop where
  kept : m.Kept fresh m'
  iterators : ∃ own slack', own.length = slack' + k ∧ slack ≤ slack' ∧ slack' + e ≤ slack + slips ∧
    m'.context.iterators = own ++ outer

/-- A block or a step in the course of another one. -/
theorem Ends.after {fresh' : Prop} {r' : Except Fault Flow} {slips' : Nat} {m'' : Machine}
    (h : m.Kept fresh m') (h' : m'.Ends outer slack' slips' opens' fresh' r m'')
    (began : fresh → fresh') (final : Flow.isFinal r' → Flow.isFinal r)
    (room : ∀ n, Room opens' slack' slips' r n → Room opens? slack slips r' n) :
    m.Ends outer slack slips opens? fresh r' m'' where
  sound := h'.sound
  grows := h.grows.trans h'.grows
  rigid := h'.rigid.trans h.rigid
  scope := h.scope.trans h'.scope
  locals fr := by
    obtain ⟨more, scope, none⟩ := h'.locals (began fr)
    exact ⟨more, by rw [scope, h.same fr], fun fin => none (final fin)⟩
  stack := by
    obtain ⟨top, ne, eq⟩ := h'.stack
    exact ⟨top, ne, by rw [eq, h.level]⟩
  iterators := by
    obtain ⟨own, enough, eq⟩ := h'.iterators
    exact ⟨own, room _ enough, eq⟩

theorem Ends.modifyFrame (h : m.Ends outer slack slips opens? fresh r m')
    (f : List CellRef → List CellRef) :
    m.Ends outer slack slips opens? fresh r { m' with context := m'.context.modifyFrame f } where
  sound := h.sound.of_code rfl
  grows := h.grows.trans (.of_code rfl)
  rigid := h.rigid
  scope := h.scope
  locals := h.locals
  stack := by
    obtain ⟨top, ne, eq⟩ := h.stack
    obtain ⟨operands, top, rfl⟩ := List.exists_cons_of_ne_nil ne
    exact ⟨f operands :: top, List.cons_ne_nil _ _, by simp [eq]⟩
  iterators := h.iterators

theorem Ends.quiet {m'' : Machine} (h : m.Ends outer slack slips opens? fresh r m')
    (h' : m'.Quiet m'') :
    m.Ends outer slack slips opens? fresh r m'' where
  sound := h.sound.of_code h'.code
  grows := h.grows.trans (.of_code h'.code)
  rigid := h'.rigid.trans h.rigid
  scope := h'.scope ▸ h.scope
  locals := h'.scope ▸ h.locals
  stack := h'.stack ▸ h.stack
  iterators := h'.iterators ▸ h.iterators

/-- The same end, seen as another one. -/
theorem Ends.relabel {r' : Except Fault Flow} {slips' : Nat}
    (h : m.Ends outer slack' slips' opens' fresh r m') (final : Flow.isFinal r' → Flow.isFinal r)
    (room : ∀ n, Room opens' slack' slips' r n → Room opens? slack slips r' n) :
    m.Ends outer slack slips opens? fresh r' m' where
  sound := h.sound
  grows := h.grows
  rigid := h.rigid
  scope := h.scope
  locals fr := by
    obtain ⟨more, scope, none⟩ := h.locals fr
    exact ⟨more, scope, fun fin => none (final fin)⟩
  stack := h.stack
  iterators := by
    obtain ⟨own, enough, eq⟩ := h.iterators
    exact ⟨own, room _ enough, eq⟩

/-- Ending normally is all that a loop around needs to know, and it is at most what has been left
behind. -/
theorem Ends.midway (h : m.Ends outer slack slips opens? fresh r m') (level : m.Level m')
    (here : Flow.isLocal r) :
    m.Midway outer slack slips fresh 0 0 m' where
  kept := h.kept level (Flow.isFinal_of_isLocal here)
  iterators := by
    obtain ⟨own, room, eq⟩ := h.iterators
    match r, room, here with
    | .ok .normal, room, _ | .ok .break, room, _ | .ok .continue, room, _ =>
      exact ⟨own, own.length, rfl, room.1, room.2, eq⟩

namespace Midway

variable {e : Nat} {outer : List IterState}

/-- Where an instruction begins or goes on. -/
theorem start {own : List IterState} (hm : m.Sound) (h : m.context.iterators = own ++ outer)
    (length : own.length = slack + k) (enough : e ≤ slips) :
    m.Midway outer slack slips fresh k e m :=
  ⟨.refl hm, own, slack, length, Nat.le_refl _, Nat.add_le_add_left enough slack, h⟩

theorem leaves (h : m.Midway outer slack slips fresh k e m') {m'' : Machine}
    (h' : m'.Leaves [] m'') :
    m.Midway outer slack slips fresh k e m'' where
  kept := h.kept.trans (.of_leaves h')
  iterators := by simpa only [h'.iterators, List.nil_append] using h.iterators

theorem quiet (h : m.Midway outer slack slips fresh k e m') {m'' : Machine} (h' : m'.Quiet m'') :
    m.Midway outer slack slips fresh k e m'' :=
  h.leaves (h'.leaves h.kept.sound)

theorem modifyFrame (h : m.Midway outer slack slips fresh k e m')
    (f : List CellRef → List CellRef) :
    m.Midway outer slack slips fresh k e { m' with context := m'.context.modifyFrame f } :=
  ⟨h.kept.modifyFrame f, h.iterators⟩

/-- After a condition has been asked, which moves no more iterators than the instruction may
touch. -/
theorem advances {j : Nat} (h : m.Midway outer slack slips fresh 0 0 m') {m'' : Machine}
    (h' : m'.Advances j [] m'') (open_ : j ≤ slack) : m.Midway outer slack slips fresh 0 0 m'' where
  kept := h.kept.trans (.of_advances h')
  iterators := by
    obtain ⟨own, slack', length, lower, upper, eq⟩ := h.iterators
    obtain ⟨own', length', eq'⟩ := h'.iterators eq (by omega)
    exact ⟨own', slack', by omega, lower, upper, by simpa using eq'⟩

/-- A condition has failed. -/
theorem failed {j : Nat} (h : m.Midway outer slack slips fresh 0 0 m') {m'' : Machine} {f : Fault}
    (h' : m'.Asked j (.error f : Except Fault Bool) m'') (open_ : j ≤ slack) :
    m.Ends outer slack slips opens? fresh (.error f) m'' ∧ m.Level m'' := by
  obtain ⟨extra, h'⟩ := h'
  have kept : m.Kept fresh m'' := h.kept.trans (.of_advances h')
  obtain ⟨own, slack', length, lower, upper, eq⟩ := h.iterators
  obtain ⟨own', length', eq'⟩ := h'.iterators eq (by omega)
  exact ⟨⟨kept.sound, kept.grows, kept.rigid, kept.scope,
    fun fr => ⟨[], by simp [kept.same fr], fun _ => rfl⟩, kept.level.stack, extra ++ own',
    Nat.le_trans lower (by simp; omega), eq'⟩, kept.level⟩

/-- The instruction ends normally here. -/
theorem ends (h : m.Midway outer slack slips fresh 0 0 m') :
    m.Ends outer slack slips opens? fresh (.ok .normal) m' where
  sound := h.kept.sound
  grows := h.kept.grows
  rigid := h.kept.rigid
  scope := h.kept.scope
  locals fr := ⟨[], by simp [h.kept.same fr], fun _ => rfl⟩
  stack := h.kept.level.stack
  iterators := by
    obtain ⟨own, slack', length, lower, upper, eq⟩ := h.iterators
    exact ⟨own, ⟨by omega, by omega⟩, eq⟩

end Midway

end Machine

end CellScript
