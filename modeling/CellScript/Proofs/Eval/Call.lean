import CellScript.Proofs.Library.Operation
import CellScript.Proofs.Machine.Ended
import CellScript.Proofs.Eval.Plain

/-!
# Calls are tidy

Two evaluators agree when they do the same from every sound machine and what they do keeps the
stacks in order. The parts of the evaluator are about the evaluator that they call back, so that
agreement goes from one depth of the recursion to the next. A call leaves the context as it was:
whatever the body of a closure or an inline block has installed is taken back, and where a closure
was suspended its iterators go with it.

## Main definitions

* `Block.Ended` — how a block ends.
* `Reentry.Agree` — evaluators that agree on blocks and calls.

## Main statements

* `Block.Ended.fresh` — a block that began at its start and has ended for good leaves the stacks as
  they were.
* `agrees_runBody` — the body of a closure.
* `agrees_dispatch` — a call with its bookkeeping.
* Instances of `Run.Tidy` for `Eval.callFunction`, `Eval.invoke` and `Eval.callValue`.
-/

namespace CellScript

/-! ## Evaluators that agree -/

/-- The number of `foreach` loops that are open where a block goes on. -/
def Block.opensAt? (b : Block) : Option Cursor → Option Nat
  | none => some 0
  | some cursor => b.opens? cursor

/-- The number of them that a throw can leave open. -/
def Block.slipsAt (b : Block) : Option Cursor → Nat
  | none => 0
  | some cursor => b.slips cursor

theorem Block.slipsAt_le {b : Block} {resume : Option Cursor} {k : Nat}
    (h : b.opensAt? resume = some k) :
    b.slipsAt resume ≤ k := by
  cases resume with
  | none => exact Nat.zero_le k
  | some cursor => exact Block.slips_le cursor b h

/-- Whether a flow is one that an expression may end with. -/
def Flow.isPlain : Except Fault Flow → Bool
  | .ok .normal | .ok (.throw _) | .error _ => true
  | _ => false

/-- How a block ends that went on in `m` at a position, or began at its start. -/
structure Block.Ended (b : Block) (resume : Option Cursor) (m : Machine) (outer : List IterState)
    (slack : Nat) (r : Except Fault Flow) (m' : Machine) : Prop where
  ends : m.Ends outer slack (b.slipsAt resume) (b.opens? ·) (resume = none) r m'
  level : m.Level m'
  cut : Flow.isFinal r → m'.context.iterators.length ≤ m.context.iterators.length
  plain : b.hasOperandsOnly → Flow.isPlain r

/-- Two evaluators agree: on calls, which are tidy, and on blocks, which end as they should. -/
class Reentry.Agree (lax : Prop) (s s' : Reentry) : Prop extends Reentry.TidyCalls lax s s' where
  rounds : s.rounds = s'.rounds ∨ lax ∧ s.rounds ≤ s'.rounds
  block : ∀ {b : Block} {resume : Option Cursor} {m : Machine} {outer own : List IterState}
    {slack k : Nat}, b.isBalanced → b.opensAt? resume = some k → m.Sound →
    m.context.iterators = own ++ outer → own.length = slack + k →
    Run.Agrees lax (s.block b resume) (s'.block b resume) (b.Ended resume m outer slack) m

section Ends

variable {lax : Prop} {s s' : Reentry} {b : Block} {m m' : Machine} {r : Except Fault Flow}

/-- What a block leaves that began at its start and has ended for good. -/
theorem Block.Ended.fresh (h : b.Ended none m m.context.iterators 0 r m') (final : Flow.isFinal r) :
    m'.context.scope = m.context.scope ∧ m'.context.iterators = m.context.iterators := by
  obtain ⟨more, scope, none⟩ := h.ends.locals rfl
  obtain ⟨own, -, iterators⟩ := h.ends.iterators
  refine ⟨by rw [scope, none final, ScopeChain.pushLocals_nil], ?_⟩
  have short := h.cut final
  rw [iterators, List.length_append] at short
  rw [iterators, List.length_eq_zero_iff.mp (by omega : own.length = 0), List.nil_append]

/-- A block from its start. -/
theorem Reentry.Agree.fresh [Reentry.Agree lax s s'] (hb : b.isBalanced) (hm : m.Sound) :
    Run.Agrees lax (s.block b none) (s'.block b none) (b.Ended none m m.context.iterators 0) m :=
  @block _ _ _ _ _ _ _ _ [] _ _ hb rfl hm rfl rfl

end Ends

namespace Eval

open Run (Tidy Agrees)

variable {lax : Prop} {s s' : Reentry} {m : Machine}

/-! ## Bookkeeping -/

instance : Tidy lax (Run.changeMachine fun m => { m with activeCalls := m.activeCalls + 1 })
    (Run.changeMachine fun m => { m with activeCalls := m.activeCalls + 1 }) :=
  .of_quiet fun _ => ⟨rfl, rfl, rfl, rfl, rfl⟩

instance : Tidy lax (Run.changeMachine fun m => { m with activeCalls := m.activeCalls - 1 })
    (Run.changeMachine fun m => { m with activeCalls := m.activeCalls - 1 }) :=
  .of_quiet fun _ => ⟨rfl, rfl, rfl, rfl, rfl⟩

instance (name : String) (source : Option String) (line : UInt32) :
    Tidy lax (Run.changeOwnScript
      fun s => { s with profiler := s.profiler.record name source line 0 })
      (Run.changeOwnScript fun s => { s with profiler := s.profiler.record name source line 0 }) :=
  .changeOwnScript fun _ => ⟨rfl, rfl⟩

instance (message : String) (line : UInt32) :
    Tidy lax (Run.report message line true) (Run.report message line true) :=
  .of_quiet fun _ => ⟨rfl, rfl, rfl, rfl, rfl⟩

/-- Computations that leave the context as it was but for iterators on top, and fail. -/
class Failing {α : Type} (lax : Prop) (x y : Run α) : Prop where
  agrees : ∀ m : Machine, m.Sound →
    Agrees lax x y (fun r m' => (∃ f, r = .error f) ∧ ∃ own, m.Leaves own m') m

instance {α : Type} (f : Fault) : Failing lax (Run.fail f : Run α) (Run.fail f) :=
  ⟨fun _ hm => .fail ⟨⟨f, rfl⟩, [], .refl hm⟩⟩

instance {α : Type} (f : Fault) :
    Failing lax (Run.settle (.error f) : Run α) (Run.settle (.error f)) :=
  inferInstanceAs (Failing lax (Run.fail f) (Run.fail f))

instance {α β : Type} (x y : Run α) (f g : α → Run β) [hx : Tidy lax x y]
    [hf : ∀ a, Failing lax (f a) (g a)] :
    Failing lax (x >>= f) (y >>= g) where
  agrees m hm := by
    refine .andThen (hx.agrees m hm) (fun a m' h => ?_) fun e m' h => ⟨⟨e, rfl⟩, h⟩
    refine ((hf a).agrees m' h.sound).mono fun r m'' ⟨failed, own, h'⟩ => ⟨failed, own, ?_⟩
    simpa using h.trans h'

instance {α : Type} (c : Prop) [Decidable c] (x y x' y' : Run α) [Failing lax x y]
    [Failing lax x' y'] :
    Failing lax (if c then x else x') (if c then y else y') := by
  split <;> infer_instance

/-- What goes on to fail when a call has failed. -/
theorem agrees_failing {α : Type} {x y : Run α} [hx : Failing lax x y] {m m' : Machine}
    (h : ∃ own, m.Leaves own m') : Agrees lax x y m.Left m' := by
  obtain ⟨own, h⟩ := h
  refine (hx.agrees m' h.sound).mono ?_
  rintro _ m'' ⟨⟨f, rfl⟩, own', h'⟩
  exact ⟨own' ++ own, h.trans h'⟩

/-- A tidy computation when a call has failed. -/
theorem agrees_spoilt {α β : Type} {x y : Run α} {f g : α → Run β} [hx : Tidy lax x y]
    {m m' : Machine} (h : ∃ own, m.Leaves own m')
    (next : ∀ a m'', (∃ own, m.Leaves own m'') → Agrees lax (f a) (g a) m.Left m'') :
    Agrees lax (x >>= f) (y >>= g) m.Left m' := by
  obtain ⟨own, h⟩ := h
  refine .andThen (hx.agrees m' h.sound)
    (fun a m'' h' => next a m'' ⟨own, by simpa using h.trans h'⟩) ?_
  rintro e m'' ⟨own', h'⟩
  exact ⟨own' ++ own, h.trans h'⟩

instance (frame : StackFrame) :
    Tidy lax (Run.changeContext (·.recordFrame frame)) (Run.changeContext (·.recordFrame frame)) :=
  .of_quiet fun _ => ⟨rfl, rfl, rfl, rfl, rfl⟩

/-- Cutting the frames back to as many as there are, on the way to a fault. -/
theorem agrees_cutBack {α : Type} {x y : Run α} [Failing lax x y] {m m' : Machine}
    (h : ∃ own, m.Leaves own m') :
    Agrees lax (Run.changeContext (·.truncateFrames m.context.frameDepth) >>= fun _ => x)
      (Run.changeContext (·.truncateFrames m.context.frameDepth) >>= fun _ => y) m.Left m' := by
  obtain ⟨own, h⟩ := h
  refine .bind
    (.changeContext
      (agrees_failing ⟨own, h.sound.of_code rfl, h.grows.trans (.of_code rfl), h.rigid, ?_,
    h.scope, h.iterators⟩))
  rw [← m.context.stack_length, Context.stack_truncateFrames _ (by simp [Context.frameDepth]),
    h.stack]
  simp [truncateStack]

/-- What is done at the end of a call, when the call has left the frames of the context. -/
theorem agrees_conclude (name : String) (described : Option String) (result : Except Fault CellRef)
    {m m' : Machine} (h : m.Left result m') :
    Agrees lax (conclude name m.context described result) (conclude name m.context described result)
      m.Left m' := by
  cases result with
  | ok value =>
    have tidy :
        Tidy lax (conclude name m.context described (.ok value))
          (conclude name m.context described (.ok value)) := by
      unfold conclude
      cases described <;>
      · dsimp only
        refine .andThen fun _ => ?_
        split <;> infer_instance
    exact (tidy.agrees m' h.sound).mono fun _ _ => .after h
  | error f =>
    unfold conclude
    cases described <;> dsimp only
    all_goals
      refine agrees_spoilt h fun _ m₁ h₁ => ?_
      split
      · exact agrees_spoilt h₁ fun _ _ h₂ => agrees_cutBack h₂
      · exact agrees_cutBack h₁

/-- A call of what is tidy from the machine that the call is made in. -/
theorem agrees_dispatch (name : String) (args : List CellRef) {x y : Run CellRef} (hm : m.Sound)
    (h : ∀ m' : Machine, m.Quiet m' → Agrees lax x y m'.Left m') :
    Agrees lax (dispatch name args x) (dispatch name args y) m.Left m := by
  refine .bind (.askContext (.bind (.ask ?_)))
  dsimp only
  split
  · exact .bind (.fail ⟨[], .refl hm⟩)
  · have counted : m.Quiet { m with activeCalls := m.activeCalls + 1 } := ⟨rfl, rfl, rfl, rfl, rfl⟩
    have made : ∀ described, Agrees lax
        (do
          Run.changeMachine fun m => { m with activeCalls := m.activeCalls + 1 }
          conclude name m.context described (← Run.attempt x))
        (do
          Run.changeMachine fun m => { m with activeCalls := m.activeCalls + 1 }
          conclude name m.context described (← Run.attempt y)) m.Left m := fun described =>
      .bind (.changeMachine (.attemptThen (h _ counted) fun r m' h' =>
        agrees_conclude name described r (.after (counted.leaves hm) h')))
    split
    · exact .bind (.askHeap (made _))
    · exact made none

/-! ## Closures -/

/-- What a body begins with: a position in it, and enough iterators to go on there. -/
def Enters (m : Machine) (c : Closure) : Run.Post (ScopeLevel × Option Cursor × List IterState)
  | .ok (_, cursor, iterators), m' =>
    m.Leaves [] m' ∧ ∃ k, c.body.opensAt? cursor = some k ∧ k ≤ iterators.length
  | .error _, m' => ∃ own, m.Leaves own m'

theorem agrees_entryOf (f : FunctionRef) {c : Closure} (hm : m.Sound) (hc : c.Sound) :
    Agrees lax (entryOf f c) (entryOf f c) (Enters m c) m := by
  refine .bind (.changeHeap ?_)
  have cleared : m.Leaves [] { m with heap := m.heap.setSuspension f none } :=
    ⟨hm.setSuspension f none fun c' hc' => ⟨(hm.closures f c' hc').body, fun _ => nofun⟩,
      .setSuspension m f none, rfl, rfl, rfl, rfl⟩
  dsimp only
  split
  · rename_i cursor level iterators suspended
    exact .pure ⟨cleared, hc.suspension _ suspended⟩
  · refine .andThen (Tidy.agrees _ cleared.sound) (fun vars m' h => ?_) fun e m' h => ?_
    · exact .pure ⟨cleared.trans h, 0, rfl, Nat.le_refl 0⟩
    · obtain ⟨own, h⟩ := h
      exact ⟨own, by simpa using cleared.trans h⟩

/-- Back from a body: what is not the caller's is the level and the iterators of the body. -/
theorem leaves_leave {b : Block} {resume : Option Cursor} {source : Option String}
    {level : ScopeLevel} {entered : List IterState} {r : Except Fault Flow} {slack : Nat}
    {m m' : Machine}
    (ended : b.Ended resume { m with context := enter source level entered m.context }
      m.context.iterators slack r m') :
    ∃ own, Room (b.opens? ·) slack (b.slipsAt resume) r own.length ∧
      m.Leaves own { m' with context := (leave source m'.context).2 } := by
  have h := ended.ends
  obtain ⟨own, room, iterators⟩ := h.iterators
  have sources := Context.sources_of_rigid h.rigid
  have stack : m'.context.stack.tail = m.context.stack := ended.level
  refine ⟨own, room, h.sound.of_code rfl, ?_, ?_, ?_, h.scope.popLevel.1, iterators⟩
  · exact .around h.grows rfl rfl
  · have rigid : m'.context.rigid = _ := h.rigid
    simp only [Context.rigid, Prod.mk.injEq] at rigid ⊢
    exact ⟨rigid.1, rigid.2.1, by
      simp [leave, Context.killFrame, sources, enter, Context.createFrame], rigid.2.2.2⟩
  · exact Context.stack_killFrame_of_tail (d := m.context) stack

/-- Suspending a closure whose iterators are on top of those of the caller. -/
theorem agrees_suspend {f : FunctionRef} {c : Closure} {cursor : Cursor} {level : Option ScopeLevel}
    {own : List IterState} {k : Nat} {m m' : Machine} (hc : m.Has f c)
    (h : m.Leaves own m') (hk : c.body.opens? cursor = some k) (enough : k ≤ own.length) :
    Agrees lax (suspend f cursor level m.context.iterators.length)
      (suspend f cursor level m.context.iterators.length) (fun _ m' => m.Leaves [] m') m' := by
  refine .bind (.askContext (.bind (.changeContext (.changeHeap ?_))))
  obtain ⟨s, hs⟩ := h.grows.has hc
  simp only [id, h.iterators, List.length_append, Nat.add_sub_cancel, List.take_left,
    List.drop_left]
  have kept : m.Extends { m' with heap := m'.heap.setSuspension f (some ⟨cursor, level, own⟩) } :=
    h.grows.trans (.setSuspension m' f _)
  have sound :
      ({ m' with heap := m'.heap.setSuspension f (some ⟨cursor, level, own⟩) } :
        Machine).Sound := by
    refine h.sound.setSuspension f _ fun c' hc' =>
      ⟨(h.sound.closures f c' hc').body, fun _ same => ?_⟩
    obtain rfl : _ = c' := Option.some_inj.mp (hs.symm.trans hc')
    obtain rfl := Option.some_inj.mp same
    exact ⟨k, hk, enough⟩
  exact ⟨sound.of_code rfl, kept.trans (.of_code rfl), h.rigid, h.stack, h.scope, rfl⟩

/-- A tidy computation where nothing has changed so far. -/
theorem agrees_unchanged {α β : Type} {x y : Run α} {f g : α → Run β} [hx : Tidy lax x y]
    {m m' : Machine} (h : m.Leaves [] m')
    (next : ∀ a m'', m.Leaves [] m'' → Agrees lax (f a) (g a) m.Left m'') :
    Agrees lax (x >>= f) (y >>= g) m.Left m' := by
  refine .andThen (hx.agrees m' h.sound) (fun a m'' h' => next a m'' (h.trans h')) ?_
  rintro e m'' ⟨own, h'⟩
  exact ⟨own, by simpa using h.trans h'⟩

/-- Dropping the iterators that a body has left. -/
theorem leaves_dropIterators {own : List IterState} {m m' : Machine} (h : m.Leaves own m') :
    m.Leaves [] { m' with
      context := { m'.context with
        iterators := truncateStack m'.context.iterators m.context.iterators.length } } where
  sound := h.sound.of_code rfl
  grows := h.grows.trans (.of_code rfl)
  rigid := h.rigid
  stack := h.stack
  scope := h.scope
  iterators := by simp only [h.iterators, truncateStack_append, List.nil_append]

/-- The body of a closure leaves the context as it was, however it ends. -/
theorem agrees_runBody [Reentry.Agree lax s s'] {f : FunctionRef} {c : Closure}
    (message : Option String) (args : List CellRef) (hm : m.Sound) (hc : c.Sound) (hf : m.Has f c) :
    Agrees lax (runBody s f c message args) (runBody s' f c message args) m.Left m := by
  refine .andThen (agrees_entryOf f hm hc) ?_ fun _ _ h => h
  rintro ⟨level, cursor, iterators⟩ m₁ ⟨h₁, k, hk, enough⟩
  have named : Tidy lax (liftM (bindArguments level.base message args) : Run Unit) _ :=
    .binds (some level.base) _
  refine agrees_unchanged h₁ fun _ m₂ h₂ => agrees_unchanged h₂ fun me m₃ h₃ => ?_
  refine agrees_unchanged h₃ fun _ m₄ h₄ => .bind (.askContext (.bind (.changeContext ?_)))
  have entered :
      ({ m₄ with context := enter c.source level iterators m₄.context } : Machine).Sound :=
        h₄.sound.of_code rfl
  refine .attemptThen (Reentry.Agree.block hc.body hk entered rfl (Nat.sub_add_cancel enough).symm)
    fun r m₅ ended => .bind (.inr ⟨rfl, ?_⟩)
  obtain ⟨own, room, left⟩ := leaves_leave ended
  have suspended (cursor : Cursor) (outcome : Outcome)
    (hr : ∃ k, c.body.opens? cursor = some k ∧ k ≤ own.length) :
      ∀ level, Agrees lax (suspend f cursor level m₄.context.iterators.length >>=
        fun _ => pure outcome)
        (suspend f cursor level m₄.context.iterators.length >>= fun _ => pure outcome) m.Left
        { m₅ with context := (leave c.source m₅.context).2 } := fun level => by
    obtain ⟨k, hk, enough⟩ := hr
    refine .andThen (agrees_suspend (h₄.grows.has hf) left hk enough) (fun _ _ h => ?_)
      fun _ _ h => ?_
    · exact .pure (h₄.trans h)
    · exact .of_leaves (h₄.trans h)
  have after : m.Leaves [] _ := h₄.trans (leaves_dropIterators left)
  match r, room with
  | .ok (.yield value cursor), ⟨k, hk, enough, _⟩ => exact suspended cursor _ ⟨k, hk, by omega⟩ _
  | .ok (.callcc target cursor), ⟨k, hk, enough, _⟩ => exact suspended cursor _ ⟨k, hk, by omega⟩ _
  | .error fault, _ => exact .bind (.changeContext (.fail ⟨[], after⟩))
  | .ok (.return value), _ => exact .bind (.changeContext (.pure after))
  | .ok (.throw value), _ => exact .bind (.changeContext (.fail ⟨[], after⟩))
  | .ok .normal, _ | .ok .break, _ | .ok .continue, _ =>
    exact .bind (.changeContext (agrees_unchanged after fun _ _ h => .pure h))

/-- Allocating a cell. -/
theorem agrees_cell {α : Type} (content : Content) {f g : CellRef → Run α} {post : Run.Post α}
    (next : ∀ cell m', m'.code = m.code → m'.context = m.context →
      Agrees lax (f cell) (g cell) post m') :
    Agrees lax (liftM (HeapM.cell content) >>= f) (liftM (HeapM.cell content) >>= g) post m :=
  .bind (.inr ⟨rfl, next _ _ rfl rfl⟩)

/-- Taking away the frame that a call was made in. -/
theorem leaves_unframed {own : List IterState} {m m₁ m₂ : Machine} (code : m₁.code = m.code)
    (framed : m₁.context = m.context.createFrame) (h : m₁.Leaves own m₂) :
    m.Leaves own { m₂ with context := m₂.context.killFrame.2 } := by
  have stack : m₂.context.stack = [] :: m.context.stack := h.stack.trans (by rw [framed]; rfl)
  refine ⟨h.sound.of_code rfl, ?_, ?_, ?_, ?_, ?_⟩
  · exact .around h.grows code rfl
  · exact h.rigid.trans (by rw [framed]; rfl)
  · exact Context.stack_killFrame_of_tail (congrArg List.tail stack)
  · exact h.scope.trans (by rw [framed]; rfl)
  · exact h.iterators.trans (by rw [framed]; rfl)

theorem agrees_runClosure [Reentry.Agree lax s s'] {f : FunctionRef} {c : Closure}
    (message : Option String) (args : List CellRef) (hm : m.Sound) (hc : c.Sound) (hf : m.Has f c) :
    Agrees lax (runClosure s f c message args) (runClosure s' f c message args) m.Left m := by
  refine .andThen (agrees_runBody message args hm hc hf) ?_ fun _ _ h => h
  rintro (cell | target) m₁ h₁
  · exact .pure h₁
  · refine .bind (.changeContext (agrees_cell _ fun me m₂ code framed => ?_))
    have sound : m₂.Sound := h₁.sound.of_code code
    refine .attemptThen (Tidy.agrees m₂ sound) fun r m₃ h₃ => .bind (.killFrame (.settle ?_))
    cases r with
    | ok cell => exact h₁.trans (leaves_unframed code framed h₃)
    | error e =>
      obtain ⟨own, h₃⟩ := h₃
      exact ⟨own, by simpa using h₁.trans (leaves_unframed code framed h₃)⟩

/-! ## Calls in a context of their own -/

/-- Computing in another context and coming back. -/
theorem agrees_inside {α : Type} {c : Context} {x y : Run α} {inner post : Run.Post α}
    (hx : Agrees lax x y inner { m with context := c })
    (h : ∀ r m', inner r m' → post r { m' with context := m.context }) :
    Agrees lax (within c x) (within c y) post m :=
  .bind (.askContext (.bind (.changeContext (.attemptThen hx fun r m' after =>
    .bind (.changeContext (.settle (h r m' after)))))))

/-- Computing in another context leaves the context of before, even when it fails. -/
theorem agrees_within {α : Type} (c : Context) {x y : Run α} {m m' : Machine} (h : m.Leaves [] m')
    (hx : Agrees lax x y ({ m' with context := c } : Machine).Left { m' with context := c }) :
    Agrees lax (within c x) (within c y) (fun _ m'' => m.Leaves [] m'') m' := by
  refine agrees_inside hx fun r m₁ left => ?_
  have inside : ∃ own, ({ m' with context := c } : Machine).Leaves own m₁ := by
    cases r with
    | ok a => exact ⟨[], left⟩
    | error e => exact left
  obtain ⟨own, inside⟩ := inside
  have back : m'.Leaves [] { m₁ with context := m'.context } :=
    ⟨inside.sound.of_code rfl, .around inside.grows rfl rfl, rfl, rfl, rfl, rfl⟩
  exact h.trans back

/-- Making a context allocates its variables. -/
theorem agrees_newContext {α : Type} (s : ScriptRef) {f g : Context → Run α} {post : Run.Post α}
    (hm : m.Sound) (h : ∀ (c : Context) m', m.Leaves [] m' → c.script = s → c.frameDepth = 1 →
      Agrees lax (f c) (g c) post m') :
    Agrees lax (newContext s >>= f) (newContext s >>= g) post m :=
  .bind (.inr ⟨rfl, h _ _ (Machine.Quiet.leaves ⟨rfl, rfl, rfl, rfl, rfl⟩ hm) rfl rfl⟩)

/-- A call of a closure in a context of its own leaves the current context alone, even when it
fails. -/
theorem agrees_callDetached [Reentry.Agree lax s s'] {f : FunctionRef} {c : Closure}
    (message : Option String) (args : List CellRef) (hm : m.Sound) (hc : c.Sound) (hf : m.Has f c) :
    Agrees lax (callDetached s f c message args) (callDetached s' f c message args)
      (fun _ m' => m.Leaves [] m') m := by
  refine .bind (.ask ?_)
  dsimp only
  split
  · exact .bind (.fail (.refl hm))
  · refine agrees_newContext c.owner hm fun ctx m₁ h₁ _ _ => agrees_within ctx h₁ ?_
    have entered : ({ m₁ with context := ctx } : Machine).Sound := h₁.sound.of_code rfl
    refine agrees_dispatch _ _ entered fun m₂ quiet => ?_
    have after := quiet.leaves entered
    have there : ({ m₁ with context := ctx } : Machine).Has f c := h₁.grows.has hf
    exact agrees_runClosure message args after.sound hc (after.grows.has there)

/-! ## Functions -/

instance (name : String) (args : List CellRef) (x y : Run CellRef) [hx : Tidy lax x y] :
    Tidy lax (dispatch name args x) (dispatch name args y) :=
  ⟨fun _ hm => agrees_dispatch name args hm fun m' quiet => hx.agrees m' (quiet.leaves hm).sound⟩

section Functions

variable [Reentry.Agree lax s s']

theorem tidy_evaluate_bound (name : String) (args : List CellRef) (f : FunctionRef) :
    Tidy lax (evaluate s name args (.bound f)) (evaluate s' name args (.bound f)) where
  agrees m hm := by
    unfold evaluate
    refine .bind (.askHeap ?_)
    dsimp only
    split
    · exact Tidy.agrees m hm
    · rename_i c found
      refine .bind (.ask ?_)
      dsimp only
      split
      · exact agrees_runClosure none args hm (hm.closures f c found) (.of_closure? found)
      · exact (agrees_callDetached none args hm (hm.closures f c found) (.of_closure? found)).mono
          fun _ _ => .of_leaves

instance (name : String) (args : List CellRef) (f : Function) :
    Tidy lax (evaluate s name args f) (evaluate s' name args f) := by
  induction f with
  | library f => unfold evaluate; infer_instance
  | probe f => unfold evaluate; infer_instance
  | bound f => exact tidy_evaluate_bound name args f
  | guarded policy inner ih => cases policy <;> unfold evaluate <;> infer_instance

/-- Back from an inline block: the containers of the call are the oldest ones above those of the
caller. -/
theorem leaves_inline {b : Block} {vars : VarsRef} {r : Except Fault Flow} {e m' : Machine}
    (ended : b.Ended none e e.context.iterators 0 r m') (code : e.code = m.code)
    (context : e.context = ({ m.context with scope := m.context.scope.pushLocal vars } :
        Context).createFrame) :
    ∃ own, (Flow.isFinal r → own = []) ∧ m.Leaves own { m' with
      context := { m'.context.killFrame.2 with
        scope := m'.context.scope.truncateLocals m.context.scope.localDepth } } := by
  obtain ⟨own, room, iterators⟩ := ended.ends.iterators
  obtain ⟨more, scope, -⟩ := ended.ends.locals rfl
  have stack : m'.context.stack.tail = m.context.stack := ended.level.trans (by rw [context]; rfl)
  refine ⟨own, fun final => ?_, ended.ends.sound.of_code rfl, .around ended.ends.grows code rfl,
    ?_, ?_, ?_, ?_⟩
  · have same := iterators.symm.trans (ended.fresh final).2
    simpa using same
  · exact ended.ends.rigid.trans (by rw [context]; rfl)
  · exact Context.stack_killFrame_of_tail stack
  · have pushed : m'.context.scope = (m.context.scope.pushLocal vars).pushLocals more :=
      scope.trans (by rw [context]; rfl)
    change m'.context.scope.truncateLocals _ = _
    rw [pushed, ScopeChain.pushLocal_eq, ScopeChain.pushLocals_pushLocals,
      ScopeChain.truncateLocals_pushLocals]
  · exact iterators.trans (by rw [context]; rfl)

/-- An inline block leaves the context as it was; one that was suspended fails, and its iterators
stay. -/
theorem tidy_runInline (name : String) {block : Block} (args : List CellRef)
    (hb : block.isBalanced) :
    Tidy lax (runInline s name block args) (runInline s' name block args) where
  agrees m hm := by
    refine agrees_unchanged (.refl hm) fun vars m₁ h₁ => ?_
    have named : Tidy lax (liftM (bindArguments vars none args) : Run Unit) _ :=
      .binds (some vars) _
    refine agrees_unchanged h₁ fun _ m₂ h₂ => ?_
    refine .bind (.askContext (.bind (.changeContext (.bind (.changeContext ?_)))))
    refine .attemptThen (Reentry.Agree.fresh hb (h₂.sound.of_code rfl)) fun r m₃ ended => ?_
    refine .bind (.killFrame (.bind (.changeContext ?_)))
    obtain ⟨own, final, left⟩ := leaves_inline (m := m₂) ended rfl rfl
    replace left := h₂.trans left
    match r with
    | .error f => exact .fail ⟨_, left⟩
    | .ok (.throw value) => exact .fail ⟨_, left⟩
    | .ok (.yield _ _) | .ok (.callcc _ _) => exact .fail ⟨_, left⟩
    | .ok (.return value) =>
      obtain rfl := final rfl
      exact .pure left
    | .ok .normal | .ok .break | .ok .continue =>
      obtain rfl := final rfl
      exact (Tidy.agrees _ left.sound).mono fun _ _ => .after left

instance (name : String) (args : List CellRef) :
    Tidy lax (callFunction s name args) (callFunction s' name args) where
  agrees m hm := by
    refine .bind (.ask ?_)
    dsimp only
    split
    · exact Tidy.agrees m hm
    · split
      · rename_i block found
        have : Tidy lax (runInline s name block args) (runInline s' name block args) :=
          tidy_runInline name args ((hm.scripts _).inlines name block found)
        exact Tidy.agrees m hm
      · exact Tidy.agrees m hm

/-- What a function of the host does leaves the context alone, even when it fails. -/
theorem agrees_reply (message : Option String) (args : List CellRef) (r : HostReply)
    (hm : m.Sound) :
    Agrees lax (reply message args r) (reply message args r) (fun _ m' => m.Leaves [] m') m := by
  have quiet : ∀ m : Machine, m.Quiet (reply message args r m).2 := fun m => by
    cases r with
    | first =>
      unfold reply Library.argument
      split <;> exact ⟨rfl, rfl, rfl, rfl, rfl⟩
    | message => cases message <;> exact ⟨rfl, rfl, rfl, rfl, rfl⟩
    | count | give _ | throw _ | fail _ => exact ⟨rfl, rfl, rfl, rfl, rfl⟩
  exact .inr ⟨rfl, .of_forall fun _ => (quiet m).leaves hm⟩

/-- A call that the host makes leaves the context alone, even when it fails. -/
theorem agrees_invoke (f : FunctionRef) (message : Option String) (args : List CellRef)
    (hm : m.Sound) :
    Agrees lax (invoke s f message args) (invoke s' f message args) (fun _ m' => m.Leaves [] m')
      m := by
  refine .bind (.askHeap ?_)
  dsimp only
  split
  · rename_i c found
    have found : m.heap.closure? f = some c := by simp only [Heap.closure?, found]
    exact agrees_callDetached message args hm (hm.closures f c found) (.of_closure? found)
  · refine .bind (.ask ?_)
    dsimp only
    split
    · exact .bind (.fail (.refl hm))
    · exact agrees_newContext _ hm fun c m₁ h₁ _ _ =>
        agrees_within c h₁ (Tidy.agrees _ (h₁.sound.of_code rfl))
  · exact agrees_reply message args _ hm

theorem tidy_attempt_invoke (f : FunctionRef) (message : Option String) (args : List CellRef) :
    Tidy lax (Run.attempt (invoke s f message args)) (Run.attempt (invoke s' f message args)) :=
  ⟨fun _ hm => .attempt (agrees_invoke f message args hm)⟩

instance (target : CellRef) (message : Option String) (args : List CellRef) :
    Tidy lax (callValue s target message args) (callValue s' target message args) where
  agrees m hm := by
    refine .bind (.askHeap ?_)
    dsimp only
    split
    · rename_i f _
      refine .bind (.askContext (.bind (.askHeap ?_)))
      dsimp only
      split
      · rename_i c found
        have found : m.heap.closure? f = some c := by simp only [Heap.closure?, found]
        have sound := hm.closures f c found
        split
        · refine agrees_dispatch _ args hm fun m' quiet => ?_
          have after := quiet.leaves hm
          exact agrees_runClosure message args after.sound sound
            (after.grows.has (.of_closure? found))
        · exact (agrees_callDetached message args hm sound (.of_closure? found)).mono
            fun _ _ => .of_leaves
      · split
        · exact Tidy.agrees m hm
        · exact (agrees_invoke f message args hm).mono fun _ _ => .of_leaves
      · exact Tidy.agrees m hm
    · split <;> exact Tidy.agrees m hm
    · exact Tidy.agrees m hm
    · exact Tidy.agrees m hm

end Functions

end Eval

end CellScript
