import CellScript.Proofs.Eval.Block

/-!
# Evaluators under watch

An evaluator under watch looks at the machine before and after every block and raises an alarm when
it does not like what it sees. That it does the same as the evaluator without watch, whatever the
alarm is, says that it never sees anything of the kind, in any block of any run.

## Main definitions

* `Eval.watch`, `Eval.watched` — a block under watch, and an evaluator that watches all blocks.

## Main statements

* `agree_watched` — a watch for something that all blocks keep sees nothing.
* `agree_more` — evaluators do the same with more fuel.
-/

namespace CellScript.Eval

open Run (Tidy Agrees)

/-- What a watch looks for: what it makes of a block, and of a step of one, that went on at a
position in a machine and ended in another one. -/
structure Watch where
  block : Block → Option Cursor → Machine → Except Fault Flow → Machine → Bool
  step : Option Cursor → Instruction → Machine → Except Fault Flow → Machine → Bool

/-- Compute, and raise an alarm unless the machine afterwards is as it should be. -/
def watch (verdict : Machine → Except Fault Flow → Machine → Bool) (alarm x : Run Flow) :
    Run Flow := do
  let before ← Run.ask id
  let result ← Run.attempt x
  let after ← Run.ask id
  if verdict before result after then Run.settle result else alarm

/-- A step under watch. -/
def watchedStep (w : Watch) (alarm : Run Flow) (self : Reentry) (resume : Option Cursor)
    (i : Instruction) : Run Flow :=
  watch (w.step resume i) alarm (step self resume i)

/-- The evaluator with a watch on all blocks and their steps, also those of closures, handlers and
conditions. -/
def watched (w : Watch) (alarm : Run Flow) : Nat → Reentry
  | 0 => reentry 0
  | n + 1 =>
    let self := watched w alarm n
    { next n (fun _ => self) with
      block := fun b resume =>
        watch (w.block b resume) alarm (blockBy (watchedStep w alarm self) b resume) }

variable {lax : Prop} {s s' : Reentry} {m : Machine} {n n' : Nat}

/-- Evaluators without fuel do nothing. -/
theorem agree_zero : Reentry.Agree lax (reentry 0) (reentry 0) where
  call _ _ _ := ⟨fun _ _ => .inr ⟨rfl, trivial⟩⟩
  attemptInvoke _ _ _ := ⟨fun _ _ => .inr ⟨rfl, trivial⟩⟩
  rounds := .inl rfl
  block _ _ _ _ _ := .inr ⟨rfl, trivial⟩

/-- An evaluator without fuel is out of fuel where any other may go on. -/
theorem agree_dry (s : Reentry) : Reentry.Agree True (reentry 0) s where
  call _ _ _ := ⟨fun _ _ => .inl ⟨trivial, rfl⟩⟩
  attemptInvoke _ _ _ := ⟨fun _ _ => .inl ⟨trivial, rfl⟩⟩
  rounds := .inr ⟨trivial, Nat.zero_le _⟩
  block _ _ _ _ _ := .inl ⟨trivial, rfl⟩

theorem agree_reentry (n : Nat) : Reentry.Agree lax (reentry n) (reentry n) := by
  induction n with
  | zero => exact agree_zero
  | succ n ih => exact agree_next (.inl rfl)

/-- Evaluators do the same with more fuel, unless they were out of it. -/
theorem agree_more (h : n ≤ n') : Reentry.Agree True (reentry n) (reentry n') := by
  induction n generalizing n' with
  | zero => exact agree_dry _
  | succ n ih =>
    obtain ⟨n', rfl⟩ := Nat.exists_eq_succ_of_ne_zero (Nat.ne_zero_of_lt h)
    have := ih (Nat.le_of_succ_le_succ h)
    exact agree_next (.inr ⟨trivial, Nat.le_of_succ_le_succ h⟩)

theorem agrees_watch {x y alarm : Run Flow} {verdict : Machine → Except Fault Flow → Machine → Bool}
    {post : Run.Post Flow} (h : Agrees lax x y post m) (fine : ∀ r m', post r m' → verdict m r m') :
    Agrees lax x (watch verdict alarm y) post m := by
  rw [← Run.attempt_settle x]
  refine .askRight (.attemptThen h fun r m' after => .askRight ?_)
  dsimp only [id]
  rw [if_pos (fine r m' after)]
  exact .settle after

/-- A watch for something that all blocks and steps keep. A block from its start can be seen with
all iterators around it left alone. -/
structure Watch.IsKept (w : Watch) : Prop where
  block : ∀ {b : Block} {resume : Option Cursor} {m m' : Machine} {outer : List IterState}
    {slack : Nat} {r : Except Fault Flow}, b.Ended resume m outer slack r m' →
    (resume = none → b.Ended none m m.context.iterators 0 r m') → w.block b resume m r m'
  step : ∀ {i : Instruction} {m₀ m m' : Machine} {outer : List IterState} {slack : Nat}
    {σ τ : Shape} {r : Except Fault Flow}, m₀.At outer slack σ m →
    Stepped m₀ outer slack σ τ i r m' → w.step none i m r m'
  compound : ∀ {i : Instruction} {resume : Option Cursor} {m m' : Machine}
    {outer : List IterState} {slack j : Nat} {r : Except Fault Flow},
    i.Ended j resume m outer slack r m' → w.step resume i m r m'

theorem performs_watchedStep [Reentry.Agree lax s s'] {w : Watch} (hw : w.IsKept)
    (alarm : Run Flow) :
    Performs lax (step s) (watchedStep w alarm s') where
  simple simple hi h :=
    agrees_watch (performs_step.simple simple hi h) fun _ _ goes => hw.step h goes.stepped
  flow hi h := agrees_watch (performs_step.flow hi h) fun _ _ leaps => hw.step h (leaps.stepped hi)
  compound compound flow hi open_ hm hown length hk :=
    agrees_watch (performs_step.compound compound flow hi open_ hm hown length hk)
      fun _ _ => hw.compound

/-- A watch for something that all blocks and steps keep sees nothing. -/
theorem agree_watched {w : Watch} (hw : w.IsKept) (alarm : Run Flow) (n : Nat) :
    Reentry.Agree False (reentry n) (watched w alarm n) := by
  induction n with
  | zero => exact agree_zero
  | succ n ih =>
    have below : Reentry.Agree False (reentry (n + 1)) (next n fun _ => watched w alarm n) :=
      agree_next (.inl rfl)
    refine { call := below.call, attemptInvoke := below.attemptInvoke, rounds :=
      below.rounds, block := ?_ }
    intro b resume m outer own slack k hb hk hm hown length
    have performs : Performs False (step (reentry n)) (watchedStep w alarm (watched w alarm n)) :=
      performs_watchedStep hw alarm
    have ends := agrees_blockBy performs hb hk hm hown length
    cases resume with
    | some cursor => exact agrees_watch ends fun _ _ ended => hw.block ended nofun
    | none =>
      have fresh : Agrees False (blockBy (step (reentry n)) b none)
          (blockBy (watchedStep w alarm (watched w alarm n)) b none)
          (b.Ended none m m.context.iterators 0) m :=
        @agrees_blockBy _ _ _ [] _ _ _ _ _ _ performs hb rfl hm rfl rfl
      exact (agrees_watch (ends.and fresh) fun _ _ ended => hw.block ended.1 fun _ => ended.2).mono
        fun _ _ => And.left

/-! ## What is watched -/

/-- The frame depth is that at the start, wherever a block began and however it ended. -/
def keepsDepth : Watch where
  block _ _ m _ m' := m'.context.frameDepth == m.context.frameDepth
  step _ _ _ _ _ := true

/-- A block that began at its start and has ended for good has left the handlers, the sources, the
iterators and the scopes as they were. So has each of its steps, as far as scopes are concerned. -/
def restores : Watch where
  block _ resume m r m' := resume.isSome || !Flow.isFinal r ||
    (m'.context.handlers == m.context.handlers && m'.context.sources == m.context.sources &&
      m'.context.iterators == m.context.iterators && m'.context.scope == m.context.scope)
  step resume _ m r m' := resume.isSome || !Flow.isFinal r || m'.context.scope == m.context.scope

theorem isKept_keepsDepth : keepsDepth.IsKept where
  block ended _ := beq_iff_eq.mpr ended.level.frameDepth
  step _ _ := rfl
  compound _ := rfl

theorem isKept_restores : restores.IsKept where
  block {b resume m m' outer slack r} _ fresh := by
    cases resume with
    | some cursor => rfl
    | none =>
      by_cases final : Flow.isFinal r
      · have ended := fresh rfl
        obtain ⟨scope, iterators⟩ := ended.fresh final
        simp [restores, Context.handlers_of_rigid ended.ends.rigid,
          Context.sources_of_rigid ended.ends.rigid, scope, iterators]
      · simp [restores, final]
  step {i m₀ m m' outer slack σ τ r} here stepped := by
    by_cases final : Flow.isFinal r
    · have scope : m'.context.scope = m.context.scope := by
        rw [here.scope]
        by_cases normal : r = .ok .normal
        · exact (stepped.next normal).scope
        · obtain ⟨more, scope, none⟩ := (stepped.ends normal).locals trivial
          rw [scope, none final, ScopeChain.pushLocals_nil]
      simp [restores, scope]
    · simp [restores, final]
  compound {i resume m m' outer slack j r} ended := by
    cases resume with
    | some cursor => rfl
    | none =>
      by_cases final : Flow.isFinal r
      · obtain ⟨more, scope, none⟩ := ended.ends.locals rfl
        simp [restores, scope, none final]
      · simp [restores, final]

end CellScript.Eval
