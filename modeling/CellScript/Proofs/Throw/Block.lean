import CellScript.Proofs.Throw.Traced

/-!
# Throws through blocks

Branches, loops and handlers pass throws on as they are. So a relation that is passed on where
faults are is passed on by them when throws are raised as faults, from related blocks and verdicts.
A block fails with fatal faults alone: it makes throws of the others. What is in the trace at the
end of a block is what a throw out of it has passed through.

## Main statements

* `related_branchOn`, `related_rounds`, `related_runHandler` — branches, loops and handlers.
* `fatal_blockBy` — blocks only fail fatally.
* `related_raise_blockBy` — blocks leave no trace but that of throws when their steps do.
-/

namespace CellScript

namespace Eval

open Run (Related Passes traced Traced Traces Clear)

/-! ## Control flow -/

section Raised

variable {ρ : Run.Relation} {s s' : Reentry} [Reentry.Parts ρ s s']

/-- A branch that is entered. -/
instance (b : Block) (inner : Option Cursor) (entry : Nat) :
    Related ρ (raise do return (← s.block b inner).through entry)
      (raise do return (← s'.block b inner).through entry) := by
  rw [raise_bind, raise_bind]
  exact related_onFlow fun flow => inferInstance

theorem related_branchOn {verdict verdict' : Run Bool} (h : Related ρ verdict verdict')
    (onTrue : Block) (onFalse : Option Block) (resume : Option Cursor) :
    Related ρ (raise (branchOn s verdict onTrue onFalse resume))
      (raise (branchOn s' verdict' onTrue onFalse resume)) := by
  unfold branchOn
  cases splitBranch resume with
  | none =>
    simp only [raise_bind, pure_bind]
    refine .seq h fun taken => ?_
    cases taken <;> cases onFalse <;> simp only [Bool.false_eq_true, ↓reduceIte] <;> infer_instance
  | some position =>
    simp only [pure_bind]
    cases position.1 == 0 <;> cases onFalse <;> simp only [Bool.false_eq_true, ↓reduceIte] <;>
      infer_instance

/-- A throw out of a round of a loop is raised as a fault. -/
def raisedRound : Round ⊕ Flow → Run (Round ⊕ Flow)
  | .inl round => return .inl round
  | .inr flow => return .inr (← raised flow)

/-- A round of a loop whose throws are raised as faults. -/
def raiseRound (x : Run (Round ⊕ Flow)) : Run (Round ⊕ Flow) :=
  x >>= raisedRound

instance (next : Round ⊕ Flow) : Related ρ (raisedRound next) (raisedRound next) := by
  cases next <;> unfold raisedRound <;> infer_instance

instance (x y : Run (Round ⊕ Flow)) [Related ρ x y] : Related ρ (raiseRound x) (raiseRound y) :=
  inferInstanceAs (Related ρ (x >>= _) (y >>= _))

theorem raise_iterate (step : Round → Run (Round ⊕ Flow)) (n : Nat) (round : Round) :
    raise (Run.iterate step n round) =
      Run.iterate (fun round => raiseRound (step round)) n round := by
  induction n generalizing round with
  | zero => rfl
  | succ n ih =>
    rw [Run.iterate_succ, Run.iterate_succ, raise_bind, raiseRound, bind_assoc]
    refine bind_congr fun next => ?_
    cases next with
    | inl round => exact (ih round).trans (pure_bind _ _).symm
    | inr flow => cases flow <;> rfl

instance (increment : Option Block) (inner : Option Cursor) :
    Related ρ (raiseRound (loopIncrement s increment inner))
      (raiseRound (loopIncrement s' increment inner)) := by
  cases increment with
  | none => exact inferInstanceAs (Related ρ (pure _) (pure _))
  | some increment =>
    unfold loopIncrement raiseRound
    simp only [bind_assoc]
    refine related_onFlow fun flow => ?_
    cases flow <;> dsimp only <;> infer_instance

variable [ρ.IsSimple]

instance (body : Block) (increment : Option Block) (inner : Option Cursor) :
    Related ρ (raiseRound (loopBody s body increment inner))
      (raiseRound (loopBody s' body increment inner)) := by
  unfold loopBody raiseRound
  simp only [bind_assoc]
  refine .andThen fun _ => related_onFlow fun flow => ?_
  cases flow with
  | normal | «continue» =>
    exact inferInstanceAs
      (Related ρ (raiseRound (loopIncrement s _ none)) (raiseRound (loopIncrement s' _ none)))
  | «return» _ | «break» | throw _ | yield _ _ | callcc _ _ => dsimp only; infer_instance

theorem related_rounds {verdict verdict' : Run Bool} (h : Related ρ verdict verdict') (body : Block)
    (increment : Option Block) (resume : Option Cursor) :
    Related ρ (raise (rounds s.rounds (loopRoundOn s verdict body increment) resume))
      (raise (rounds s'.rounds (loopRoundOn s' verdict' body increment) resume)) := by
  have turns (round : Round) : Related ρ (raiseRound (loopRoundOn s verdict body increment round))
      (raiseRound (loopRoundOn s' verdict' body increment round)) := by
    cases round with
    | start =>
      unfold loopRoundOn raiseRound
      simp only [bind_assoc]
      refine .seq h fun holds => ?_
      cases holds with
      | true =>
        exact inferInstanceAs
          (Related ρ (raiseRound (loopBody s _ _ none)) (raiseRound (loopBody s' _ _ none)))
      | false => exact inferInstanceAs (Related ρ (pure _) (pure _))
    | body inner => unfold loopRoundOn; infer_instance
    | increment inner =>
      unfold loopRoundOn raiseRound
      simp only [bind_assoc]
      exact .andThen fun _ =>
        inferInstanceAs
          (Related ρ (raiseRound (loopIncrement s _ inner)) (raiseRound (loopIncrement s' _ inner)))
  have turned :
      Related ρ
        (raise (Run.iterate (loopRoundOn s verdict body increment) s.rounds (.ofCursor resume)))
      (raise (Run.iterate (loopRoundOn s' verdict' body increment) s'.rounds
        (.ofCursor resume))) := by
    have same : s.rounds = s'.rounds := Reentry.Parts.rounds ρ
    rw [raise_iterate, raise_iterate, ← same]
    exact Run.related_iterate turns _ _
  unfold rounds
  simp only [raise_bind]
  refine related_onFlow fun flow => ?_
  infer_instance

theorem related_runHandler (handler : Block) (resume : Option Cursor) :
    Related ρ (raise (runHandler s handler resume)) (raise (runHandler s' handler resume)) := by
  unfold runHandler
  simp only [raise_bind]
  refine related_passFlow ⟨fun _ _ => ⟨_, rfl, rfl, rfl, rfl⟩⟩ fun result => ?_
  infer_instance

end Raised

/-! ## Faults of blocks -/

/-- A computation whose outcome is a fault for fatal ones alone. -/
class OnlyFatal {α : Type} (x : Run (Except Fault α)) : Prop where
  fatal : ∀ m f m', x m = (.ok (.error f), m') → f.isFatal

section OnlyFatal

variable {α β : Type}

instance (a : α) : OnlyFatal (pure (.ok a)) := ⟨fun _ _ _ => nofun⟩

instance (x : Run β) (k : β → Run (Except Fault α)) [hk : ∀ b, OnlyFatal (k b)] :
    OnlyFatal (x >>= k) where
  fatal m f m' run := by
    rw [Run.bind_run] at run
    rcases first : x m with ⟨_ | b, m₁⟩ <;> rw [first] at run
    · cases run
    · exact (hk b).fatal m₁ f m' run

theorem OnlyFatal.andThen {x : Run β} {k : β → Run (Except Fault α)} (h : ∀ b, OnlyFatal (k b)) :
    OnlyFatal (x >>= k) :=
  inferInstance

/-- Handing on the fault of an outcome. -/
theorem OnlyFatal.handOn {x : Run (Except Fault β)} {k : Except Fault β → Run (Except Fault α)}
    [hx : OnlyFatal x] (ok : ∀ b, OnlyFatal (k (.ok b)))
    (error : ∀ f, k (.error f) = pure (.error f)) : OnlyFatal (x >>= k) where
  fatal m f m' run := by
    rw [Run.bind_run] at run
    rcases first : x m with ⟨stop | outcome, m₁⟩ <;> rw [first] at run
    · cases run
    · cases outcome with
      | ok b => exact (ok b).fatal m₁ f m' run
      | error f' =>
        dsimp only at run
        rw [error] at run
        cases run
        exact hx.fatal m f m' first

instance (line : UInt32) (result : Except Fault Flow) : OnlyFatal (flowOfStep line result) := by
  unfold flowOfStep
  split
  · infer_instance
  · infer_instance
  · rename_i f _
    split
    · rename_i fatal
      refine ⟨fun m f' m' run => ?_⟩
      cases run
      exact fatal
    · infer_instance

variable {perform : Option Cursor → Instruction → Run Flow}

instance (index : Nat) (resume : Option Cursor) (list : List Step) :
    OnlyFatal (steps perform index resume list) := by
  induction list generalizing index resume with
  | nil =>
    unfold steps
    infer_instance
  | cons step rest ih =>
    cases step with
    | mk line instruction =>
      refine .andThen fun _ => .andThen fun result => .handOn (fun flow => ?_) fun f => rfl
      split <;> first | infer_instance | contradiction

end OnlyFatal

/-- What is computed in the source of a block begins there, and ends where the block began. -/
theorem bracket_run (source : Option String) (x : Run (Except Fault Flow)) (m : Machine) :
    bracket source x m =
      match x
        { m with context := { m.context with sources := source.toList ++ m.context.sources } } with
      | (.ok outcome, m') =>
        (outcome.mapError .fault,
          { m' with context := closing source m.context.marks outcome m'.context })
      | (.error stop, m') => (.error stop, m') := by
  unfold bracket
  rw [Run.bind_run, Run.askContext_run]
  dsimp only
  rw [Run.bind_run, Run.changeContext_run]
  dsimp only
  rw [Run.bind_run]
  rcases x _ with ⟨_ | (_ | _), m'⟩ <;> rfl

/-- A block only fails fatally, in whatever way its steps are performed. -/
theorem fatal_blockBy {perform : Option Cursor → Instruction → Run Flow} {b : Block}
    {resume : Option Cursor} {m m' : Machine} {f : Fault}
    (fails : blockBy perform b resume m = (.error (.fault f), m')) : f.isFatal := by
  unfold blockBy at fails
  dsimp only at fails
  rw [bracket_run] at fails
  split at fails
  · rename_i outcome m₁ ended
    cases outcome with
    | ok flow => cases fails
    | error f' =>
      cases fails
      exact OnlyFatal.fatal _ _ _ ended
  · rename_i stop m₁ ended
    cases fails
    exact (Unfailing.ends _ _ _ ended).elim

/-- Nothing is thrown out of a block whose steps do not throw and only fail fatally. -/
theorem blockBy_ne_throw {perform : Option Cursor → Instruction → Run Flow}
    (contained : ∀ resume i m f m', raise (perform resume i) m = (.error (.fault f), m') →
      f.isFatal) (b : Block)
    (resume : Option Cursor) (m : Machine) (value : CellRef) (m' : Machine) :
    blockBy perform b resume m ≠ (.ok (.throw value), m') := by
  have stepped (index : Nat) (resume : Option Cursor) (list : List Step) (m m' : Machine) :
      steps perform index resume list m ≠ (.ok (.ok (.throw value)), m') := by
    induction list generalizing index resume m m' with
    | nil => nofun
    | cons step rest ih =>
      cases step with
      | mk line i =>
        unfold steps
        rw [Run.bind_run, Run.changeContext_run]
        dsimp only
        rw [Run.bind_run, Run.attempt_run]
        have contains (f : Fault) (m' : Machine) :=
          contained resume i { m with context := { m.context with line } } f m'
        rw [raise_run] at contains
        generalize perform resume i _ = e at contains ⊢
        rcases e with ⟨(f | _) | flow, m₁⟩
        · dsimp only
          rw [Run.bind_run, flowOfStep_fatal (contains f m₁ rfl)]
          nofun
        · nofun
        · cases flow with
          | throw value => cases contains _ _ rfl
          | normal => exact ih (index + 1) none m₁ m'
          | «return» _ | «break» | «continue» => nofun
          | yield _ cursor => cases cursor <;> nofun
          | callcc _ cursor => cases cursor <;> nofun
  unfold blockBy
  dsimp only
  rw [bracket_run]
  intro threw
  split at threw
  · rename_i outcome m₁ ended
    cases outcome with
    | error f => cases threw
    | ok flow =>
      cases threw
      exact stepped _ _ _ _ _ ended
  · cases threw

/-! ## Blocks -/

/-- What becomes of a fault of a step, with a throw raised again. -/
def rethrown (line : UInt32) : Fault → Run Flow
  | .thrown value => Run.fail (.thrown value)
  | f =>
    if f.isFatal then Run.fail f
    else do
      let message ← Run.messageOf f
      Run.reportError message line
      Run.fail (.thrown (← HeapM.text message))

theorem rethrown_catchable (line : UInt32) {f : Fault} (catchable : f.isFatal = false)
    (native : ∀ value, f ≠ .thrown value) : rethrown line f = (do
      let message ← Run.messageOf f
      Run.reportError message line
      Run.fail (.thrown (← HeapM.text message))) := by
  cases f with
  | thrown value => exact absurd rfl (native value)
  | fatal _ | taintViolation _ => cases catchable
  | badIndex _ | badCast _ | nullDereference _ | concurrentModification _ | runtime _
  | timeout _ => rfl

/-- A fault is reported to the watchers of the script that fails, when errors are shown in its
context. -/
theorem reportError_run (message : String) (line : UInt32) (m : Machine) :
    Run.reportError message line m =
      (.ok (), { m with logs := m.noted (if m.context.flags.showErrors then
      [(m.context.script, ⟨message, line, m.context.currentSource, false⟩)] else []) }) := by
  unfold Run.reportError
  rw [Run.bind_run, Run.askContext_run]
  dsimp only
  cases m.context.flags.showErrors <;> rfl

/-- A fault of a step stays what it is, except that it is worded where it can be caught and is not a
throw yet. -/
theorem rethrown_run (line : UInt32) (f : Fault) (m : Machine) :
    ∃ f' m', rethrown line f m = (.error (.fault f'), m') ∧ f'.isFatal = f.isFatal ∧
      Run.Becomes True m f m' f' ∧
      m'.context.trace = m.context.trace := by
  by_cases native : ∀ value, f ≠ .thrown value
  · cases fatal : f.isFatal with
    | true =>
      refine ⟨f, m, ?_, fatal, .refl True m f, rfl⟩
      cases f <;> first | rfl | cases fatal
    | false =>
      let message := m.heap.faultMessage f
      let w : Warning := ⟨message, line, m.context.currentSource, false⟩
      let notes := if m.context.flags.showErrors then [(m.context.script, w)] else []
      let worded : Heap := { m.heap with cells := m.heap.cells.push (.clean (.text message)) }
      let m' : Machine := { m with logs := m.noted notes, heap := worded }
      have run : rethrown line f m = (.error (.fault (.thrown ⟨m.heap.cells.size⟩)), m') := by
        rw [rethrown_catchable line fatal native, Run.bind_run, Run.messageOf, Run.askHeap_run]
        dsimp only
        rw [Run.bind_run, reportError_run]
        rfl
      have problem : notes.filter (!·.2.trace) = notes := by
        unfold notes
        split <;> rfl
      have text : m'.heap.get ⟨m.heap.cells.size⟩ = .clean (.text message) := by
        simp [m', worded, Heap.get]
      exact ⟨_, m', run, rfl,
        ⟨⟨_, ⟨notes, ⟨rfl, rfl⟩, problem⟩, .thrown native rfl text fun _ => ⟨rfl, rfl⟩⟩,
          fun _ => ⟨rfl, rfl⟩⟩, rfl⟩
  · simp only [ne_eq, not_forall, not_not] at native
    obtain ⟨value, rfl⟩ := native
    exact ⟨_, m, rfl, rfl, .refl True m _, rfl⟩

/-- What is done after a step that ends with a flow or a fault. -/
def afterRaised (line : UInt32) (next : Flow → Run Flow) : Except Fault Flow → Run Flow
  | .ok flow => next flow
  | .error f => rethrown line f

/-- Going on after a step. -/
theorem raise_steps_cons (perform : Option Cursor → Instruction → Run Flow) (index : Nat)
    (resume : Option Cursor) (line : UInt32) (i : Instruction) (rest : List Step) :
    raise (steps perform index resume (.mk line i :: rest) >>= Run.settle) = (do
      Run.changeContext ({ · with line })
      let result ← Run.attempt (perform resume i)
      afterRaised line (fun
        | .normal => raise (steps perform (index + 1) none rest >>= Run.settle)
        | flow => raised (leaveAt index flow)) result) := by
  conv_lhs => unfold steps
  simp only [raise_bind, bind_assoc]
  refine bind_congr fun _ => bind_congr fun result => ?_
  cases result with
  | ok flow => cases flow <;> simp [flowOfStep, afterRaised]
  | error f => cases f <;> simp [flowOfStep, afterRaised, rethrown, Fault.isFatal, leaveAt, raised]

section Blocks

variable {mark? : Option Mark} {p : CallPath} {x y : Run Flow}

/-- A step whose throws do not get out of the evaluator that exposes them. -/
theorem related_afterRaised (line : UInt32) {next next' : Flow → Run Flow}
    (h : Related (traced mark? p) (raise x) (raise y))
    (exposes : mark?.isSome → ∀ m f m', raise y m = (.error (.fault f), m') → f.isFatal)
    (hnext : ∀ flow, Related (traced mark? p) (next flow) (next' flow))
    (alike : ∀ value, next (.throw value) = Run.fail (.thrown value) := by exact fun _ => rfl)
    (alike' : ∀ value, next' (.throw value) = Run.fail (.thrown value) := by exact fun _ => rfl) :
    Related (traced mark? p) (Run.attempt x >>= afterRaised line next)
      (Run.attempt y >>= afterRaised line next') := by
  rw [attempt_raise (x := x) alike, attempt_raise (x := y) alike']
  refine ⟨fun m empty => ?_⟩
  have traces : Traces mark? p (raise x m) (raise y m) := h.holds m empty
  have stops (shown : mark?.isSome) := exposes shown m
  rw [Run.bind_run, Run.bind_run, Run.attempt_run, Run.attempt_run]
  generalize raise x m = e, raise y m = e' at traces stops
  cases traces with
  | @same e clear =>
    rcases e with ⟨(f | _) | flow, m'⟩
    · obtain ⟨f', m'', run, fatal, -, -⟩ := rethrown_run line f m'
      change Traces mark? p (rethrown line f m') (rethrown line f m')
      rw [run]
      exact .same fun shown catchable => absurd (fatal.trans (stops shown f m' rfl)) catchable
    · exact .same trivial
    · exact (hnext flow).holds m' clear
  | @unwound mark f f' q m₁ m₂ given unwound =>
    obtain ⟨f'', m₃, run, fatal, becomes, trace⟩ := rethrown_run line f' m₂
    change Traces mark? p (rethrown line f' m₂) _
    rw [run]
    exact .unwound given (unwound.after (by rw [fatal]; exact unwound.catchable) becomes trace)

/-- Blocks leave no trace but that of throws when their steps do. -/
theorem related_raise_blockBy {perform perform' : Option Cursor → Instruction → Run Flow}
    (h : ∀ resume i, Related (traced mark? p) (raise (perform resume i))
      (raise (perform' resume i)))
    (exposes : mark?.isSome → ∀ resume i m f m', raise (perform' resume i) m =
      (.error (.fault f), m') → f.isFatal)
    (b : Block) (resume : Option Cursor) :
    Related (traced mark? p) (raise (blockBy perform b resume))
      (raise (blockBy perform' b resume)) := by
  have stepped (index : Nat) (resume : Option Cursor) (list : List Step) :
      Related (traced mark? p) (raise (steps perform index resume list >>= Run.settle))
        (raise (steps perform' index resume list >>= Run.settle)) := by
    induction list generalizing index resume with
    | nil =>
      unfold steps
      infer_instance
    | cons step rest ih =>
      cases step with
      | mk line i =>
        rw [raise_steps_cons, raise_steps_cons]
        refine .andThen fun _ =>
          related_afterRaised line (h resume i) (fun shown => exposes shown resume i) fun flow => ?_
        cases flow with
        | normal => exact ih (index + 1) none
        | «return» _ | «break» | «continue» | throw _ | yield _ _ | callcc _ _ =>
          dsimp only; infer_instance
  unfold blockBy
  dsimp only
  rw [bracket_eq, bracket_eq]
  simp only [raise_bind]
  have :=
    stepped (splitCursor resume).1 (splitCursor resume).2 (b.steps.drop (splitCursor resume).1)
  refine .andThen fun marks => .andThen fun _ =>
    related_passFlow ⟨fun _ _ => ⟨_, rfl, rfl, rfl, rfl⟩⟩ fun outcome => ?_
  infer_instance

end Blocks

end Eval

end CellScript
