import CellScript.Proofs.Engine.Run
import CellScript.Proofs.Taint.Flow

/-!
# How runs end

A step that fails ends its block with a throw, unless the fault is fatal, so that a block fails with
fatal faults only. What a run gives is decided by the flow that leaves the main block. A throw that
nobody has caught is reported once, and gives the empty value; `callcc` has nothing to hand over
outside of a closure, and is the one flow that a run fails with.

## Main definitions

* `Eval.Thrown` — what becomes of the fault of a step.
* `Eval.RunGives` — what a run gives, from how its main block has ended.

## Main statements

* `Eval.steps_thrown` — a block ends at a step that fails.
* `Eval.runScript_ends` — runs fail with fatal faults and with `callcc` at the top level only.
-/

namespace CellScript

namespace Eval

open Run (Agrees)

variable {m m' : Machine} {s : ScriptRef} {f : Fault}

/-! ## Blocks -/

/-- What becomes of a fault that a step has failed with in `m`. -/
structure Thrown (m : Machine) (f : Fault)
    (ended : Except Stop (Except Fault Flow) × Machine) : Prop where
  /-- the throw of a script goes on -/
  throw : ∀ value, f = .thrown value → ended = (.ok (.ok (.throw value)), m)
  /-- a fatal fault is passed on -/
  fatal : f.isFatal → ended = (.ok (.error f), m)
  /-- any other fault is thrown in its wording -/
  other : (∀ value, f ≠ .thrown value) → ¬ f.isFatal → ∃ cell,
    ended.1 = .ok (.ok (.throw cell)) ∧
    ended.2.heap.get cell = .clean (.text (m.heap.faultMessage f))

/-- Any other fault is reported and thrown in its wording. -/
theorem flowOfStep_other (line : UInt32) (unthrown : ∀ value, f ≠ .thrown value)
    (unfatal : ¬ f.isFatal) :
    flowOfStep line (.error f) = (do
      let message ← Run.messageOf f
      Run.reportError message line
      return .ok (.throw (← HeapM.text message))) := by
  cases f with
  | thrown value => exact absurd rfl (unthrown value)
  | fatal _ | taintViolation _ => exact absurd rfl unfatal
  | badIndex _ | badCast _ | nullDereference _ | concurrentModification _ | runtime _
  | timeout _ => rfl

theorem flowOfStep_thrown (line : UInt32) (f : Fault) (m : Machine) :
    Thrown m f (flowOfStep line (.error f) m) where
  throw := by
    rintro value rfl
    rfl
  fatal fatal := by
    rw [flowOfStep_fatal fatal]
    rfl
  other unthrown unfatal := by
    obtain ⟨logs, reports⟩ := (Run.reports_reportError (m.heap.faultMessage f) line).run m
    have run : flowOfStep line (.error f) m = (.ok (.ok (.throw ⟨m.heap.cells.size⟩)),
        { m with logs, heap := (m.heap.alloc (.clean (.text (m.heap.faultMessage f)))).2 }) := by
      rw [flowOfStep_other line unthrown unfatal, Run.bind_run, Run.messageOf, Run.askHeap_run]
      dsimp only
      rw [Run.bind_run, reports]
      rfl
    refine ⟨_, by rw [run], ?_⟩
    rw [run]
    simp [Heap.get, Heap.alloc]

/-- At a step that fails, a block ends. -/
theorem steps_thrown {perform : Option Cursor → Instruction → Run Flow} {resume : Option Cursor}
    {i : Instruction} {line : UInt32}
    (fails : perform resume i { m with context := { m.context with line } } =
      (.error (.fault f), m'))
    (index : Nat) (rest : List Step) :
    Thrown m' f (steps perform index resume (.mk line i :: rest) m) := by
  have attempted :
      Run.attempt (perform resume i) { m with context := { m.context with line } } =
        (.ok (.error f), m') := by
    rw [Run.attempt_run, fails]
  obtain ⟨k, run, onThrow, onError⟩ : ∃ k : Except Fault Flow → Run (Except Fault Flow),
      steps perform index resume (.mk line i :: rest) m = (flowOfStep line (.error f) >>= k) m' ∧
      (∀ value, k (.ok (.throw value)) = pure (.ok (.throw value))) ∧
      ∀ f, k (.error f) = pure (.error f) := by
    rw [steps]
    refine ⟨_, (Run.bind_of_ok rfl).trans (Run.bind_of_ok attempted), ?_, ?_⟩
    · exact fun _ => rfl
    · exact fun _ => rfl
  have thrown := flowOfStep_thrown line f m'
  rw [run]
  refine ⟨fun value same => ?_, fun fatal => ?_, fun unthrown unfatal => ?_⟩
  · rw [Run.bind_of_ok (thrown.throw value same), onThrow]
    rfl
  · rw [Run.bind_of_ok (thrown.fatal fatal), onError]
    rfl
  · obtain ⟨cell, throws, text⟩ := thrown.other unthrown unfatal
    rw [Run.bind_of_ok (Prod.ext throws rfl), onThrow]
    exact ⟨cell, rfl, text⟩

/-- The outcome is about a fatal fault, if it is about one. -/
def FatalOnly : Run.Post (Except Fault Flow) := fun r _ =>
  ∃ outcome, r = .ok outcome ∧ ∀ f, outcome = .error f → f.isFatal

theorem agrees_flowOfStep_fatal (line : UInt32) (r : Except Fault Flow) (m : Machine) :
    Agrees False (flowOfStep line r) (flowOfStep line r) FatalOnly m := by
  cases r with
  | ok flow => exact .pure ⟨_, rfl, nofun⟩
  | error f =>
    have thrown := flowOfStep_thrown line f m
    by_cases fatal : f.isFatal
    · exact .of_run (thrown.fatal fatal) ⟨_, rfl, by rintro _ ⟨⟩; exact fatal⟩
    · by_cases unthrown : ∀ value, f ≠ .thrown value
      · obtain ⟨cell, throws, -⟩ := thrown.other unthrown fatal
        exact .of_run (Prod.ext throws rfl) ⟨_, rfl, nofun⟩
      · obtain ⟨value, same⟩ := by simpa using unthrown
        exact .of_run (thrown.throw value same) ⟨_, rfl, nofun⟩

/-- Steps fail with fatal faults only. -/
theorem agrees_steps_fatal (perform : Option Cursor → Instruction → Run Flow) (index : Nat)
    (resume : Option Cursor) (list : List Step) (m : Machine) :
    Agrees False (steps perform index resume list) (steps perform index resume list) FatalOnly
      m := by
  induction list generalizing index resume m with
  | nil => exact .pure ⟨_, rfl, nofun⟩
  | cons step rest ih =>
    obtain ⟨line, i⟩ := step
    have performed :
        ∀ m', Agrees False (perform resume i) (perform resume i) (fun _ _ => True) m' :=
      fun _ => .inr ⟨rfl, .of_forall fun _ => trivial⟩
    refine .bind (.changeContext (.attemptThen (performed _) fun r m₁ _ => ?_))
    refine .andThen (agrees_flowOfStep_fatal line r m₁) (fun outcome m₂ ends => ?_)
      fun f m₂ ends => ends
    obtain ⟨_, ⟨⟩, fatal⟩ := ends
    match outcome with
    | .error f => exact .pure ⟨_, rfl, by rintro _ ⟨⟩; exact fatal f rfl⟩
    | .ok .normal => exact ih (index + 1) none m₂
    | .ok .break | .ok .continue | .ok (.return _) | .ok (.throw _) | .ok (.yield _ _)
    | .ok (.callcc _ _) =>
      exact .pure ⟨_, rfl, nofun⟩

/-- Blocks fail with fatal faults only. -/
theorem block_fatal {n : Nat} {b : Block} {resume : Option Cursor}
    (fails : (reentry n).block b resume m = (.error (.fault f), m')) : f.isFatal := by
  cases n with
  | zero => cases fails
  | succ n =>
    have settled :
        Agrees False (blockBy (step (reentry n)) b resume) (blockBy (step (reentry n)) b resume)
        (fun r _ => ∀ f, r = .error f → f.isFatal) m := by
      refine .bind (.askContext (.bind (.changeContext ?_)))
      refine .andThen (agrees_steps_fatal _ _ _ _ _) (fun outcome m₂ ends => ?_)
        fun f m₂ ends => nomatch ends
      obtain ⟨_, ⟨⟩, fatal⟩ := ends
      exact .bind (.changeContext (.settle fatal))
    obtain ⟨r, same, fatal⟩ := settled.ends fails nofun
    cases r with
    | ok _ => cases same
    | error f' =>
      cases same
      exact fatal f rfl

/-! ## The end of a run -/

/-- What is done at the end of a run that has not thrown. -/
theorem finish_run (outcome : Except Fault CellRef)
    (unthrown : ∀ value, outcome ≠ .error (.thrown value)) (m : Machine) :
    ∃ scripts, finish outcome m = (outcome.mapError .fault, { m with scripts }) := by
  have quiet : reportUncaught m.context.line outcome = pure outcome := by
    unfold reportUncaught
    split
    · exact absurd rfl (unthrown _)
    · rfl
  unfold finish
  cases outcome <;> exact ⟨_, by simp [Run.bind_run, Run.changeOwnScript, quiet]; rfl⟩

/-- A throw that nobody has caught is reported once, and gives the empty value. -/
theorem finish_thrown (value : CellRef) (m : Machine) :
    ∃ scripts, finish (.error (.thrown value)) m = (.ok ⟨m.heap.cells.size⟩,
      { m with
        scripts
        heap := (m.heap.alloc .null).2
        logs :=
          m.told m.context.script ⟨s!"Uncaught exception: {m.heap.text value}", m.context.line,
            some (m.scripts.getD m.context.script.index default).name, false⟩ }) := by
  have same := Machine.getD_modify m.scripts m.context.script.index m.context.script.index
    ({ · with lastStats := m.context.stats })
  have watchers :
      ((m.scripts.modify m.context.script.index ({ · with lastStats := m.context.stats })).getD
      m.context.script.index default).watchers = (m.scripts.getD m.context.script.index
        default).watchers := by
    rcases same with same | same <;> rw [same]
  have name :
      ((m.scripts.modify m.context.script.index ({ · with lastStats := m.context.stats })).getD
      m.context.script.index default).name = (m.scripts.getD m.context.script.index
        default).name := by
    rcases same with same | same <;> rw [same]
  rw [Machine.told, ← watchers, ← name]
  exact ⟨_, rfl⟩

/-- What a run of a script gives, from how its main block has ended and the machine in which it
has. -/
def RunGives (s : ScriptRef) : Except Stop Flow × Machine → Except Stop CellRef × Machine → Prop
  | (.ok (.return value), ended), (result, m) | (.ok (.yield value _), ended), (result, m) =>
    result = .ok value ∧ m.logs = ended.logs
  | (.ok (.throw value), ended), (result, m) =>
    ∃ cell, result = .ok cell ∧ m.heap.get cell = .null ∧
      m.logs = ended.told s ⟨s!"Uncaught exception: {ended.heap.text value}", ended.context.line,
        some (ended.scripts.getD s.index default).name, false⟩
  | (.ok .normal, ended), (result, m) | (.ok .break, ended), (result, m)
  | (.ok .continue, ended), (result, m) =>
    ∃ cell, result = .ok cell ∧ m.heap.get cell = .null ∧ m.logs = ended.logs
  | (.ok (.callcc target _), ended), (result, m) =>
    result = .error (.fault (.runtime (.callccOutside (ended.heap.describe target)))) ∧
    m.logs = ended.logs
  | (.error (.fault f), ended), (result, m) => f.isFatal ∧ result = .error (.fault f) ∧
    m.logs = ended.logs
  | (.error .exhausted, _), (result, _) => result = .error .exhausted

theorem runInContext_eq (s : ScriptRef) (body : Run CellRef) (m : Machine) :
    runInContext s body m = Run.leaving m.context
      ((do finish (← Run.attempt body) : Run CellRef) (m.entered s)) := by
  unfold runInContext
  rw [Run.newContext_within, Run.within_eq]
  rfl

/-- Computing in a context of its own, with what is done at the end. -/
theorem runInContext_run {body : Run CellRef} (outcome r : Except Fault CellRef)
    {ended after : Machine} (computed : body (m.entered s) = (outcome.mapError .fault, ended))
    (finished : finish outcome ended = (r.mapError .fault, after)) :
    runInContext s body m = (r.mapError .fault, { after with context := m.context }) := by
  have attempted : Run.attempt body (m.entered s) = (.ok outcome, ended) := by
    rw [Run.attempt_run, computed]
    cases outcome <;> rfl
  have whole :
      (do finish (← Run.attempt body) : Run CellRef) (m.entered s) =
      (r.mapError .fault, after) := by
    rw [Run.bind_run, attempted]
    exact finished
  rw [runInContext_eq, whole]
  cases r <;> rfl

theorem runInContext_dry {body : Run CellRef} {ended : Machine}
    (dry : body (m.entered s) = (.error .exhausted, ended)) :
    (runInContext s body m).1 = .error .exhausted := by
  have whole :
      (do finish (← Run.attempt body) : Run CellRef) (m.entered s) =
      (.error .exhausted, ended) := by
    rw [Run.bind_run, Run.attempt_run, dry]
  rw [runInContext_eq, whole, Run.leaving_fst]

/-- A run is in its own script until the end. -/
theorem script_of_block {n : Nat} {b : Block} {resume : Option Cursor} {flow : Flow}
    (run : (reentry n).block b resume m = (.ok flow, m')) :
    m'.context.script = m.context.script := by
  obtain ⟨_, -, upheld⟩ := (agrees_upheld ((reentry n).block b resume) m).ends run nofun
  exact upheld.script

theorem runScript_gives (n : Nat) (s : ScriptRef) (m : Machine) :
    RunGives s ((reentry n).block (m.scripts.getD s.index default).main none (m.entered s))
      (runScript (reentry n) s m) := by
  have main : runMain (reentry n) s (m.entered s) =
      ((reentry n).block (m.scripts.getD s.index default).main none >>= valueOfFlow)
      (m.entered s) := rfl
  cases run : (reentry n).block (m.scripts.getD s.index default).main none (m.entered s) with
  | mk r ended =>
    cases r with
    | error stop =>
      have stopped := main.trans (Run.bind_of_error run)
      cases stop with
      | exhausted => exact runInContext_dry stopped
      | fault f =>
        have fatal := block_fatal run
        have unthrown (value : CellRef) :
            (.error f : Except Fault CellRef) ≠ .error (.thrown value) := by
          intro same
          cases same
          cases fatal
        obtain ⟨scripts, finished⟩ := finish_run (.error f) unthrown ended
        rw [runScript, runInContext_run (.error f) (.error f) stopped finished]
        exact ⟨fatal, rfl, rfl⟩
    | ok flow =>
      have own : ended.context.script = s := script_of_block run
      have ends := main.trans (Run.bind_of_ok run)
      have gives (outcome : Except Fault CellRef) {ended' : Machine}
          (computed : valueOfFlow flow ended = (outcome.mapError .fault, ended'))
          (unthrown : ∀ value, outcome ≠ .error (.thrown value)) :
          ∃ scripts, runScript (reentry n) s m =
            (outcome.mapError .fault, { ended' with scripts, context := m.context }) := by
        obtain ⟨scripts, finished⟩ := finish_run outcome unthrown ended'
        exact ⟨scripts, runInContext_run outcome outcome (ends.trans computed) finished⟩
      cases flow with
      | «return» value | yield value _ =>
        obtain ⟨scripts, result⟩ := gives (.ok value) rfl (by simp)
        rw [result]
        exact ⟨rfl, rfl⟩
      | normal | «break» | «continue» =>
        obtain ⟨scripts, result⟩ := gives (.ok ⟨ended.heap.cells.size⟩) rfl (by simp)
        rw [result]
        exact ⟨_, rfl, by simp [Heap.get, Value.null], rfl⟩
      | callcc target _ =>
        obtain ⟨scripts, result⟩ :=
          gives (.error (.runtime (.callccOutside (ended.heap.describe target)))) rfl (by simp)
        rw [result]
        exact ⟨rfl, rfl⟩
      | throw value =>
        obtain ⟨scripts, finished⟩ := finish_thrown value ended
        rw [runScript, runInContext_run (.error (.thrown value)) (.ok _) ends finished, own]
        exact ⟨_, rfl, by simp [Heap.get, Heap.alloc, Value.null], rfl⟩

/-- A run fails with a fatal fault, or when `callcc` leaves the main block, and with nothing else.
What it gives in any other case follows from how the main block has ended, in whatever state the
machine was: the values of `return` and `yield`, the empty value after `break` and `continue`, and
the empty value after a throw, of which each watcher of the script is told once. A fault of a step
that is not fatal, be it of a call that is too deep, is such a throw. -/
theorem runScript_ends (n : Nat) (s : ScriptRef) (m : Machine) :
    (∀ f, (runScript (reentry n) s m).1 = .error (.fault f) → f.isFatal ∨ ∃ target cursor ended,
      (reentry n).block (m.scripts.getD s.index default).main none (m.entered s) =
      (.ok (.callcc target cursor), ended) ∧
      f = .runtime (.callccOutside (ended.heap.describe target))) ∧
    RunGives s ((reentry n).block (m.scripts.getD s.index default).main none (m.entered s))
      (runScript (reentry n) s m) ∧
    ∀ resume i line (m₁ m₂ : Machine) f,
      step (reentry n) resume i { m₁ with context := { m₁.context with line } } =
        (.error (.fault f), m₂) →
      ∀ index rest, Thrown m₂ f
        (steps (step (reentry n)) index resume (.mk line i :: rest) m₁) := by
  have gives := runScript_gives n s m
  refine ⟨fun f fails => ?_, gives, fun _ _ _ _ _ _ fails => steps_thrown fails⟩
  revert gives fails
  rcases (reentry n).block (m.scripts.getD s.index default).main none (m.entered s) with ⟨r, ended⟩
  rcases runScript (reentry n) s m with ⟨result, m'⟩
  rintro gives ⟨⟩
  match r with
  | .error .exhausted => cases gives
  | .error (.fault f') =>
    obtain ⟨fatal, ⟨⟩, -⟩ := gives
    exact .inl fatal
  | .ok (.return _) | .ok (.yield _ _) => cases gives.1
  | .ok .normal | .ok .break | .ok .continue | .ok (.throw _) =>
    obtain ⟨_, ⟨⟩, -⟩ := gives
  | .ok (.callcc target cursor) =>
    obtain ⟨⟨⟩, -⟩ := gives
    exact .inr ⟨target, cursor, ended, rfl, rfl⟩

/-- A program that consists of one flow step, loaded by an engine with one watcher. -/
def loadedFlow (kind : FlowKind) : Machine :=
  (Engine.load (.ofBlock "main" (Body.mk none 1 [.flow kind (some (.literal (.str "x")))]).build)
    (.create .standard (.ofInput []))).2.machine

/-- Whether a block has ended with a throw. -/
def hasThrown : Except Stop Flow → Bool
  | .ok (.throw _) => true
  | _ => false

/-- Whether a run has failed with a fault that is not fatal. -/
def hasMishap : Except Stop CellRef → Bool
  | .error (.fault f) => !f.isFatal
  | _ => false

theorem hasMishap_iff {r : Except Stop CellRef} :
    hasMishap r ↔ ∃ f, r = .error (.fault f) ∧ f.isFatal = false := by
  rcases r with (f | _) | cell <;> simp [hasMishap]

/-- Without anybody to catch it, a throw gives the empty value; a run that fails otherwise has been
left by `callcc`. -/
theorem runScript_ends_flow :
    (∃ cell, (runScript (reentry 5) ⟨0⟩ (loadedFlow .throw)).1 = .ok cell ∧
      (runScript (reentry 5) ⟨0⟩ (loadedFlow .throw)).2.heap.get cell = .null) ∧
    ∃ target cursor ended, (reentry 5).block ((loadedFlow .callcc).scripts.getD 0 default).main none
      ((loadedFlow .callcc).entered ⟨0⟩) = (.ok (.callcc target cursor), ended) := by
  have throws : hasThrown ((reentry 5).block ((loadedFlow .throw).scripts.getD 0 default).main none
      ((loadedFlow .throw).entered ⟨0⟩)).1 := by decide +kernel
  have fails : hasMishap (runScript (reentry 5) ⟨0⟩ (loadedFlow .callcc)).1 := by decide +kernel
  constructor
  · generalize loadedFlow .throw = m at throws ⊢
    obtain ⟨-, gives, -⟩ := runScript_ends 5 ⟨0⟩ m
    revert throws gives
    rcases (reentry 5).block (m.scripts.getD 0 default).main none (m.entered ⟨0⟩) with
      ⟨_ | flow, ended⟩
    · nofun
    · cases flow with
      | throw value =>
        rintro - ⟨cell, result, null, -⟩
        exact ⟨cell, result, null⟩
      | _ => nofun
  · generalize loadedFlow .callcc = m at fails ⊢
    obtain ⟨ends, -, -⟩ := runScript_ends 5 ⟨0⟩ m
    obtain ⟨f, failed, unfatal⟩ := hasMishap_iff.mp fails
    obtain fatal | ⟨target, cursor, ended, run, -⟩ := ends f failed
    · simp [fatal] at unfatal
    · exact ⟨target, cursor, ended, run⟩

/-- At the top level, `callcc` is a fault that is not fatal. -/
theorem runScript_fails_callcc :
    ∃ f, (runScript (reentry 5) ⟨0⟩ (loadedFlow .callcc)).1 = .error (.fault f) ∧
      f.isFatal = false :=
  hasMishap_iff.mp (by decide +kernel)

end Eval

end CellScript
