import CellScript.Proofs.Throw.Block

/-!
# Throws into handlers

What a throw has passed through is kept for the handler that catches it, which begins without a
trace.

## Main definitions

* `Eval.handlerStart` — where the handler of a thrown value begins.
* `Reentry.AgreeOnBodies` — evaluators that run bodies in the same way and leave no trace of what
  was not thrown.

## Main statements

* `Eval.tryBodyOn_throw`, `Eval.tryBodyOn_ends` — bodies with handlers from their beginning to their
  end.
* `Eval.related_tryBlockOn` — bodies with handlers leave no trace but that of throws.
-/

namespace CellScript

/-- Two evaluators that run blocks in the same way where there is no trace, leave none of what was
not thrown, and only fail fatally. -/
structure Reentry.AgreeOnBodies (s s' : Reentry) : Prop where
  same : ∀ b resume m, m.context.trace = [] → s.block b resume m = s'.block b resume m
  trace : ∀ b resume m flow m', m.context.trace = [] → s.block b resume m = (.ok flow, m') →
    (∀ value, flow ≠ .throw value) → m'.context.trace = []
  fatal : ∀ b resume m f m', s.block b resume m = (.error (.fault f), m') → f.isFatal

namespace Eval

open Run (Related traced Traced Traces Clear)

variable {host host' s s' : Reentry} {body handler : Block} {var : String} {inner : Option Cursor}
  {m m' : Machine}

/-- Where a body has ended that has begun in `m`: as many handlers are active as before. -/
def bodyLeft (m m' : Machine) (logs : Array (List Warning)) : Machine :=
  { m' with
    logs
    context :=
      { m'.context with handlers := truncateStack m'.context.handlers m.context.handlers.length } }

/-- Where the handler begins of a body that has begun in `m` and has thrown in `m'`. -/
def handlerStart (var : String) (value : CellRef) (m m' : Machine) (logs : Array (List Warning)) :
    Machine :=
  caught var value (bodyLeft m m' logs)

theorem tryBodyOn_run (self : Reentry) :
    tryBodyOn host self body handler var inner m =
      (Run.attempt (host.block body inner) >>= bodyEnd self handler var m.context.handlers.length)
        (handled var m) := rfl

/-- A throw out of a body starts the handler. All that is told of it is a trace. -/
theorem tryBodyOn_throw (body handler : Block) (var : String) (inner : Option Cursor)
    (value : CellRef) (m m' : Machine) :
    ∃ notes : List (ScriptRef × Warning), (∀ note ∈ notes, note.2.trace) ∧
      ∀ host self, host.block body inner (handled var m) = (.ok (.throw value), m') →
        tryBodyOn host self body handler var inner m =
          runHandler self handler none (handlerStart var value m m' (m'.noted notes)) := by
  obtain ⟨notes, traces, ended⟩ :=
      bodyEnd_run handler var m.context.handlers.length (.ok (.throw value)) m'
  refine ⟨notes, traces, fun host self threw => ?_⟩
  rw [tryBodyOn_run, Run.bind_run, Run.attempt_run, threw]
  dsimp only
  rw [ended]
  exact catchThrow_run self value _

/-- Nothing is caught of a body that ends in another way. -/
theorem tryBodyOn_ends (body handler : Block) (var : String) (inner : Option Cursor)
    (r : Except Stop Flow) (m m' : Machine) (calm : ∀ value, r ≠ .ok (.throw value)) :
    ∃ after, after.context.trace = m'.context.trace ∧
      ∀ host self, host.block body inner (handled var m) = (r, m') →
        tryBodyOn host self body handler var inner m = (r.map (·.through 0), after) := by
  rcases r with (f | _) | flow
  · obtain ⟨notes, -, ended⟩ := bodyEnd_run handler var m.context.handlers.length (.error f) m'
    refine ⟨bodyLeft m m' (m'.noted notes), rfl, fun host self ran => ?_⟩
    rw [tryBodyOn_run, Run.bind_run, Run.attempt_run, ran]
    exact ended self
  · refine ⟨m', rfl, fun host self ran => ?_⟩
    rw [tryBodyOn_run, Run.bind_run, Run.attempt_run, ran]
    rfl
  · obtain ⟨notes, -, ended⟩ := bodyEnd_run handler var m.context.handlers.length (.ok flow) m'
    refine ⟨bodyLeft m m' (m'.noted notes), rfl, fun host self ran => ?_⟩
    rw [tryBodyOn_run, Run.bind_run, Run.attempt_run, ran]
    dsimp only
    rw [ended]
    cases flow with
    | throw value => exact absurd rfl (calm value)
    | normal | «return» _ | «break» | «continue» | yield _ _ | callcc _ _ => rfl

variable {mark? : Option Mark} {p : CallPath}

/-- A body leaves no trace for its handler to begin with. -/
theorem related_tryBodyOn [Reentry.Parts (traced mark? p) s s'] (bodies : host.AgreeOnBodies host')
    (body handler : Block) (var : String) (inner : Option Cursor) :
    Related (traced mark? p) (raise (tryBodyOn host s body handler var inner))
      (raise (tryBodyOn host' s' body handler var inner)) := by
  refine ⟨fun m empty => ?_⟩
  have same : host.block body inner (handled var m) = host'.block body inner (handled var m) :=
    bodies.same _ _ _ empty
  cases ended : host.block body inner (handled var m) with
  | mk r m' =>
    have ended' := same.symm.trans ended
    by_cases threw : ∃ value, r = .ok (.throw value)
    · obtain ⟨value, rfl⟩ := threw
      obtain ⟨notes, -, starts⟩ := tryBodyOn_throw body handler var inner value m m'
      have ran :
          Related (traced mark? p) (raise (runHandler s handler none))
            (raise (runHandler s' handler none)) :=
        related_runHandler handler none
      have traces := ran.holds (handlerStart var value m m' (m'.noted notes)) rfl
      rw [raise_run, raise_run] at traces ⊢
      rw [starts host s ended, starts host' s' ended']
      exact traces
    · have calm : ∀ value, r ≠ .ok (.throw value) := fun value thrown => threw ⟨value, thrown⟩
      obtain ⟨after, trace, passed⟩ := tryBodyOn_ends body handler var inner r m m' calm
      rw [raise_run, raise_run, passed host s ended, passed host' s' ended']
      refine .same ?_
      rcases r with (f | _) | flow
      · exact fun _ catchable => absurd (bodies.fatal _ _ _ _ _ ended) catchable
      · trivial
      · have unthrown (value : CellRef) (thrown : flow = .throw value) :=
          calm value (congrArg Except.ok thrown)
        have clear : after.context.trace = [] :=
          trace.trans (bodies.trace _ _ (handled var m) _ _ empty ended unthrown)
        cases flow with
        | throw value => exact absurd rfl (calm value)
        | normal | «return» _ | «break» | «continue» | yield _ _ | callcc _ _ => exact clear

theorem related_tryBlockOn [Reentry.Parts (traced mark? p) s s'] (bodies : host.AgreeOnBodies host')
    (body handler : Block) (var : String) (resume : Option Cursor) :
    Related (traced mark? p) (raise (tryBlockOn host s body handler var resume))
      (raise (tryBlockOn host' s' body handler var resume)) := by
  unfold tryBlockOn
  split
  · exact related_runHandler handler _
  · exact related_tryBodyOn bodies body handler var _

end Eval

/-! ## Bodies -/

/-- What a computation that only fails fatally has ended with, when its throws have been raised. -/
def Eval.lowered : Except Stop Flow × Machine → Except Stop Flow × Machine
  | (.error (.fault (.thrown value)), m) => (.ok (.throw value), m)
  | ended => ended

theorem Eval.lowered_raise {x : Run Flow} {m : Machine}
    (fatal : ∀ f m', x m = (.error (.fault f), m') → f.isFatal) :
    lowered (raise x m) = x m := by
  rw [raise_run]
  rcases run : x m with ⟨(f | _) | flow, m'⟩
  · cases f with
    | thrown value => cases fatal _ _ run
    | fatal _ | taintViolation _ | badIndex _ | badCast _ | nullDereference _
    | concurrentModification _ | runtime _
    | timeout _ => rfl
  · rfl
  · cases flow <;> rfl

/-- Evaluators whose blocks are the same with throws raised, and only fail fatally, agree on
bodies. -/
theorem Reentry.AgreeOnBodies.of_parts {s s' : Reentry} {p : CallPath}
    [Reentry.Parts (Run.traced none p) s s']
    (fatal : ∀ b resume m f m', s.block b resume m = (.error (.fault f), m') → f.isFatal)
    (fatal' : ∀ b resume m f m', s'.block b resume m = (.error (.fault f), m') → f.isFatal) :
    s.AgreeOnBodies s' := by
  have traces (b : Block) (resume : Option Cursor) {m : Machine} (empty : m.context.trace = []) :
      Eval.raise (s.block b resume) m = Eval.raise (s'.block b resume) m ∧
        Run.Clear none (Eval.raise (s.block b resume) m) := by
    have related :
        Run.Related (Run.traced none p) (Eval.raise (s.block b resume))
          (Eval.raise (s'.block b resume)) :=
      inferInstance
    have traces := related.holds m empty
    generalize Eval.raise (s.block b resume) m = e, Eval.raise (s'.block b resume) m = e' at traces
    cases traces with
    | same clear => exact ⟨rfl, clear⟩
    | unwound given => cases given
  refine ⟨fun b resume m empty => ?_, fun b resume m flow m' empty run calm => ?_, fatal⟩
  · rw [← Eval.lowered_raise (fatal b resume m), ← Eval.lowered_raise (fatal' b resume m),
      (traces b resume empty).1]
  · have clear := (traces b resume empty).2
    rw [Eval.raise_run, run] at clear
    cases flow with
    | throw value => exact absurd rfl (calm value)
    | normal | «return» _ | «break» | «continue» | yield _ _ | callcc _ _ => exact clear

end CellScript
