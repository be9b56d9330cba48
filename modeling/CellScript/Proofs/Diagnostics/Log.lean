import CellScript.Proofs.Diagnostics.Call
import CellScript.Proofs.Engine.Run

/-!
# Logs are written only

What has been written to logs makes no difference to what comes after, the functions that show and
set diagnostics included: none of them reads a log.

## Main definitions

* `Run.SameButLogs` — computations that do the same but for what they write to logs.
* `Run.unlogged` — the relation between such computations.

## Main statements

* `Eval.whole_unlogged` — evaluators do the same whatever has been written to logs.
* `Eval.related_verdict_opposite` — the verdict of a predicate and its opposite differ in their
  traces alone.
-/

namespace CellScript

namespace Run

variable {α β : Type} {x y : Run α} {m : Machine}

/-- Whatever has been written to logs, `y` does the same as `x`, but for what it writes to logs. -/
def SameButLogs (x y : Run α) (m : Machine) : Prop :=
  ∀ logs, ∃ logs', y { m with logs } = ((x m).1, { (x m).2 with logs := logs' })

namespace SameButLogs

theorem of_blind (blind : Blind x) : SameButLogs x x m := by
  intro logs
  obtain ⟨logs', run⟩ := blind.runs m { m.monitor with logs }
  obtain ⟨logs'', kept⟩ := blind.monitor m
  have start : m.under { m.monitor with logs } = { m with logs } :=
    congrArg (fun m : Machine => { m with logs }) (Machine.under_monitor m)
  refine ⟨logs', ?_⟩
  rw [start] at run
  rw [run]
  exact congrArg (fun m : Machine => ((x _).1, { m with logs := logs' })) kept.symm

theorem bind {f g : α → Run β} (h : SameButLogs x y m)
    (next : ∀ a m', x m = (.ok a, m') → SameButLogs (f a) (g a) m') :
    SameButLogs (x >>= f) (y >>= g) m := by
  intro logs
  obtain ⟨logs', run⟩ := h logs
  rw [bind_run, bind_run, run]
  cases first : x m with
  | mk r m₁ =>
    cases r with
    | ok a => exact next a m₁ first logs'
    | error stop => exact ⟨logs', rfl⟩

theorem attempt (h : SameButLogs x y m) : SameButLogs (Run.attempt x) (Run.attempt y) m := by
  intro logs
  obtain ⟨logs', run⟩ := h logs
  refine ⟨logs', ?_⟩
  rw [attempt_run, attempt_run, run]
  rcases x m with ⟨(_ | _) | _, _⟩ <;> rfl

end SameButLogs

/-- Computations that do the same but for what they write to logs. -/
def unlogged : Relation :=
  .plain SameButLogs (fun blind _ _ => .of_blind blind) SameButLogs.bind

instance : unlogged.IsRegular where
  keeps blind _ _ := SameButLogs.of_blind blind
  attempt h _ next := SameButLogs.bind h.attempt next

instance (x y : Run α) [h : Related unlogged x y] :
    Related unlogged (Run.attempt x) (Run.attempt y) :=
  ⟨fun m => (h.holds m).attempt⟩

instance : unlogged.IsWatchful where
  askContext _ _ logs := ⟨logs, rfl⟩
  script _ logs := ⟨logs, rfl⟩
  setFlags _ _ logs := ⟨logs, rfl⟩
  keepFlags _ _ logs := ⟨logs, rfl⟩

end Run

namespace Eval

open Run (SameButLogs unlogged)

variable {m : Machine} {name : String} {x y : Run CellRef} {s s' : Reentry}

theorem sameButLogs_conclude (c : Context) (described described' : Option String)
    (r : Except Fault CellRef) :
    SameButLogs (conclude name c described r) (conclude name c described' r) m := by
  intro logs
  obtain ⟨logs₁, run⟩ := conclude_run name c described r m
  obtain ⟨logs₂, run'⟩ := conclude_run name c described' r { m with logs }
  exact ⟨logs₂, by rw [run, run']; rfl⟩

theorem related_dispatch_unlogged (args : List CellRef) (h : Run.Related unlogged x y) :
    Run.Related unlogged (dispatch name args x) (dispatch name args y) := by
  refine ⟨fun m logs => ?_⟩
  obtain ⟨described, run⟩ := dispatch_run name args m
  obtain ⟨described', run'⟩ := dispatch_run name args { m with logs }
  have context : ({ m with logs } : Machine).context = m.context := rfl
  have calls : ({ m with logs } : Machine).activeCalls = m.activeCalls := rfl
  rw [run, run', context, calls]
  split
  · exact ⟨logs, rfl⟩
  · have called : SameButLogs (Run.attempt x >>= conclude name m.context described)
        (Run.attempt y >>= conclude name m.context described')
        { m with activeCalls := m.activeCalls + 1 } :=
      .bind (.attempt (h.holds _)) fun r _ _ =>
        sameButLogs_conclude m.context described described' r
    exact called logs

theorem sameButLogs_within {α : Type} {x y : Run α} (c : Context)
    (h : SameButLogs x y { m with context := c }) :
    SameButLogs (within c x) (within c y) m := by
  intro logs
  obtain ⟨logs', run⟩ := h logs
  have entered :
      ({ m with logs, context := c } : Machine) =
      { ({ m with context := c } : Machine) with logs } := rfl
  refine ⟨logs', ?_⟩
  rw [Run.within_eq, Run.within_eq, entered, run]
  rcases x { m with context := c } with ⟨(_ | _) | _, _⟩ <;> rfl

theorem related_detached_unlogged {α : Type} {x y : Run α} (script : ScriptRef)
    (h : Run.Related unlogged x y) :
    Run.Related unlogged (newContext script >>= (within · x))
      (newContext script >>= (within · y)) := by
  refine ⟨fun m logs => ?_⟩
  rw [Run.newContext_within, Run.newContext_within]
  exact sameButLogs_within (m := { m with heap := (m.entered script).heap }) _ (h.holds _) logs

/-- The verdict of a predicate, and what it comes to in the opposite form: only their traces
differ. -/
theorem related_verdict_opposite (name : String) (predicate : Predicate) (negated negated' : Bool)
    (args : List CellRef) :
    Run.Related unlogged (verdictOf predicate name negated args)
      ((· != (negated != negated')) <$> verdictOf predicate name negated' args) := by
  refine ⟨fun m logs => ?_⟩
  obtain ⟨described, run⟩ := verdictOf_run predicate name negated args m
  obtain ⟨described', run'⟩ := verdictOf_run predicate name negated' args { m with logs }
  have decides : Run.Related unlogged (predicate.decide name args) (predicate.decide name args) :=
    inferInstance
  obtain ⟨logs', decided⟩ := decides.holds m logs
  rw [← bind_pure_comp, Run.bind_run, run', run, Run.bind_run, Run.bind_run, decided]
  rcases predicate.decide name args m with ⟨stop | holds, m₁⟩
  · exact ⟨logs', rfl⟩
  · obtain ⟨logs₁, told₁⟩ := told_run negated described holds m₁
    obtain ⟨logs₂, told₂⟩ := told_run negated' described' holds { m₁ with logs := logs' }
    dsimp only
    rw [told₁, told₂]
    exact ⟨logs₂, by cases holds <;> cases negated <;> cases negated' <;> rfl⟩

instance : unlogged.IsCarried where
  dispatch _ args h := related_dispatch_unlogged args h
  detached script h := related_detached_unlogged script h
  verdict predicate name negated args := by
    have same := related_verdict_opposite name predicate negated negated args
    simpa using same
  diagnose _ _ args h _ := (related_dispatch_unlogged args (related_diagnostic _ args h)).holds _

instance : Hook.none.Related unlogged Hook.none where
  block _ _ := id
  step _ _ := id
  call := id
  invoke := id
  callBack h := by
    refine .andThen fun result => ?_
    split <;> infer_instance

/-- Evaluators do the same whatever has been written to logs. -/
instance whole_unlogged (n : Nat) : Reentry.Whole unlogged (reentry n) (reentry n) := by
  rw [← hooked_none]
  infer_instance

end Eval

end CellScript
