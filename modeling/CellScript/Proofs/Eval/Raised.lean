import CellScript.Proofs.Run.General

/-!
# Throws as faults

A block ends in a throw as a flow, a call as a fault. What is done about the end of a block is
mostly the same for both, so evaluators can be compared with the throws of their blocks raised as
faults.

## Main definitions

* `Eval.raise` — a computation whose throws are faults.
* `Reentry.Parts` — evaluators with related calls, and with related blocks when throws are raised.

## Main statements

* `Eval.attempt_raise` — what is made of a throw as of the fault is made of the computation that
  raises it.
-/

namespace CellScript

namespace Eval

open Run (Related Passes)

variable {α : Type} {ρ : Run.Relation}

/-- A throw is raised as a fault. -/
def raised : Flow → Run Flow
  | .throw value => Run.fail (.thrown value)
  | flow => return flow

/-- A computation whose throws are raised as faults. -/
def raise (x : Run Flow) : Run Flow :=
  x >>= raised

theorem raise_run (x : Run Flow) (m : Machine) :
    raise x m = match x m with
      | (.ok (.throw value), m) => (.error (.fault (.thrown value)), m)
      | ended => ended := by
  unfold raise
  rw [Run.bind_run]
  rcases x m with ⟨_ | flow, m'⟩
  · rfl
  · cases flow <;> rfl

@[simp] theorem raise_bind (x : Run α) (f : α → Run Flow) :
    raise (x >>= f) = x >>= fun a => raise (f a) :=
  bind_assoc _ _ _

@[simp] theorem raise_pure (flow : Flow) : raise (pure flow) = raised flow :=
  pure_bind _ _

@[simp] theorem raise_fail (f : Fault) : raise (Run.fail f) = Run.fail f := rfl

/-- Where the same is done about a throw as about the fault. -/
theorem attempt_raise {x : Run Flow} {k : Except Fault Flow → Run α}
    (h : ∀ value, k (.ok (.throw value)) = k (.error (.thrown value))) :
    Run.attempt x >>= k = Run.attempt (raise x) >>= k := by
  funext m
  rw [Run.bind_run, Run.bind_run, Run.attempt_run, Run.attempt_run, raise_run]
  rcases x m with ⟨(_ | _) | flow, m'⟩
  · rfl
  · rfl
  · cases flow with
    | throw value => exact congrFun (h value) m'
    | normal | «return» _ | «break» | «continue» | yield _ _ | callcc _ _ => rfl

/-- Where a throw is a fault for what goes on. -/
theorem bind_raise {x : Run Flow} {f : Flow → Run α}
    (h : ∀ value, f (.throw value) = Run.fail (.thrown value)) :
    x >>= f = raise x >>= f := by
  unfold raise
  rw [bind_assoc]
  refine bind_congr fun flow => ?_
  cases flow with
  | throw value => exact h value
  | normal | «return» _ | «break» | «continue» | yield _ _ | callcc _ _ =>
    exact (pure_bind _ _).symm

instance (flow : Flow) : Related ρ (raised flow) (raised flow) := by
  cases flow <;> unfold raised <;> infer_instance

/-- Related computations are related with their throws raised. -/
instance related_raise (x y : Run Flow) [h : Related ρ x y] : Related ρ (raise x) (raise y) :=
  .seq h fun _ => inferInstance

/-- A computation whose throws are faults for what goes on. -/
theorem related_onFlow {x y : Run Flow} {f g : Flow → Run α}
    [raising : Related ρ (raise x) (raise y)] (h : ∀ flow, Related ρ (f flow) (g flow))
    (alike : ∀ value, f (.throw value) = Run.fail (.thrown value) := by exact fun _ => rfl)
    (alike' : ∀ value, g (.throw value) = Run.fail (.thrown value) := by exact fun _ => rfl) :
    Related ρ (x >>= f) (y >>= g) := by
  rw [bind_raise (x := x) alike, bind_raise (x := y) alike']
  exact .seq raising h

/-- A computation whose faults and throws are passed on. -/
theorem related_passFlow [ρ.IsLocal] {x y : Run Flow} {k : Except Fault Flow → Run α}
    [raising : Related ρ (raise x) (raise y)] (passes : Passes k) (h : ∀ r, Related ρ (k r) (k r))
    (alike : ∀ value, k (.ok (.throw value)) = k (.error (.thrown value)) := by
      exact fun _ => rfl) :
    Related ρ (Run.attempt x >>= k) (Run.attempt y >>= k) := by
  rw [attempt_raise (x := x) alike, attempt_raise (x := y) alike]
  exact .passThen passes h

end Eval

/-- Two evaluators that are related on calls, and on blocks with throws raised as faults. -/
class Reentry.Parts (ρ : Run.Relation) (s s' : Reentry) :
    Prop extends Reentry.RelatedCalls ρ s s' where
  rounds : s.rounds = s'.rounds
  block : ∀ b resume, Run.Related ρ (Eval.raise (s.block b resume)) (Eval.raise (s'.block b resume))

attribute [instance] Reentry.Parts.block

instance (priority := low) {ρ : Run.Relation} {s s' : Reentry} [Reentry.Whole ρ s s'] :
    Reentry.Parts ρ s s' where
  rounds := Reentry.Whole.rounds ρ
  block _ _ := inferInstance

end CellScript
