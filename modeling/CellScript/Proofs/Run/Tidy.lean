import CellScript.Proofs.Run.Relation

/-!
# Tidy computations

`Run.Tidy lax x y` says that `x` and `y` do the same from every sound machine and that they leave
the machine sound, with the context as it was. Library functions, calls and what they are made of
are tidy. This is a relation that sequencing passes on, so what is related for every such relation
is tidy.

## Main definitions

* `Run.tidy` — the relation.
* `Run.Tidy` — computations that leave the context as it was.
* `Reentry.TidyCalls` — evaluators that agree on calls, which are tidy.

## Main statements

* `Run.Tidy.of_quiet` — what concerns neither code nor the stacks of the context is tidy.
* `Run.Tidy.of_related` — what is made of related parts is tidy.
-/

namespace CellScript

namespace Run

variable {α β σ : Type} {lax : Prop}

/-- Two computations do the same from a sound machine, and the context is afterwards as it was. -/
def tidy (lax : Prop) : Relation :=
  .plain (fun x y m => m.Sound → Agrees lax x y m.Left m)
    (fun _ serves _ hm => .inr ⟨rfl, .of_forall fun _ => .of_leaves (serves.quiet.leaves hm)⟩)
    fun hx hf hm => (hx hm).andAfter
      (fun a m' run left => (hf a m' run left.sound).mono fun _ _ => .after left) fun _ _ h => h

instance : (tidy lax).IsSighted where
  serves serves _ hm := .inr ⟨rfl, .of_forall fun _ => .of_leaves (serves.quiet.leaves hm)⟩

instance : (tidy lax).IsRecording where
  throwText {description text m} hm :=
    .inr
      ⟨rfl, .of_forall fun _ => .of_leaves
        ((Host.serves_throwText description text m).quiet.leaves hm)⟩

/-- `x` and `y` do the same from every sound machine, and the context is afterwards as it was. -/
class Tidy (lax : Prop) (x y : Run α) : Prop where
  agrees : ∀ m : Machine, m.Sound → Agrees lax x y m.Left m

instance (priority := low) Tidy.of_related (x y : Run α) [h : Related (tidy lax) x y] :
    Tidy lax x y :=
  ⟨h.holds⟩

/-- A computation that changes neither code nor the stacks of the context. -/
theorem Tidy.of_quiet {x : Run α} (h : ∀ m : Machine, m.Quiet (x m).2) : Tidy lax x x :=
  ⟨fun m hm => .inr ⟨rfl, .of_forall fun _ => .of_leaves ((h m).leaves hm)⟩⟩

instance Tidy.bind (x y : Run α) (f g : α → Run β) [hx : Tidy lax x y]
    [hf : ∀ a, Tidy lax (f a) (g a)] :
    Tidy lax (x >>= f) (y >>= g) where
  agrees m hm := by
    refine .andThen (hx.agrees m hm) (fun a m' h => ?_) fun f m' h => h
    exact ((hf a).agrees m' h.sound).mono fun r m'' h' => .after h h'

/-- A computation and one that depends on its result. -/
theorem Tidy.seq {x y : Run α} {f g : α → Run β} (hx : Tidy lax x y)
    (hf : ∀ a, Tidy lax (f a) (g a)) :
    Tidy lax (x >>= f) (y >>= g) := inferInstance

/-- The same when the first computation is known to be tidy. -/
theorem Tidy.andThen {x y : Run α} {f g : α → Run β} [Tidy lax x y]
    (h : ∀ a, Tidy lax (f a) (g a)) :
    Tidy lax (x >>= f) (y >>= g) := inferInstance

/-- A computation is tidy when it is while its faults are looked at. -/
theorem Tidy.of_attempt {x y : Run α} (h : Tidy lax (attempt x) (attempt y)) : Tidy lax x y := by
  rw [← attempt_settle x, ← attempt_settle y]
  infer_instance

instance (c : Prop) [Decidable c] (x y x' y' : Run α) [Tidy lax x y] [Tidy lax x' y'] :
    Tidy lax (if c then x else x') (if c then y else y') := by
  split <;> infer_instance

/-- A heap operation that binds names in one container. -/
theorem Tidy.binds (but : Option VarsRef) (op : HeapM α) [hop : op.CalmBut but] :
    Tidy lax (liftM op : Run α) (liftM op) := by
  refine .of_quiet fun m => ?_
  have functions := hop.functions m.heap
  rw [liftM_heap, onHeap_run]
  rcases run : op m.heap with ⟨_ | _, h⟩ <;> rw [run] at functions <;> dsimp only at functions <;>
    exact ⟨by simp only [Machine.code, functions], rfl, rfl, rfl, rfl⟩

instance (vars : VarsRef) (name : String) (cell : CellRef) :
    Tidy lax (changeHeap (·.putVariable vars name cell))
      (changeHeap (·.putVariable vars name cell)) :=
  .of_quiet fun _ => ⟨rfl, rfl, rfl, rfl, rfl⟩

/-- A heap operation that leaves functions alone and cannot fail. -/
theorem agrees_total {op : HeapM α} (but : Option VarsRef) [hop : op.CalmBut but]
    (total : ∀ h, ∃ a h', op h = (.ok a, h')) {f g : α → Run β} {post : Post β} {m : Machine}
    (next : ∀ a m', m.Quiet m' → m'.context = m.context → Agrees lax (f a) (g a) post m') :
    Agrees lax (liftM op >>= f) (liftM op >>= g) post m := by
  obtain ⟨a, h, run⟩ := total m.heap
  have functions : h.functions = m.heap.functions := by
    have same := hop.functions m.heap
    rwa [run] at same
  refine .bind (.inr ⟨rfl, ?_⟩)
  rw [liftM_heap, onHeap_run, run]
  exact next a _ ⟨by simp only [Machine.code, functions], rfl, rfl, rfl, rfl⟩ rfl

/-- A change of a script that leaves its code alone. -/
theorem Tidy.changeOwnScript {f : Script → Script}
    (h : ∀ script, (f script).main = script.main ∧ (f script).environment = script.environment) :
    Tidy lax (changeOwnScript f) (changeOwnScript f) :=
  .of_quiet fun m => ⟨m.code_modify m.context.script h, rfl, rfl, rfl, rfl⟩

end Run

/-! ## Evaluators -/

open Run (Tidy)

/-- Two evaluators agree on calls, and calls are tidy. A call that the host makes leaves the context
alone even when it fails, which is what a caller that looks at the fault relies on. -/
class Reentry.TidyCalls (lax : Prop) (s s' : Reentry) : Prop where
  call : ∀ target message args, Tidy lax (s.call target message args) (s'.call target message args)
  attemptInvoke : ∀ f message args,
    Tidy lax (Run.attempt (s.invoke f message args)) (Run.attempt (s'.invoke f message args))

variable {lax : Prop} {s s' : Reentry}

/-- Tidy calls are related by tidiness. -/
instance [h : Reentry.TidyCalls lax s s'] : Reentry.Related (Run.tidy lax) s s' where
  call target message args := ⟨(h.call target message args).agrees⟩
  invoke f message args := ⟨(Tidy.of_attempt (h.attemptInvoke f message args)).agrees⟩
  callBack f message args := by
    have attempted : Run.Related (Run.tidy lax) (Run.attempt (s.invoke f message args))
        (Run.attempt (s'.invoke f message args)) := ⟨(h.attemptInvoke f message args).agrees⟩
    refine .andThen fun result => ?_
    split <;> infer_instance

end CellScript
