import CellScript.Proofs.Eval.Related

/-!
# Evaluators with hooks

A hook does something about every block, every step and every call, at any depth of the recursion.
What evaluators do with two hooks can be compared: a relation that is passed on by the hooks holds
of the evaluators as a whole.

## Main definitions

* `Eval.Hook` — what is done about blocks, steps and calls; `Hook.around` does something around all
  of them and `Hook.before` before all blocks.
* `Eval.hooked` — the evaluator with a hook.
* `Eval.Hook.Related` — hooks that pass a relation on.

## Main statements

* `Eval.hooked_none` — without a hook it is the evaluator.
* `Eval.whole_hooked_of`, `Eval.whole_hooked` — evaluators with related hooks are related, if they
  are on functions and handlers.
-/

namespace CellScript.Eval

open Run (Related)

/-- What is done about blocks, steps and calls. -/
structure Hook where
  block : Block → Option Cursor → Run Flow → Run Flow
  step : Option Cursor → Instruction → Run Flow → Run Flow
  call : Run CellRef → Run CellRef
  invoke : Run CellRef → Run CellRef

namespace Hook

/-- Nothing is done. -/
def none : Hook where
  block _ _ x := x
  step _ _ x := x
  call x := x
  invoke x := x

/-- Something is done before each block. -/
def before (act : Block → Option Cursor → Run Unit) : Hook where
  block b resume x := do
    act b resume
    x
  step _ _ x := x
  call x := x
  invoke x := x

/-- On top of a hook, the same is done around all blocks, steps and calls. -/
def around (act : {α : Type} → Run α → Run α) (h : Hook) : Hook where
  block b resume x := act (h.block b resume x)
  step resume i x := act (h.step resume i x)
  call x := act (h.call x)
  invoke x := act (h.invoke x)

end Hook

/-- A step with a hook. -/
def hookedStep (h : Hook) (self : Reentry) (resume : Option Cursor) (i : Instruction) : Run Flow :=
  h.step resume i (step self resume i)

/-- The evaluator with a hook. -/
def hooked (h : Hook) : Nat → Reentry
  | 0 => reentry 0
  | n + 1 =>
    let self := hooked h n
    { rounds := n
      block := fun b resume => h.block b resume (blockBy (hookedStep h self) b resume)
      call := fun target message args => h.call (callValue self target message args)
      invoke := fun f message args => h.invoke (invoke self f message args) }

theorem hooked_none (n : Nat) : hooked .none n = reentry n := by
  induction n with
  | zero => rfl
  | succ n ih =>
    rw [hooked, ih]
    rfl

/-- Hooks that pass a relation on, also where host code calls back. -/
class Hook.Related (ρ : Run.Relation) (h h' : Hook) : Prop where
  block : ∀ {x y : Run Flow} (b : Block) (resume : Option Cursor), Run.Related ρ x y →
    Run.Related ρ (h.block b resume x) (h'.block b resume y)
  step : ∀ {x y : Run Flow} (resume : Option Cursor) (i : Instruction), Run.Related ρ x y →
    Run.Related ρ (h.step resume i x) (h'.step resume i y)
  call : ∀ {x y : Run CellRef}, Run.Related ρ x y → Run.Related ρ (h.call x) (h'.call y)
  invoke : ∀ {x y : Run CellRef}, Run.Related ρ x y → Run.Related ρ (h.invoke x) (h'.invoke y)
  callBack : ∀ {s s' : Reentry} {f : FunctionRef} {message : Option String} {args : List CellRef},
    Run.Related ρ (s.invoke f message args) (s'.invoke f message args) →
    Host.Related ρ (Host.callBack s f message args) (Host.callBack s' f message args)

/-- Evaluators with related hooks are related, at each depth because they are at the one below, if
that makes them related on functions and where throws are caught. -/
theorem whole_hooked_of {ρ : Run.Relation} [ρ.IsScoped] [ρ.IsAttentive] [ρ.IsRecording]
    {h h' : Hook} [related : h.Related ρ h']
    (calls : ∀ n, Reentry.Whole ρ (hooked h n) (hooked h' n) →
      Reentry.Functions ρ (hooked h n) (hooked h' n) ∧
      Reentry.Handlers ρ (hooked h n) (hooked h' n)) (n : Nat) :
    Reentry.Whole ρ (hooked h n) (hooked h' n) := by
  induction n with
  | zero =>
    have stopped {α : Type} : Related ρ (throw .exhausted : Run α) (throw .exhausted) :=
      inferInstance
    exact
      { rounds := rfl
        block := fun _ _ => stopped
        call := fun _ _ _ => stopped
        invoke := fun _ _ _ => stopped
        callBack := fun _ _ _ => related.callBack stopped }
  | succ n ih =>
    obtain ⟨functions, handlers⟩ := calls n ih
    have stepped (resume : Option Cursor) (i : Instruction) :
        Related ρ (hookedStep h (hooked h n) resume i) (hookedStep h' (hooked h' n) resume i) :=
      related.step resume i (related_step resume i)
    have invoked (f : FunctionRef) (message : Option String) (args : List CellRef) :
        Related ρ ((hooked h (n + 1)).invoke f message args)
          ((hooked h' (n + 1)).invoke f message args) :=
      related.invoke inferInstance
    exact
      { rounds := rfl
        block := fun b resume => related.block b resume (related_blockBy stepped b resume)
        call := fun target message args => related.call inferInstance
        invoke := invoked
        callBack := fun f message args => related.callBack (invoked f message args) }

/-- Evaluators with related hooks are related. -/
instance whole_hooked {ρ : Run.Relation} [ρ.IsAttentive] [ρ.IsRecording] [ρ.IsCarried]
    {h h' : Hook} [h.Related ρ h'] (n : Nat) : Reentry.Whole ρ (hooked h n) (hooked h' n) :=
  whole_hooked_of (fun _ _ => ⟨inferInstance, inferInstance⟩) n

end CellScript.Eval
