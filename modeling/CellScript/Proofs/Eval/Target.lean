import CellScript.Eval.Block
import CellScript.Proofs.Eval.Plain
import CellScript.Proofs.Heap.Growth

/-!
# Variables as targets

To find the cell of a variable, cells may be made: the one of a new variable, or one for a function.
Cells that are there keep what they hold. This is so for any computation that adds cells and does
nothing else to them; `Run.Adds` is a class, and a computation adds when instances for its parts are
found.

## Main definitions

* `HeapM.Adds`, `Run.Adds` — computations that add cells.

## Main statements

* `Eval.adds_targetCell_var` — a variable as a target.
-/

namespace CellScript

variable {α β : Type}

/-- A heap operation that adds cells, or does not touch them. -/
class HeapM.Adds (op : HeapM α) : Prop where
  grows : ∀ h : Heap, h.Grows (op h).2

/-- A computation that adds cells, or does not touch them. -/
class Run.Adds (x : Run α) : Prop where
  grows : ∀ m : Machine, m.heap.Grows (x m).2.heap

namespace HeapM.Adds

instance (content : Content) : Adds (cell content) := ⟨fun h => .alloc h _⟩

instance : Adds null := inferInstanceAs (Adds (cell .null))

instance (s : String) : Adds (text s) := inferInstanceAs (Adds (cell (.text s)))

instance (callable : Callable) : Adds (newFunction callable) := ⟨fun _ => .of_cells rfl⟩

instance (mode : MapOrder) : Adds (newTable mode) := ⟨fun _ => .of_cells rfl⟩

instance (cells : List CellRef) : Adds (newSequence cells) where
  grows _ := .of_cells rfl

instance (x : HeapM α) (f : α → HeapM β) [hx : Adds x] [hf : ∀ a, Adds (f a)] : Adds (x >>= f) where
  grows h := by
    have first := hx.grows h
    rw [bind_run]
    rcases run : x h with ⟨_ | a, h'⟩ <;> rw [run] at first
    · exact first
    · exact first.trans ((hf a).grows h')

instance (cells : List CellRef) : Adds (sequence cells) := by
  unfold sequence
  infer_instance

instance (name : String) : Adds (Library.freshCell name) := by
  unfold Library.freshCell
  split <;> infer_instance

end HeapM.Adds

namespace Run.Adds

/-- A computation that leaves the heap alone. -/
theorem of_heap {x : Run α} (same : ∀ m, (x m).2.heap = m.heap) : Adds x :=
  ⟨fun m => .of_cells (by rw [same])⟩

theorem of_reports {x : Run Unit} (reports : Reports x) : Adds x :=
  .of_heap fun m => by
    obtain ⟨logs, run⟩ := reports.run m
    rw [run]

instance (op : HeapM α) [added : op.Adds] : Adds (liftM op : Run α) where
  grows m := by
    have first := added.grows m.heap
    rw [liftM_heap, onHeap_run]
    rcases run : op m.heap with ⟨_ | a, h'⟩ <;> rw [run] at first <;> exact first

instance (a : α) : Adds (pure a) := .of_heap fun _ => rfl

instance (stop : Stop) : Adds (throw stop : Run α) := .of_heap fun _ => rfl

instance (f : Fault) : Adds (Run.fail f : Run α) := .of_heap fun _ => rfl

instance (f : Machine → α) : Adds (ask f) := .of_heap fun _ => rfl

instance (f : Context → α) : Adds (askContext f) := .of_heap fun _ => rfl

instance (f : Heap → α) : Adds (askHeap f) := .of_heap fun _ => rfl

instance (f : Context → Context) : Adds (changeContext f) := .of_heap fun _ => rfl

instance : Adds createFrame := .of_heap fun _ => rfl

instance : Adds killFrame := .of_heap fun _ => rfl

instance (cell : CellRef) : Adds (push cell) := .of_heap fun _ => rfl

instance (x : Run α) (f : α → Run β) [hx : Adds x] [hf : ∀ a, Adds (f a)] : Adds (x >>= f) where
  grows m := by
    have first := hx.grows m
    rw [bind_run]
    rcases run : x m with ⟨_ | a, m'⟩ <;> rw [run] at first
    · exact first
    · exact first.trans ((hf a).grows m')

/-- The same, with a case analysis of what is computed first. -/
theorem andThen {x : Run α} {f : α → Run β} [Adds x] (next : ∀ a, Adds (f a)) : Adds (x >>= f) :=
  inferInstance

instance (x : Run α) [hx : Adds x] : Adds (attempt x) where
  grows m := by
    have first := hx.grows m
    rw [attempt_run]
    rcases run : x m with ⟨(_ | _) | _, m'⟩ <;> rw [run] at first <;> exact first

instance (r : Except Fault α) : Adds (settle r) := by
  cases r <;> simp only [settle_ok, settle_error] <;> infer_instance

end Run.Adds

namespace Eval

open Run (Adds)

variable {self : Reentry}

instance (name : String) : Adds (warnUndeclared name) := .of_reports (reports_warnUndeclared name)

instance (name : String) : Adds (lookup? name) := inferInstanceAs (Adds (Run.ask _))

instance : Adds Run.script := inferInstanceAs (Adds (Run.ask _))

instance (f : Fault) : Adds (Run.messageOf f) := inferInstanceAs (Adds (Run.askHeap _))

instance (name : String) : Adds (functionValue name) := by
  unfold functionValue
  refine .andThen fun script => .andThen fun own => ?_
  dsimp only
  split
  · split <;> infer_instance
  · split
    · infer_instance
    · have : Adds (Run.warn s!"function {name} is not defined") := .of_reports (Run.reports_warn _)
      infer_instance

/-- The cell of a variable that is not there is made. -/
instance (name : String) : Adds (variableCell name) := by
  unfold variableCell
  split
  · infer_instance
  refine .andThen fun cell? => ?_
  split
  · infer_instance
  split
  · infer_instance
  have bound (scope : ScopeChain) (cell : CellRef) :
      Adds (Run.changeHeap (·.putVariable scope.global name cell)) :=
    ⟨fun _ => .of_cells rfl⟩
  infer_instance

instance (line : UInt32) (r : Except Fault Flow) : Adds (flowOfStep line r) := by
  have (message : String) : Adds (Run.reportError message line) :=
    .of_reports (Run.reports_reportError _ _)
  unfold flowOfStep
  split
  · infer_instance
  · infer_instance
  · split <;> infer_instance

theorem adds_steps {perform : Option Cursor → Instruction → Run Flow} {all : List Step}
    (adds : ∀ line instruction resume, .mk line instruction ∈ all →
      Adds (perform resume instruction)) (index : Nat)
    (resume : Option Cursor) : Adds (steps perform index resume all) := by
  induction all generalizing index resume with
  | nil => unfold steps; infer_instance
  | cons first rest ih =>
    obtain ⟨line, instruction⟩ := first
    have := adds line instruction resume List.mem_cons_self
    have (index : Nat) (resume : Option Cursor) :=
      ih (fun line instruction resume later => adds line instruction resume
        (List.mem_cons_of_mem _ later)) index resume
    unfold steps
    refine .andThen fun _ => .andThen fun _ => .andThen fun _ => ?_
    split <;> infer_instance

instance (x : Run Unit) [Adds x] : Adds (thenNormal x) := by
  unfold thenNormal
  infer_instance

instance (source : Option String) (x : Run (Except Fault Flow)) [Adds x] :
    Adds (bracket source x) := by
  unfold bracket
  infer_instance

theorem adds_targetCell {target : Block} [Adds (self.block target none)] :
    Adds (targetCell self target) := by
  have : Adds (intoFrame self target) := by
    unfold intoFrame
    refine .andThen fun _ => .andThen fun _ => .andThen fun _ => .andThen fun _ => .andThen
      fun _ => ?_
    split <;> infer_instance
  unfold targetCell
  refine .andThen fun _ => ?_
  split <;> infer_instance

/-- A variable as a target. -/
theorem adds_targetCell_var (n : Nat) (line : UInt32) (name : String) :
    Adds (targetCell (reentry n) (.mk none (Expr.lower line (.var name)))) := by
  have : Adds ((reentry n).block (.mk none (Expr.lower line (.var name))) none) := by
    cases n with
    | zero => exact inferInstanceAs (Adds (throw _))
    | succ n =>
      have : Adds (steps (step (reentry n)) 0 none (Expr.lower line (.var name))) := by
        refine adds_steps (fun at_ instruction resume only => ?_) 0 none
        cases List.mem_singleton.mp only
        exact inferInstanceAs (Adds (thenNormal do Run.push (← variableCell name)))
      exact inferInstanceAs
        (Adds (bracket none (steps (step (reentry n)) 0 none (Expr.lower line (.var name)))))
  exact adds_targetCell

end Eval

end CellScript
