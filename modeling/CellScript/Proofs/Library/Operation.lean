import CellScript.Library.Operator
import CellScript.Library.Predicate
import CellScript.Machine.Policy
import CellScript.Proofs.Heap.Walk
import CellScript.Proofs.Run.Relation

/-!
# Operators, predicates and elements

What a step does to its operands is related as the calls are that it makes: the policies of a map
may be functions of a script.

## Main statements

* Instances of `Run.Related` for `Run.propagate`, `Table.put`, `elementAt`, `Operator.apply` and
  `Predicate.decide`.
-/

namespace CellScript

open Run (Related)

variable {ρ : Run.Relation} {s s' : Reentry}

/-! ## Taint -/

namespace Heap

theorem Remarked.spares {h h' : Heap} (r : h.Remarked h') : h.Spares h' := by
  obtain ⟨cells, -, rfl⟩ := r
  exact ⟨rfl, rfl, rfl⟩

theorem spares_taintDeep (h : Heap) (cell : CellRef) : h.Spares (h.taintDeep cell) :=
  (h.remarked_walk .marking cell).spares

theorem spares_sanitizeDeep (h : Heap) (cell : CellRef) : h.Spares (h.sanitizeDeep cell) :=
  (h.remarked_walk .clearing cell).spares

end Heap

instance (cell : CellRef) : HeapM.Calm (HeapM.change (·.taintDeep cell)) :=
  .of_spares fun h => h.spares_taintDeep cell

instance (cell : CellRef) : HeapM.Calm (HeapM.change (·.sanitizeDeep cell)) :=
  .of_spares fun h => h.spares_sanitizeDeep cell

instance (cell : CellRef) : HeapM.Calm (HeapM.taintedCopy cell) :=
  inferInstanceAs (HeapM.Calm (_ >>= _))

instance (cell : CellRef) : HeapM.Calm (HeapM.sanitizedCopy cell) :=
  inferInstanceAs (HeapM.Calm (_ >>= _))

instance (cells : List CellRef) (cell : CellRef) (what : String) :
    Related ρ (Run.propagate cells cell what) (Run.propagate cells cell what) := by
  unfold Run.propagate
  infer_instance

instance (name : String) (args : List CellRef) :
    Related ρ (Run.refuseTainted name args) (Run.refuseTainted name args) := by
  refine .andThen fun found => ?_
  split <;> infer_instance

instance (name : String) (cell : CellRef) :
    Related ρ (Run.taintResult name cell) (Run.taintResult name cell) :=
  have : Related ρ (Run.changeHeap (·.taintDeep cell)) (Run.changeHeap (·.taintDeep cell)) :=
    .changeHeap fun h => h.spares_taintDeep cell
  inferInstanceAs (Related ρ (_ >>= _) (_ >>= _))

instance (cell : CellRef) : Related ρ (Run.cleanResult cell) (Run.cleanResult cell) :=
  have : Related ρ (Run.changeHeap (·.untaint cell)) (Run.changeHeap (·.untaint cell)) :=
    .changeHeap fun _ => ⟨rfl, rfl, rfl⟩
  inferInstanceAs (Related ρ (_ >>= _) (_ >>= _))

/-! ## Maps and elements -/

section Policies

variable [Reentry.RelatedCalls ρ s s']

instance (t : TableRef) (key : String) (cell : CellRef) (policy : RemovalPolicy) :
    Related ρ (policy.verdict s t key cell) (policy.verdict s' t key cell) := by
  cases policy <;> unfold RemovalPolicy.verdict <;> infer_instance

/-- A step that keeps the map sound that it is made in. -/
theorem Run.serves_modifyTable {m : Machine} {t : TableRef} {step : Table → Table}
    (kept : (m.heap.table t).Sound → (step (m.heap.table t)).Sound) :
    m.Serves (Run.changeHeap (·.modifyTable t step) m).2 :=
  .of_heap rfl (.of_vars rfl) fun sound => sound.modifyTable (kept (sound t))

instance (t : TableRef) (step : Table → Table) [kept : Table.Keeps step] :
    Related ρ (Run.changeHeap (·.modifyTable t step)) (Run.changeHeap (·.modifyTable t step)) :=
  .of_serves fun _ => Run.serves_modifyTable (kept.sound _)

instance (t : TableRef) : Related ρ (Table.evict s t) (Table.evict s' t) := by
  refine .andThen fun candidate => ?_
  split
  · infer_instance
  · rename_i cell?
    cases cell? <;> exact .andThen fun cell => inferInstance

/-- A new key that is added where it was just looked for, and what the removal policy makes of
that. -/
theorem Table.holds_append {m : Machine} {t : TableRef} {key : String}
    (absent : (m.heap.table t).entries.get? key = none) (cell : CellRef) {α : Type}
    {f g : Unit → Run α} [hf : ∀ u, Related ρ (f u) (g u)] :
    ρ.holds (Run.changeHeap (·.modifyTable t (·.append key cell)) >>= f)
      (Run.changeHeap (·.modifyTable t (·.append key cell)) >>= g) m :=
  ρ.bind (ρ.serves inferInstance (Run.serves_modifyTable fun sound => sound.append absent cell)
    (.of_same rfl))
    fun u m' _ => (hf u).holds m'

instance (t : TableRef) (key : String) (cell : CellRef) :
    Related ρ (Table.put s t key cell) (Table.put s' t key cell) := by
  refine .flow fun m entry? m' run => ?_
  obtain ⟨rfl, rfl⟩ : (m.heap.table t).entries.get? key = entry? ∧ m = m' := by
    cases run
    exact ⟨rfl, rfl⟩
  cases found : (m.heap.table t).entries.get? key with
  | some entry =>
    exact ρ.serves inferInstance (Run.serves_modifyTable fun sound => sound.replace found cell)
      (.of_same rfl)
  | none => exact Table.holds_append found cell

instance (t : TableRef) (key : String) (policy : MissPolicy) :
    Related ρ (policy.materialize s t key) (policy.materialize s' t key) := by
  cases policy <;> unfold MissPolicy.materialize <;> infer_instance

instance (t : TableRef) (key : String) :
    Related ρ (Table.getOrCreate s t key) (Table.getOrCreate s' t key) := by
  have added (made : CellRef) : Related ρ
      (Run.askHeap (fun h => (h.table t).peek key) >>= fun
        | some cell => pure cell
        | none => do
          Run.changeHeap fun h => h.modifyTable t (·.append key made)
          Table.evict s t
          return made)
      (Run.askHeap (fun h => (h.table t).peek key) >>= fun
        | some cell => pure cell
        | none => do
          Run.changeHeap fun h => h.modifyTable t (·.append key made)
          Table.evict s' t
          return made) := by
    refine .flow fun m cell? m' run => ?_
    obtain ⟨rfl, rfl⟩ : (m.heap.table t).peek key = cell? ∧ m = m' := by
      cases run
      exact ⟨rfl, rfl⟩
    cases held : (m.heap.table t).peek key with
    | some cell => exact ρ.serves inferInstance (.refl m) (.of_same rfl)
    | none => exact Table.holds_append (Option.map_eq_none_iff.mp held) made
  refine .andThen fun cell? => ?_
  split
  · infer_instance
  · refine .andThen fun policy? => ?_
    cases policy? with
    | none => exact .andThen added
    | some policy => exact .andThen added

instance (content : Content) (index : CellRef) :
    Related ρ (elementOf s content index) (elementOf s' content index) := by
  unfold elementOf
  split
  · infer_instance
  · infer_instance
  · refine .andThen fun i => ?_
    split <;> infer_instance
  · infer_instance

instance (container index : CellRef) :
    Related ρ (elementAt s container index) (elementAt s' container index) := by
  refine .andThen fun content => ?_
  split <;> infer_instance

end Policies

/-! ## Operators and predicates -/

instance (symbol : String) (args : List CellRef) :
    Related ρ (Operator.operands symbol args) (Operator.operands symbol args) := by
  unfold Operator.operands
  split <;> infer_instance

instance (op : Operator) (symbol : String) (args : List CellRef) :
    Related ρ (op.apply symbol args) (op.apply symbol args) := by
  unfold Operator.apply
  split
  · infer_instance
  · infer_instance
  · refine .andThen fun operands => .andThen fun h => ?_
    split
    · split <;> infer_instance
    all_goals infer_instance

instance (source : String) : Related ρ (compilePattern source) (compilePattern source) := by
  unfold compilePattern
  split <;> infer_instance

instance (name : String) (args : List CellRef) :
    Related ρ (Predicate.operands name args) (Predicate.operands name args) := by
  unfold Predicate.operands
  split <;> infer_instance

instance (p : Predicate) (name : String) (args : List CellRef) :
    Related ρ (p.decide name args) (p.decide name args) := by
  refine .andThen fun h => ?_
  cases p with
  | test t => dsimp only; split <;> infer_instance
  | isIn =>
    refine .andThen fun ⟨lhs, rhs⟩ => ?_
    dsimp only
    split
    · split <;> infer_instance
    · infer_instance
  | hasKey =>
    refine .andThen fun ⟨lhs, rhs⟩ => ?_
    dsimp only
    split <;> infer_instance
  | numeric _ | textual _ | identical | wildcard | pattern => infer_instance

end CellScript
