import CellScript.Proofs.Mirror.Eval
import CellScript.Wire.Value

/-!
# Documents of values in other places

A document leads to values that are alike, and values that are alike have the same document.

## Main statements

* `sim_cell` — the value that a document shows.
* `Heaps.documentWithin_eq` — the document of a value.
-/

namespace CellScript.Mirror

variable {e : Surroundings} {w : Links}

instance : Plain Json := ⟨⟩

/-! ## From documents -/

instance (className text : String) :
    Sim e w (Wire.fault className text) (Wire.fault className text) := by
  have stated : Alike w ((Fault.stated? className text).getD (.runtime (.stated text)))
      ((Fault.stated? className text).getD (.runtime (.stated text))) := by
    cases found : Fault.stated? className text with
    | none => exact ⟨.other nofun⟩
    | some f =>
      refine ⟨.other fun c same => ?_⟩
      unfold Fault.stated? at found
      split at found <;> cases found <;> cases same
  unfold Wire.fault
  split <;> infer_instance

mutual

theorem sim_cell :
    ∀ (room : Nat) (w : Links) (j : Json), Sim e w (Wire.cell room j) (Wire.cell room j)
  | 0, w, j => by
    unfold Wire.cell
    infer_instance
  | room + 1, w, j => by
    have cell (v : Links) (j : Json) : Sim e v (Wire.cell room j) (Wire.cell room j) :=
      sim_cell room v j
    have map (v : Links) (order : MapOrder) (entries : List Json) :
        Sim e v (Wire.map room order entries) (Wire.map room order entries) :=
          sim_map room v order entries
    have function (v : Links) (name : String) (does : List Json) :
        Sim e v (Wire.function room name does) (Wire.function room name does) :=
          sim_function room v name does
    unfold Wire.cell
    split
    · obtain rfl := Nat.succ.inj ‹room + 1 = Nat.succ _›
      split <;> infer_instance
    · infer_instance

theorem sim_map : ∀ (room : Nat) (w : Links) (order : MapOrder) (entries : List Json),
    Sim e w (Wire.map room order entries) (Wire.map room order entries)
  | 0, w, order, entries => by
    unfold Wire.map
    infer_instance
  | room + 1, w, order, entries => by
    have cell (v : Links) (j : Json) : Sim e v (Wire.cell room j) (Wire.cell room j) :=
      sim_cell room v j
    unfold Wire.map
    refine .andThen fun v t => .seq (sim_forIn_same v.now _ _ fun v' entry _ => ?_)
      fun _ _ => inferInstance
    split <;> infer_instance

theorem sim_function : ∀ (room : Nat) (w : Links) (name : String) (does : List Json),
    Sim e w (Wire.function room name does) (Wire.function room name does)
  | 0, w, name, does => by
    unfold Wire.function
    dsimp only
    split
    case h_3 | h_4 => exact nomatch ‹0 = Nat.succ _›
    all_goals infer_instance
  | room + 1, w, name, does => by
    have cell (v : Links) (j : Json) : Sim e v (Wire.cell room j) (Wire.cell room j) :=
      sim_cell room v j
    unfold Wire.function
    dsimp only
    split
    case h_3 | h_4 =>
      obtain rfl := Nat.succ.inj ‹room + 1 = Nat.succ _›
      infer_instance
    all_goals infer_instance

end

instance (room : Nat) (j : Json) : Sim e w (Wire.cell room j) (Wire.cell room j) :=
  sim_cell room w j

/-! ## To documents -/

theorem mark_eq {v v' : Value} (h : Alike w v v') (j : Json) : Heap.mark v j = Heap.mark v' j := by
  have tainted : v.tainted = v'.tainted := Alike.eq (w := w) inferInstance
  unfold Heap.mark
  rw [tainted]

theorem Heaps.documentWithin_eq {h h' : Heap} (heaps : Heaps e w h h') (n : Nat)
    {path path' : List Container} (hp : Alike w path path') {c c' : Content} (hc : Alike w c c') :
    h.documentWithin n path c = h'.documentWithin n path' c' := by
  induction n generalizing path path' c c' with
  | zero => rfl
  | succ n ih =>
    have inner {path path' : List Container} (hp : Alike w path path') {x y : CellRef}
      (hx : Alike w x y) :
        Heap.mark (h.get x) (h.documentWithin n path (h.get x).content) =
          Heap.mark (h'.get y) (h'.documentWithin n path' (h'.get y).content) := by
      rw [ih hp (inferInstance : Alike w (h.get x).content (h'.get y).content)]
      exact mark_eq (inferInstance : Alike w (h.get x) (h'.get y)) _
    unfold Heap.documentWithin
    cases hc.rel with
    | null | int | float | text => rfl
    | @function f f' =>
      have shown : (h.callable f).describe = (h'.callable f').describe :=
        Alike.eq (w := w) inferInstance
      dsimp only
      rw [shown]
    | @object o o' =>
      have object : Alike w (h.object o) (h'.object o') := inferInstance
      have shown : h.describeObject o = h'.describeObject o' := Alike.eq (w := w) inferInstance
      dsimp only
      rw [shown]
      generalize h.object o = x, h'.object o' = y at object
      cases object.rel with
      | @pair k k' v v' =>
        have key := inner hp (inferInstance : Alike w k k')
        have value := inner hp (inferInstance : Alike w v v')
        dsimp only
        rw [key, value]
      | _ => rfl
    | @sequence s s' =>
      have met : path.contains (.sequence s) = path'.contains (.sequence s') :=
        hp.contains_eq inferInstance
      dsimp only
      rw [met]
      obtain ⟨f, f', left, right, failed⟩ | ⟨cells, cells', left, right, shown⟩ :=
          (inferInstance : Alike w (h.sequences.snapshot s) (h'.sequences.snapshot s')).except <;>
            rw [left, right]
      · have text : h.faultMessage f = h'.faultMessage f' := Alike.eq (w := w) inferInstance
        dsimp only
        rw [text]
      · have inside : Alike w (.sequence s :: path) (.sequence s' :: path') := inferInstance
        have items := shown.mapEq fun _ _ same => inner inside same
        unfold Json.ofList
        dsimp only
        rw [items]
    | @table t t' =>
      have met : path.contains (.table t) = path'.contains (.table t') :=
        hp.contains_eq inferInstance
      have inside : Alike w (.table t :: path) (.table t' :: path') := inferInstance
      have items := (inferInstance : Alike w (h.entries t) (h'.entries t')).mapEntriesEq
        (f := fun entry => Json.array
          [.string entry.1, Heap.mark (h.get entry.2)
            (h.documentWithin n (.table t :: path) (h.get entry.2).content)])
        (g := fun entry => Json.array
          [.string entry.1, Heap.mark (h'.get entry.2)
            (h'.documentWithin n (.table t' :: path') (h'.get entry.2).content)])
        fun key _ _ here => congrArg (Json.array [.string key, ·]) (inner inside here)
      unfold Json.ofList
      dsimp only
      rw [met, items]

instance (h h' : Heap) (c c' : CellRef) [heaps : Heaps e w h h'] [Alike w c c'] :
    Alike w (h.document c) (h'.document c') := by
  have value : Alike w (h.get c) (h'.get c') := inferInstance
  have content : Alike w (h.get c).content (h'.get c').content := inferInstance
  unfold Heap.document
  dsimp only
  rw [heaps.nesting_eq content, heaps.documentWithin_eq _ ⟨.nil⟩ content, mark_eq value]
  infer_instance

end CellScript.Mirror
