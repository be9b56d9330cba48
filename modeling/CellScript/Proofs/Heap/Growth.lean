import CellScript.Proofs.Map.Order
import CellScript.Proofs.Sequence.Step
import Mathlib.Data.Set.Basic

/-!
# Heaps that grow

Nothing is ever taken out of a heap. A computation that only makes new things leaves all that was
there as it was, but for the maps that it fills.

## Main definitions

* `Heap.Grows` — there are more cells, and no others.
* `Sequences.Grows` — there are more sequences, and no others.
* `Heap.Extends` — there are more cells, sequences and maps.

## Main statements

* `Heap.Extends.alloc`, `addRoot`, `newTable`, `modifyTable` — what may be done.
* `Sequences.snapshot_addRoot`, `Sequences.Grows.snapshot_eq` — the elements of new sequences.
-/

namespace CellScript

/-! ## Cells -/

/-- There may be new cells, and the cells that were there hold what they held. -/
structure Heap.Grows (h h' : Heap) : Prop where
  size : h.cells.size ≤ h'.cells.size
  get : ∀ cell : CellRef, cell.index < h.cells.size → h'.get cell = h.get cell

namespace Heap.Grows

variable {h h' h'' : Heap}

theorem of_cells (same : h'.cells = h.cells) : h.Grows h' :=
  ⟨by rw [same], fun _ _ => by simp only [Heap.get, same]⟩

theorem refl (h : Heap) : h.Grows h := of_cells rfl

theorem trans (first : h.Grows h') (next : h'.Grows h'') : h.Grows h'' where
  size := first.size.trans next.size
  get cell inside := (next.get cell (inside.trans_le first.size)).trans (first.get cell inside)

theorem alloc (h : Heap) (value : Value) : h.Grows (h.alloc value).2 where
  size := by simp [Heap.alloc]
  get cell inside := by simp [Heap.alloc, Heap.get, Array.getElem?_push_lt inside, inside]

end Heap.Grows

/-! ## Sequences -/

namespace Sequences

variable {q q' q'' : Sequences} {s : SequenceRef} {cells : List CellRef}

/-- There may be new views and stores, and those that were there are as they were. -/
structure Grows (q q' : Sequences) : Prop where
  views : q.views.size ≤ q'.views.size
  stores : q.stores.size ≤ q'.stores.size
  viewAt : ∀ i < q.views.size, q'.viewAt i = q.viewAt i
  store : ∀ i < q.stores.size, q'.store i = q.store i

namespace Grows

theorem refl (q : Sequences) : q.Grows q := ⟨le_rfl, le_rfl, fun _ _ => rfl, fun _ _ => rfl⟩

theorem trans (first : q.Grows q') (next : q'.Grows q'') : q.Grows q'' where
  views := first.views.trans next.views
  stores := first.stores.trans next.stores
  viewAt i inside := (next.viewAt i (inside.trans_le first.views)).trans (first.viewAt i inside)
  store i inside := (next.store i (inside.trans_le first.stores)).trans (first.store i inside)

theorem addRoot (q : Sequences) (cells : List CellRef) : q.Grows (q.addRoot cells) where
  views := by simp [Sequences.addRoot]
  stores := by simp [Sequences.addRoot]
  viewAt _ := viewAt_addRoot
  store _ := store_addRoot

end Grows

/-- What a root view shows hangs on nothing but the view and its store. -/
theorem snapshot_of_root (root : (q.view s).parent = none) :
    q.snapshot s = .ok (q.cells (q.windowOf s)) := by
  rw [snapshot, window_of_fresh (staleness?_of_root root)]
  rfl

/-- A root view that was there shows what it showed. -/
theorem Grows.snapshot_eq (grows : q.Grows q') (held : q.Has s)
    (stored : (q.view s).store < q.stores.size) (root : (q.view s).parent = none) :
    q'.snapshot s = q.snapshot s := by
  have view : q'.view s = q.view s := grows.viewAt s.index held
  rw [snapshot_of_root root, snapshot_of_root (view ▸ root), windowOf, windowOf, view, cells, cells,
    grows.store _ stored]

theorem Grows.lineage_eq (grows : q.Grows q') {i : Nat} (hi : i < q.views.size) :
    q'.lineage i = q.lineage i := by
  have view : q'.views.getD i default = q.views.getD i default := grows.viewAt i hi
  unfold lineage
  rw [view]
  split
  · rfl
  · next parent _ =>
    by_cases less : parent.index < i
    · rw [if_pos less, if_pos less, grows.lineage_eq (less.trans hi)]
    · rw [if_neg less, if_neg less]
termination_by i

/-- Views that were there show what they showed. -/
theorem Grows.snapshot_of_sound (grows : q.Grows q') (sound : q.Sound) (hs : q.Has s) :
    q'.snapshot s = q.snapshot s := by
  have view : q'.view s = q.view s := grows.viewAt s.index hs
  have store : q'.store (q.view s).store = q.store (q.view s).store :=
    grows.store _ (sound.store s.index hs)
  have stale : q'.staleness? s = q.staleness? s := by
    unfold staleness?
    rw [view, store, grows.lineage_eq hs]
    rw [← List.head?_filterMap, ← List.head?_filterMap, List.filterMap_congr fun i hi => ?_]
    rw [show q'.views.getD i default = q.views.getD i default from grows.viewAt i
      (sound.lineage_lt hs hi)]
  unfold snapshot window
  rw [stale, view]
  cases q.staleness? s with
  | some why => rfl
  | none =>
    change Except.ok (q'.cells _) = Except.ok (q.cells _)
    unfold cells
    rw [store]

/-- A new root view shows the cells that it was made of. -/
theorem snapshot_addRoot (q : Sequences) (cells : List CellRef) :
    (q.addRoot cells).snapshot ⟨q.views.size⟩ = .ok cells := by
  obtain ⟨ring, contents, -⟩ := Store.isRing_ofCells cells
  have view :
      (q.addRoot cells).view ⟨q.views.size⟩ =
      ⟨q.stores.size, ⟨Store.sentinel, 0⟩, cells.length, none⟩ :=
    viewAt_addRoot_size
  have base : (q.addRoot cells).base ⟨q.views.size⟩ = .ofCells cells := by
    rw [Sequences.base, view]
    exact store_addRoot_size
  have span : (q.addRoot cells).Spans ⟨q.views.size⟩ [] (Store.ofCells cells).order [] := by
    refine ⟨?_, ?_⟩
    · rw [base, view, List.append_nil]
      exact ring
    · rw [view, ← congrArg List.length contents, Store.contents, List.length_map]
  rw [snapshot_of_root (congrArg View.parent view), span.cells_eq, base]
  exact congrArg Except.ok contents

end Sequences

/-! ## Whole heaps -/

/-- There may be new cells, sequences and maps, and all else is as it was, but for some maps. -/
structure Heap.Extends (changed : Set TableRef) (h h' : Heap) : Prop extends h.Grows h' where
  sequences : h.sequences.Grows h'.sequences
  tables : h.tables.size ≤ h'.tables.size
  table : ∀ t : TableRef, t.index < h.tables.size → t ∉ changed → h'.table t = h.table t
  objects : h'.objects = h.objects
  functions : h'.functions = h.functions
  vars : h'.vars = h.vars

namespace Heap.Extends

variable {h h' h'' : Heap} {changed changed' : Set TableRef} {t : TableRef}

theorem refl (h : Heap) : Extends changed h h :=
  ⟨.refl h, .refl _, le_rfl, fun _ _ _ => rfl, rfl, rfl, rfl⟩

theorem trans (first : Extends changed h h') (next : Extends changed h' h'') :
    Extends changed h h'' where
  toGrows := first.toGrows.trans next.toGrows
  sequences := first.sequences.trans next.sequences
  tables := first.tables.trans next.tables
  table t inside same :=
    (next.table t (inside.trans_le first.tables) same).trans (first.table t inside same)
  objects := next.objects.trans first.objects
  functions := next.functions.trans first.functions
  vars := next.vars.trans first.vars

theorem mono (extension : Extends changed h h') (sub : changed ⊆ changed') :
    Extends changed' h h' where
  toGrows := extension.toGrows
  sequences := extension.sequences
  tables := extension.tables
  table t inside same := extension.table t inside fun held => same (sub held)
  objects := extension.objects
  functions := extension.functions
  vars := extension.vars

/-- A map that is new itself may change. -/
theorem of_new (extension : Extends changed h h') (new : ∀ t ∈ changed, h.tables.size ≤ t.index) :
    Extends ∅ h h' where
  toGrows := extension.toGrows
  sequences := extension.sequences
  tables := extension.tables
  table t inside _ := extension.table t inside fun held => (new t held).not_gt inside
  objects := extension.objects
  functions := extension.functions
  vars := extension.vars

theorem alloc (h : Heap) (value : Value) : Extends ∅ h (h.alloc value).2 :=
  ⟨.alloc h value, .refl _, le_rfl, fun _ _ _ => rfl, rfl, rfl, rfl⟩

theorem addRoot (h : Heap) (cells : List CellRef) :
    Extends ∅ h { h with sequences := h.sequences.addRoot cells } :=
  ⟨.of_cells rfl, .addRoot _ cells, le_rfl, fun _ _ _ => rfl, rfl, rfl, rfl⟩

theorem newTable (h : Heap) (mode : MapOrder) :
    Extends ∅ h { h with tables := h.tables.push (.empty mode) } where
  toGrows := .of_cells rfl
  sequences := .refl _
  tables := by simp
  table t inside _ := by simp [Heap.table, Array.getElem?_push_lt inside, inside]
  objects := rfl
  functions := rfl
  vars := rfl

theorem modifyTable (h : Heap) (t : TableRef) (step : Table → Table) :
    Extends {t} h (h.modifyTable t step) where
  toGrows := .of_cells rfl
  sequences := .refl _
  tables := by simp [Heap.modifyTable]
  table u _ apart := (table_modifyTable h t u step).resolve_right fun same => apart same.1
  objects := rfl
  functions := rfl
  vars := rfl

end Heap.Extends

theorem Heap.table_modifyTable_self {h : Heap} {t : TableRef} (held : t.index < h.tables.size)
    (step : Table → Table) :
    (h.modifyTable t step).table t = step (h.table t) := by
  simp [table, modifyTable, Array.getElem_modify, held]

end CellScript
