import CellScript.Proofs.Sequence.Change
import CellScript.Sequence.View

/-!
# Views and their lineages

The views onto a store form a tree below its root view. An operation on a view first looks whether
the view and all views it was made from still fit the store.

## Main definitions

* `Sequences.Sound` — rings, anchors and lengths fit together.
* `View.IsValid` — a view that fits its store.

## Main statements

* `Sequences.staleness?_eq_none_iff` — a view is stale unless it and all views it was made from are
  valid.
* `Sequences.before_of_lineage` — anchors of older views come first.
-/

namespace CellScript

namespace Store

/-- The slots of a store in link order, from the sentinel on. -/
def ring (store : Store) : List Nat :=
  sentinel :: store.order

theorem IsRing.eq_ring {store : Store} {ring : List Nat} (h : store.IsRing ring) :
    store.ring = ring :=
  h.eq_order.symm

theorem IsRing.of_ring {store : Store} {ring : List Nat} (h : store.IsRing ring) :
    store.IsRing store.ring :=
  h.eq_ring ▸ h

end Store

/-- A view fits a store: its anchor has stayed in the ring, and enough elements follow it. -/
def View.IsValid (view : View) (store : Store) : Prop :=
  store.isCurrent view.anchor ∧ store.fits view.anchor.slot view.length

theorem View.staleness?_eq_none_iff {view : View} {store : Store}
    (root : view.parent = none → view.IsValid store) :
    view.staleness? store = none ↔ view.IsValid store := by
  unfold View.staleness?
  cases known : view.parent with
  | none => simpa using root known
  | some p =>
    unfold View.IsValid
    cases store.isCurrent view.anchor <;> cases store.fits view.anchor.slot view.length <;> simp

namespace Sequences

variable {q q' : Sequences} {s : SequenceRef} {i j : Nat}

/-- The view with a number. -/
def viewAt (q : Sequences) (i : Nat) : View :=
  q.views.getD i default

/-- There is such a sequence. -/
def Has (q : Sequences) (s : SequenceRef) : Prop :=
  s.index < q.views.size

instance (q : Sequences) (s : SequenceRef) : Decidable (q.Has s) :=
  inferInstanceAs (Decidable (s.index < q.views.size))

/-- Rings, anchors and lengths fit together. -/
structure Sound (q : Sequences) : Prop where
  ring : ∀ i < q.stores.size, (q.store i).IsRing (q.store i).ring
  /-- the sentinel is never used again -/
  sentinel : ∀ i < q.stores.size, (q.store i).generation Store.sentinel = 0
  store : ∀ i < q.views.size, (q.viewAt i).store < q.stores.size
  known : ∀ i < q.views.size, (q.store (q.viewAt i).store).Knows (q.viewAt i).anchor
  root : ∀ i < q.views.size, (q.viewAt i).parent = none →
    (q.viewAt i).anchor = ⟨Store.sentinel, 0⟩ ∧
    (q.viewAt i).length = (q.store (q.viewAt i).store).order.length
  /-- a store has one root -/
  unique : ∀ i < q.views.size, ∀ j < q.views.size, (q.viewAt i).parent = none →
    (q.viewAt j).parent = none →
    (q.viewAt i).store = (q.viewAt j).store → i = j
  parent : ∀ i < q.views.size, ∀ p, (q.viewAt i).parent = some p → p.index < i ∧
    (q.viewAt p.index).store = (q.viewAt i).store
  /-- elements of a view come after those of the view it was made from -/
  ordered : ∀ i < q.views.size, ∀ p, (q.viewAt i).parent = some p →
    (q.store (q.viewAt i).store).isCurrent (q.viewAt i).anchor →
    (q.store (q.viewAt i).store).isCurrent (q.viewAt p.index).anchor →
    Before (q.store (q.viewAt i).store).ring (q.viewAt p.index).anchor.slot (q.viewAt i).anchor.slot

/-! ## Lineages -/

theorem lineage_of_root (h : (q.viewAt i).parent = none) : q.lineage i = [i] := by
  unfold lineage
  unfold viewAt at h
  rw [h]

theorem lineage_of_parent {p : SequenceRef} (h : (q.viewAt i).parent = some p) (lt : p.index < i) :
    q.lineage i = i :: q.lineage p.index := by
  conv_lhs => unfold lineage
  unfold viewAt at h
  rw [h]
  simp [lt]

/-- A root is never stale. -/
theorem staleness?_of_root (root : (q.view s).parent = none) : q.staleness? s = none := by
  unfold staleness?
  rw [lineage_of_root root, List.findSome?_eq_none_iff]
  intro i hi
  obtain rfl := List.mem_singleton.mp hi
  exact if_pos (Option.isNone_iff_eq_none.mpr root)

theorem self_mem_lineage (q : Sequences) (i : Nat) : i ∈ q.lineage i := by
  unfold lineage
  split
  · exact List.mem_cons_self
  · split
    · exact List.mem_cons_self
    · exact List.mem_cons_self

/-- Lineages depend on nothing but who was made from whom. -/
theorem lineage_congr (h : ∀ j ≤ i, (q'.viewAt j).parent = (q.viewAt j).parent) :
    q'.lineage i = q.lineage i := by
  induction i using Nat.strongRecOn with
  | ind i ih =>
    cases known : (q.viewAt i).parent with
    | none => rw [lineage_of_root known, lineage_of_root ((h i (Nat.le_refl i)).trans known)]
    | some p =>
      have known' := (h i (Nat.le_refl i)).trans known
      by_cases lt : p.index < i
      · rw [lineage_of_parent known lt, lineage_of_parent known' lt,
          ih p.index lt fun j hj => h j (Nat.le_of_lt (Nat.lt_of_le_of_lt hj lt))]
      · unfold viewAt at known known'
        unfold lineage
        rw [known, known']
        simp [lt]

namespace Sound

/-- A lineage goes down, and stays within one store. -/
theorem of_mem_lineage (h : q.Sound) (hi : i < q.views.size) (hj : j ∈ q.lineage i) :
    j ≤ i ∧ (q.viewAt j).store = (q.viewAt i).store := by
  induction i using Nat.strongRecOn with
  | ind i ih =>
    cases known : (q.viewAt i).parent with
    | none =>
      rw [lineage_of_root known, List.mem_singleton] at hj
      exact hj ▸ ⟨Nat.le_refl _, rfl⟩
    | some p =>
      obtain ⟨lt, same⟩ := h.parent i hi p known
      rw [lineage_of_parent known lt, List.mem_cons] at hj
      rcases hj with rfl | older
      · exact ⟨Nat.le_refl _, rfl⟩
      · obtain ⟨le, store⟩ := ih p.index lt (Nat.lt_trans lt hi) older
        exact ⟨Nat.le_trans le (Nat.le_of_lt lt), store.trans same⟩

theorem lineage_lt (h : q.Sound) (hi : i < q.views.size) (hj : j ∈ q.lineage i) :
    j < q.views.size :=
  Nat.lt_of_le_of_lt (h.of_mem_lineage hi hj).1 hi

theorem nodup_lineage (h : q.Sound) (hi : i < q.views.size) : (q.lineage i).Nodup := by
  induction i using Nat.strongRecOn with
  | ind i ih =>
    cases known : (q.viewAt i).parent with
    | none =>
      rw [lineage_of_root known]
      exact List.nodup_singleton i
    | some p =>
      obtain ⟨lt, -⟩ := h.parent i hi p known
      have inside := Nat.lt_trans lt hi
      rw [lineage_of_parent known lt, List.nodup_cons]
      refine ⟨fun mem => ?_, ih p.index lt inside⟩
      exact Nat.not_le_of_lt lt (h.of_mem_lineage inside mem).1

/-- The root of a store is in the lineage of all its views. -/
theorem root_mem_lineage (h : q.Sound) (hi : i < q.views.size) (hj : j < q.views.size)
    (root : (q.viewAt j).parent = none) (same : (q.viewAt j).store = (q.viewAt i).store) :
    j ∈ q.lineage i := by
  induction i using Nat.strongRecOn with
  | ind i ih =>
    cases known : (q.viewAt i).parent with
    | none =>
      rw [h.unique j hj i hi root known same]
      exact self_mem_lineage q i
    | some p =>
      obtain ⟨lt, store⟩ := h.parent i hi p known
      rw [lineage_of_parent known lt]
      exact List.mem_cons_of_mem _ (ih p.index lt (Nat.lt_trans lt hi) (same.trans store.symm))

/-- Anchors of older views come first. -/
theorem before_of_lineage (h : q.Sound) (hi : i < q.views.size)
    (current : ∀ j ∈ q.lineage i, (q.store (q.viewAt i).store).isCurrent (q.viewAt j).anchor)
    (hj : j ∈ q.lineage i) :
    Before (q.store (q.viewAt i).store).ring (q.viewAt j).anchor.slot (q.viewAt i).anchor.slot := by
  induction i using Nat.strongRecOn with
  | ind i ih =>
    cases known : (q.viewAt i).parent with
    | none =>
      rw [lineage_of_root known, List.mem_singleton] at hj
      exact .inl (hj ▸ rfl)
    | some p =>
      obtain ⟨lt, store⟩ := h.parent i hi p known
      have inside := Nat.lt_trans lt hi
      have ring := h.ring _ (h.store i hi)
      rw [lineage_of_parent known lt] at hj current
      rcases List.mem_cons.mp hj with rfl | older
      · exact .inl rfl
      · have further := ih p.index lt inside (fun k hk => by
          rw [store]
          exact current k (List.mem_cons_of_mem _ hk)) older
        rw [store] at further
        have parent := h.ordered i hi p known (current i List.mem_cons_self)
          (current p.index (List.mem_cons_of_mem _ (self_mem_lineage q p.index)))
        have mem := ((ring.isCurrent_iff _).mp (current j (List.mem_cons_of_mem _ older))).1
        exact further.trans ring.nodup mem parent

/-! ## Staleness -/

/-- A root always fits its store. -/
theorem isValid_root (h : q.Sound) (hi : i < q.views.size) (root : (q.viewAt i).parent = none) :
    (q.viewAt i).IsValid (q.store (q.viewAt i).store) := by
  obtain ⟨anchor, length⟩ := h.root i hi root
  have ring := h.ring _ (h.store i hi)
  unfold View.IsValid
  rw [anchor, length]
  refine ⟨(ring.isCurrent_iff _).mpr ⟨ring.sentinel_mem, h.sentinel _ (h.store i hi)⟩, ?_⟩
  have whole :
      (q.store (q.viewAt i).store).IsRing
        ([] ++ Store.sentinel :: (q.store (q.viewAt i).store).order) := ring
  exact whole.fits_iff.mpr (Nat.le_refl _)

/-- A view is stale unless it and all views it was made from are valid. -/
theorem staleness?_eq_none_iff (h : q.Sound) (hs : q.Has s) :
    q.staleness? s = none ↔ ∀ j ∈ q.lineage s.index,
    (q.viewAt j).IsValid (q.store (q.view s).store) := by
  unfold staleness?
  dsimp only
  rw [List.findSome?_eq_none_iff]
  refine forall₂_congr fun j hj => ?_
  obtain ⟨-, store⟩ := h.of_mem_lineage hs hj
  have fine := h.isValid_root (h.lineage_lt hs hj)
  rw [store] at fine
  exact View.staleness?_eq_none_iff fine

end Sound

end Sequences

end CellScript
