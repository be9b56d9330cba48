import CellScript.Proofs.Sequence.Lineage

/-!
# What operations do to views

An operation on a view rewrites a part of the ring behind the anchor of the view and changes the
recorded lengths of the view and of all views it was made from by as much. All other views, anchors
and stores stay as they are.

## Main definitions

* `Sequences.Rewrites` — a part of a ring was rewritten through a view.
* `Sequences.change` — a change of a store and of recorded lengths.

## Main statements

* `Sequences.Rewrites.of_change` — what a change rewrites.
* `Sequences.Rewrites.isCurrent_iff` — which anchors are current afterwards.
* `Sequences.Rewrites.sound` — rings, anchors and lengths still fit together afterwards.
-/

namespace CellScript.Sequences

variable {q q' : Sequences} {s : SequenceRef} {front win win' back : List Nat} {i j : Nat}
  {w : Window} {α β : Type}

/-- The store under a view. -/
def base (q : Sequences) (s : SequenceRef) : Store :=
  q.store (q.view s).store

/-- The slots `win` behind the anchor of a view have become `win'`; those in front of them and
behind them have stayed. -/
structure Rewrites (q : Sequences) (s : SequenceRef) (front win win' back : List Nat)
    (q' : Sequences) : Prop where
  ring : (q.base s).IsRing (front ++ (q.view s).anchor.slot :: (win ++ back))
  ring' : (q'.store (q.view s).store).IsRing (front ++ (q.view s).anchor.slot :: (win' ++ back))
  evolves : (q.base s).Evolves (front ++ (q.view s).anchor.slot :: (win ++ back))
    (q'.store (q.view s).store)
    (front ++ (q.view s).anchor.slot :: (win' ++ back))
  cell : ∀ i ∈ front ++ (q.view s).anchor.slot :: back,
    (q'.store (q.view s).store).cell i = (q.base s).cell i
  others : ∀ i, i ≠ (q.view s).store → q'.store i = q.store i
  stores : q'.stores.size = q.stores.size
  views : q'.views.size = q.views.size
  view : ∀ i, q'.viewAt i = { q.viewAt i with
    length :=
      if i ∈ q.lineage s.index then (q.viewAt i).length + win'.length - win.length
        else (q.viewAt i).length }

/-! ## Changes of stores and lengths -/

theorem store_modifyStore {f : Store → Store} (hi : i < q.stores.size) :
    (q.modifyStore i f).store j = if j = i then f (q.store i) else q.store j := by
  unfold modifyStore store
  simp only [Array.getD_eq_getD_getElem?, Array.getElem?_modify]
  by_cases e : j = i
  · subst e
    simp [hi]
  · simp [e, Ne.symm e]

theorem modifyStore_congr {f g : Store → Store} (hi : i < q.stores.size)
    (same : f (q.store i) = g (q.store i)) :
    q.modifyStore i f = q.modifyStore i g := by
  have here : q.store i = q.stores[i] := by simp [store, Array.getD_eq_getD_getElem?, hi]
  rw [here] at same
  unfold modifyStore
  congr 1
  ext1
  · simp
  · rename_i j hj hj'
    simp only [Array.getElem_modify]
    split
    · rename_i e
      subst e
      exact same
    · rfl

theorem getD_foldl_modify {l : List Nat} (nodup : l.Nodup) (f : Nat → Nat) (views : Array View)
    (inside : ∀ i ∈ l, i < views.size) :
    (l.foldl (fun views i => views.modify i fun view => { view with length := f view.length })
      views).getD j default =
      { views.getD j default with
        length :=
          if j ∈ l then f (views.getD j default).length else (views.getD j default).length } := by
  induction l generalizing views with
  | nil => simp
  | cons i rest ih =>
    obtain ⟨absent, nodup⟩ := List.nodup_cons.mp nodup
    have hi := inside i List.mem_cons_self
    rw [List.foldl_cons, ih nodup _ fun k hk => by simpa using inside k (List.mem_cons_of_mem _ hk)]
    simp only [Array.getD_eq_getD_getElem?, Array.getElem?_modify, List.mem_cons]
    by_cases e : j = i
    · subst e
      simp [absent, hi]
    · simp [e, Ne.symm e]

theorem size_foldl_modify (l : List Nat) (f : View → View) (views : Array View) :
    (l.foldl (fun views i => views.modify i f) views).size = views.size := by
  induction l generalizing views with
  | nil => rfl
  | cons i rest ih => rw [List.foldl_cons, ih, Array.size_modify]

/-- Change the store under a view and the recorded lengths of the view and of all views it was made
from. -/
def change (q : Sequences) (s : SequenceRef) (f : Store → Store) (g : Nat → Nat) : Sequences :=
  (q.modifyStore (q.view s).store f).modifyLength s g

theorem store_change (h : q.Sound) (hs : q.Has s) (f : Store → Store) (g : Nat → Nat) :
    (q.change s f g).store (q.view s).store = f (q.base s) :=
  (store_modifyStore (h.store s.index hs)).trans (if_pos rfl)

theorem viewAt_change (h : q.Sound) (hs : q.Has s) (f : Store → Store) (g : Nat → Nat) :
    (q.change s f g).viewAt i = { q.viewAt i with
      length := if i ∈ q.lineage s.index then g (q.viewAt i).length else (q.viewAt i).length } := by
  have lineage : (q.modifyStore (q.view s).store f).lineage s.index = q.lineage s.index :=
    lineage_congr fun _ _ => rfl
  rw [← lineage]
  exact getD_foldl_modify (lineage ▸ h.nodup_lineage hs) g q.views fun _ hj =>
    h.lineage_lt hs (lineage ▸ hj)

theorem change_id (q : Sequences) (s : SequenceRef) (f : Store → Store) :
    q.change s f id = q.modifyStore (q.view s).store f := by
  have same (views : Array View) (i : Nat) :
      (views.modify i fun view => { view with length := id view.length }) = views := by
    ext1
    · simp
    · simp [Array.getElem_modify]
  have all (l : List Nat) (views : Array View) :
      l.foldl (fun views i => views.modify i fun view => { view with length := id view.length })
        views = views := by
    induction l with
    | nil => rfl
    | cons i rest ih => rw [List.foldl_cons, same, ih]
  unfold change modifyLength
  rw [all]

/-- What a change rewrites. -/
theorem Rewrites.of_change (h : q.Sound) (hs : q.Has s) {f : Store → Store} {g : Nat → Nat}
    (ring : (q.base s).IsRing (front ++ (q.view s).anchor.slot :: (win ++ back)))
    (ring' : (f (q.base s)).IsRing (front ++ (q.view s).anchor.slot :: (win' ++ back)))
    (evolves : (q.base s).Evolves (front ++ (q.view s).anchor.slot :: (win ++ back)) (f (q.base s))
      (front ++ (q.view s).anchor.slot :: (win' ++ back)))
    (cell : ∀ i ∈ front ++ (q.view s).anchor.slot :: back, (f (q.base s)).cell i =
      (q.base s).cell i)
    (length : ∀ n, g n = n + win'.length - win.length) :
    q.Rewrites s front win win' back (q.change s f g) := by
  have here := store_change h hs f g
  refine ⟨ring, here ▸ ring', here ▸ evolves, here ▸ cell, fun i ne => ?_, ?_, ?_, fun i => ?_⟩
  · exact (store_modifyStore (h.store s.index hs)).trans (if_neg ne)
  · simp [change, modifyLength, modifyStore]
  · exact (size_foldl_modify _ _ _).trans rfl
  · rw [viewAt_change h hs, length]

namespace Rewrites

theorem anchor_eq (h : q.Rewrites s front win win' back q') :
    (q'.viewAt i).anchor = (q.viewAt i).anchor := by
  rw [h.view]

theorem store_eq (h : q.Rewrites s front win win' back q') :
    (q'.viewAt i).store = (q.viewAt i).store := by
  rw [h.view]

theorem parent_eq (h : q.Rewrites s front win win' back q') :
    (q'.viewAt i).parent = (q.viewAt i).parent := by
  rw [h.view]

theorem lineage_eq (h : q.Rewrites s front win win' back q') : q'.lineage i = q.lineage i :=
  lineage_congr fun _ _ => h.parent_eq

theorem length_eq (h : q.Rewrites s front win win' back q') (hi : i ∈ q.lineage s.index) :
    (q'.viewAt i).length = (q.viewAt i).length + win'.length - win.length := by
  rw [h.view]
  exact if_pos hi

/-- Whether an anchor is current afterwards. -/
theorem isCurrent_iff (h : q.Rewrites s front win win' back q') (sound : q.Sound)
    (hi : i < q.views.size) (same : (q.viewAt i).store = (q.view s).store) :
    (q'.store (q.view s).store).isCurrent (q.viewAt i).anchor ↔
    (q.base s).isCurrent (q.viewAt i).anchor ∧
      (q.viewAt i).anchor.slot ∈ front ++ (q.view s).anchor.slot :: (win' ++ back) :=
  h.evolves.isCurrent_iff h.ring h.ring' (by
    have known := sound.known i hi
    rwa [same] at known)

/-- Rings, anchors and lengths still fit together. -/
theorem sound (h : q.Rewrites s front win win' back q') (sound : q.Sound) (hs : q.Has s) :
    q'.Sound where
  ring i hi := by
    rw [h.stores] at hi
    by_cases e : i = (q.view s).store
    · exact e ▸ h.ring'.of_ring
    · rw [h.others i e]
      exact sound.ring i hi
  sentinel i hi := by
    rw [h.stores] at hi
    by_cases e : i = (q.view s).store
    · rw [e, h.evolves.stays _ h.ring.sentinel_mem h.ring'.sentinel_mem]
      exact sound.sentinel _ (e ▸ hi)
    · rw [h.others i e]
      exact sound.sentinel i hi
  store i hi := by
    rw [h.views] at hi
    rw [h.store_eq, h.stores]
    exact sound.store i hi
  known i hi := by
    rw [h.views] at hi
    rw [h.store_eq, h.anchor_eq]
    by_cases e : (q.viewAt i).store = (q.view s).store
    · have known := sound.known i hi
      rw [e] at known ⊢
      exact known.evolves h.evolves
    · rw [h.others _ e]
      exact sound.known i hi
  root i hi root := by
    rw [h.views] at hi
    rw [h.parent_eq] at root
    obtain ⟨anchor, length⟩ := sound.root i hi root
    rw [h.anchor_eq, h.store_eq]
    refine ⟨anchor, ?_⟩
    by_cases e : (q.viewAt i).store = (q.view s).store
    · have mem : i ∈ q.lineage s.index := sound.root_mem_lineage hs hi root e
      rw [h.length_eq mem, length, e, h.ring'.order_eq]
      change (q.base s).order.length + _ - _ = _
      rw [h.ring.order_eq]
      simp only [List.length_tail, List.length_append, List.length_cons]
      omega
    · have out : i ∉ q.lineage s.index := fun mem => e (sound.of_mem_lineage hs mem).2
      rw [h.others _ e, h.view, ← length]
      exact if_neg out
  unique i hi j hj root root' same := by
    rw [h.views] at hi hj
    rw [h.parent_eq] at root root'
    rw [h.store_eq, h.store_eq] at same
    exact sound.unique i hi j hj root root' same
  parent i hi p known := by
    rw [h.views] at hi
    rw [h.parent_eq] at known
    rw [h.store_eq, h.store_eq]
    exact sound.parent i hi p known
  ordered i hi p known current older := by
    rw [h.views] at hi
    rw [h.parent_eq] at known
    rw [h.store_eq, h.anchor_eq] at current older ⊢
    rw [h.anchor_eq]
    obtain ⟨lt, same⟩ := sound.parent i hi p known
    by_cases e : (q.viewAt i).store = (q.view s).store
    · rw [e] at current older ⊢
      obtain ⟨current, inside⟩ := (h.isCurrent_iff sound hi e).mp current
      obtain ⟨older, inside'⟩ :=
          (h.isCurrent_iff sound (Nat.lt_trans lt hi) (same.trans e)).mp older
      have before := sound.ordered i hi p known (e ▸ current) (e ▸ older)
      rw [e] at before
      change Before (q.base s).ring _ _ at before
      rw [h.ring.eq_ring] at before
      rw [h.ring'.eq_ring]
      exact h.evolves.ordered _ inside' _ inside ((h.ring.isCurrent_iff _).mp older).1
        ((h.ring.isCurrent_iff _).mp current).1 before
    · rw [h.others _ e] at current older ⊢
      exact sound.ordered i hi p known current older

end Rewrites

end CellScript.Sequences
