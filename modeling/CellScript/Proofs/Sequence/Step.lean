import CellScript.Proofs.Sequence.Operation

/-!
# Steps of the sequences

An operation leaves the sequences as they are, rewrites a part of a ring through a view, or adds a
view: one that was made from another view, or the root of a new store.

## Main definitions

* `Sequences.Step` — what an operation makes of the sequences.

## Main statements

* `Sequences.Step.sound` — steps keep rings, anchors and lengths fitting together.
* `Sequences.Step.isCurrent_iff` — an anchor stays current exactly as long as its slot stays linked.
* `Sequences.Step.isCurrent_new` — a new view is anchored on a slot in the ring.
-/

namespace CellScript

namespace Store

variable {store : Store} {i : Nat}

theorem isRing_empty : empty.IsRing [sentinel] where
  head := rfl
  nodup := List.nodup_singleton _
  live i := by
    rcases i with _ | i
    · simp [slot, empty, sentinel]
    · have nothing : (default : Slot).live = false := rfl
      simp [slot, empty, sentinel, nothing]
  links := .cons_cons ⟨rfl, rfl⟩ (.singleton _)
  free_nodup := List.nodup_nil
  free i := by
    simp only [empty, sentinel, List.not_mem_nil, List.mem_singleton, false_iff, not_and, not_not]
    exact Nat.lt_one_iff.mp

/-- The ring of a store of cells. -/
theorem isRing_ofCells (cells : List CellRef) :
    (ofCells cells).IsRing (ofCells cells).ring ∧ (ofCells cells).contents = cells ∧
      (ofCells cells).generation sentinel = 0 := by
  have start : empty.IsRing ([] ++ sentinel :: []) := isRing_empty
  obtain ⟨new, ring, written, grows⟩ := start.insertAllAfter cells
  refine ⟨ring.of_ring, ?_, (grows.generation _ (by simp)).trans rfl⟩
  refine ring.contents_eq.trans ?_
  rw [List.nil_append, List.tail_cons, List.append_nil]
  exact written

end Store

namespace Sequences

variable {q q' : Sequences} {s : SequenceRef} {front win win' back : List Nat} {i j x n : Nat}

/-! ## New views -/

/-- A view made from another one. -/
def addView (q : Sequences) (s : SequenceRef) (x n : Nat) : Sequences :=
  { q with views := q.views.push ⟨(q.view s).store, (q.base s).anchor x, n, some s⟩ }

theorem viewAt_push {view : View} {stores : Array Store} :
    (⟨stores, q.views.push view⟩ : Sequences).viewAt i = if i = q.views.size then view
      else q.viewAt i := by
  simp only [viewAt, Array.getD_eq_getD_getElem?, Array.getElem?_push]
  split <;> rfl

theorem viewAt_addView (hi : i < q.views.size) : (q.addView s x n).viewAt i = q.viewAt i :=
  viewAt_push.trans (if_neg (Nat.ne_of_lt hi))

theorem viewAt_addView_size :
    (q.addView s x n).viewAt q.views.size = ⟨(q.view s).store, (q.base s).anchor x, n, some s⟩ :=
  viewAt_push.trans (if_pos rfl)

theorem size_addView : (q.addView s x n).views.size = q.views.size + 1 := by simp [addView]

/-- A number below that of the views is an old or the new one. -/
theorem lt_or_eq (hi : i < q.views.size + 1) : i < q.views.size ∨ i = q.views.size := by omega

theorem Sound.addView (h : q.Sound) (hs : q.Has s) (hx : x ∈ (q.base s).ring)
    (before : Before (q.base s).ring (q.view s).anchor.slot x) : (q.addView s x n).Sound where
  ring := h.ring
  sentinel := h.sentinel
  store i hi := by
    rcases lt_or_eq (size_addView ▸ hi) with old | rfl
    · rw [viewAt_addView old]
      exact h.store i old
    · rw [viewAt_addView_size]
      exact h.store s.index hs
  known i hi := by
    rcases lt_or_eq (size_addView ▸ hi) with old | rfl
    · rw [viewAt_addView old]
      exact h.known i old
    · rw [viewAt_addView_size]
      exact ⟨(h.ring _ (h.store s.index hs)).lt_size hx, Nat.le_refl _⟩
  root i hi := by
    rcases lt_or_eq (size_addView ▸ hi) with old | rfl
    · rw [viewAt_addView old]
      exact h.root i old
    · rw [viewAt_addView_size]
      exact fun none => absurd none (Option.some_ne_none s)
  unique i hi j hj := by
    rcases lt_or_eq (size_addView ▸ hi) with old | rfl <;>
      rcases lt_or_eq (size_addView ▸ hj) with old' | rfl
    · rw [viewAt_addView old, viewAt_addView old']
      exact h.unique i old j old'
    · rw [viewAt_addView_size]
      exact fun _ none => absurd none (Option.some_ne_none s)
    · rw [viewAt_addView_size]
      exact fun none => absurd none (Option.some_ne_none s)
    · exact fun _ _ _ => rfl
  parent i hi p known := by
    rcases lt_or_eq (size_addView ▸ hi) with old | rfl
    · rw [viewAt_addView old] at known ⊢
      obtain ⟨lt, same⟩ := h.parent i old p known
      rw [viewAt_addView (Nat.lt_trans lt old)]
      exact ⟨lt, same⟩
    · rw [viewAt_addView_size] at known ⊢
      obtain rfl := Option.some_inj.mp known
      rw [viewAt_addView hs]
      exact ⟨hs, rfl⟩
  ordered i hi p known := by
    rcases lt_or_eq (size_addView ▸ hi) with old | rfl
    · rw [viewAt_addView old] at known ⊢
      rw [viewAt_addView (Nat.lt_trans (h.parent i old p known).1 old)]
      exact h.ordered i old p known
    · rw [viewAt_addView_size] at known ⊢
      obtain rfl := Option.some_inj.mp known
      rw [viewAt_addView hs]
      exact fun _ _ => before

/-- A root view over a store of its own. -/
def addRoot (q : Sequences) (cells : List CellRef) : Sequences :=
  { stores := q.stores.push (Store.ofCells cells)
    views := q.views.push ⟨q.stores.size, ⟨Store.sentinel, 0⟩, cells.length, none⟩ }

theorem viewAt_addRoot {cells : List CellRef} (hi : i < q.views.size) :
    (q.addRoot cells).viewAt i = q.viewAt i :=
  viewAt_push.trans (if_neg (Nat.ne_of_lt hi))

theorem viewAt_addRoot_size {cells : List CellRef} :
    (q.addRoot cells).viewAt q.views.size =
      ⟨q.stores.size, ⟨Store.sentinel, 0⟩, cells.length, none⟩ :=
  viewAt_push.trans (if_pos rfl)

theorem store_addRoot {cells : List CellRef} (hi : i < q.stores.size) :
    (q.addRoot cells).store i = q.store i := by
  simp only [store, addRoot, Array.getD_eq_getD_getElem?, Array.getElem?_push_lt hi,
    Array.getElem?_eq_getElem hi]

theorem store_addRoot_size {cells : List CellRef} :
    (q.addRoot cells).store q.stores.size = .ofCells cells := by
  simp [store, addRoot, Array.getD_eq_getD_getElem?]

theorem Sound.addRoot (h : q.Sound) (cells : List CellRef) : (q.addRoot cells).Sound := by
  obtain ⟨ring, contents, generation⟩ := Store.isRing_ofCells cells
  have views : (q.addRoot cells).views.size = q.views.size + 1 := by simp [Sequences.addRoot]
  have stores : (q.addRoot cells).stores.size = q.stores.size + 1 := by simp [Sequences.addRoot]
  have old {i : Nat} (hi : i < q.views.size) :
      (q.addRoot cells).store (q.viewAt i).store = q.store (q.viewAt i).store :=
    store_addRoot (h.store i hi)
  refine ⟨fun i hi => ?_, fun i hi => ?_, fun i hi => ?_, fun i hi => ?_, fun i hi => ?_,
    fun i hi j hj => ?_, fun i hi p known => ?_, fun i hi p known => ?_⟩
  · rcases Nat.lt_succ_iff_lt_or_eq.mp (stores ▸ hi) with lt | rfl
    · rw [store_addRoot lt]
      exact h.ring i lt
    · rw [store_addRoot_size]
      exact ring
  · rcases Nat.lt_succ_iff_lt_or_eq.mp (stores ▸ hi) with lt | rfl
    · rw [store_addRoot lt]
      exact h.sentinel i lt
    · rw [store_addRoot_size]
      exact generation
  · rw [stores]
    rcases lt_or_eq (views ▸ hi) with lt | rfl
    · rw [viewAt_addRoot lt]
      exact Nat.lt_succ_of_lt (h.store i lt)
    · rw [viewAt_addRoot_size]
      exact Nat.lt_succ_self _
  · rcases lt_or_eq (views ▸ hi) with lt | rfl
    · rw [viewAt_addRoot lt, old lt]
      exact h.known i lt
    · rw [viewAt_addRoot_size, store_addRoot_size]
      exact ⟨ring.lt_size ring.sentinel_mem, Nat.zero_le _⟩
  · rcases lt_or_eq (views ▸ hi) with lt | rfl
    · rw [viewAt_addRoot lt, old lt]
      exact h.root i lt
    · rw [viewAt_addRoot_size, store_addRoot_size]
      refine fun _ => ⟨rfl, ?_⟩
      rw [← congrArg List.length contents, Store.contents, List.length_map]
  · rcases lt_or_eq (views ▸ hi) with lt | rfl <;> rcases lt_or_eq (views ▸ hj) with lt' | rfl
    · rw [viewAt_addRoot lt, viewAt_addRoot lt']
      exact h.unique i lt j lt'
    · rw [viewAt_addRoot lt, viewAt_addRoot_size]
      exact fun _ _ same => absurd same (Nat.ne_of_lt (h.store i lt))
    · rw [viewAt_addRoot lt', viewAt_addRoot_size]
      exact fun _ _ same => absurd same.symm (Nat.ne_of_lt (h.store j lt'))
    · exact fun _ _ _ => rfl
  · rcases lt_or_eq (views ▸ hi) with lt | rfl
    · rw [viewAt_addRoot lt] at known ⊢
      obtain ⟨less, same⟩ := h.parent i lt p known
      rw [viewAt_addRoot (Nat.lt_trans less lt)]
      exact ⟨less, same⟩
    · rw [viewAt_addRoot_size] at known
      exact absurd known.symm (Option.some_ne_none p)
  · rcases lt_or_eq (views ▸ hi) with lt | rfl
    · rw [viewAt_addRoot lt] at known ⊢
      rw [viewAt_addRoot (Nat.lt_trans (h.parent i lt p known).1 lt), old lt]
      exact h.ordered i lt p known
    · rw [viewAt_addRoot_size] at known
      exact absurd known.symm (Option.some_ne_none p)

/-! ## Steps -/

/-- The slot that a view is anchored on is in the ring, in whatever generation. -/
def IsLinked (q : Sequences) (s : SequenceRef) : Prop :=
  ((q.base s).slot (q.view s).anchor.slot).live

/-- What an operation makes of the sequences. -/
inductive Step : Sequences → Sequences → Prop
  | stay (q : Sequences) : Step q q
  | rewrite {q q' : Sequences} {s : SequenceRef} {front win win' back : List Nat} (hs : q.Has s)
    (rewrites : q.Rewrites s front win win' back q') : Step q q'
  | view {q : Sequences} {s : SequenceRef} {x n : Nat} (hs : q.Has s) (hx : x ∈ (q.base s).ring)
    (before : Before (q.base s).ring (q.view s).anchor.slot x) : Step q (q.addView s x n)
  | root (q : Sequences) (cells : List CellRef) : Step q (q.addRoot cells)

namespace Step

theorem sound (step : Step q q') (h : q.Sound) : q'.Sound := by
  cases step with
  | stay => exact h
  | rewrite hs rewrites => exact rewrites.sound h hs
  | view hs hx before => exact h.addView hs hx before
  | root => exact h.addRoot _

theorem has (step : Step q q') (hs : q.Has s) : q'.Has s := by
  cases step with
  | stay => exact hs
  | rewrite _ rewrites => exact Nat.lt_of_lt_of_eq hs rewrites.views.symm
  | view => exact Nat.lt_of_lt_of_le hs (size_addView ▸ Nat.le_succ _)
  | root => exact Nat.lt_of_lt_of_le hs (by simp [addRoot])

/-- A view keeps its store, its anchor and what it was made from. -/
theorem view_eq (step : Step q q') (hs : q.Has s) :
    (q'.view s).store = (q.view s).store ∧ (q'.view s).anchor = (q.view s).anchor ∧
      (q'.view s).parent = (q.view s).parent := by
  change (q'.viewAt s.index).store = (q.viewAt s.index).store ∧
    (q'.viewAt s.index).anchor = (q.viewAt s.index).anchor ∧
    (q'.viewAt s.index).parent = (q.viewAt s.index).parent
  cases step with
  | stay => exact ⟨rfl, rfl, rfl⟩
  | rewrite _ rewrites => exact ⟨rewrites.store_eq, rewrites.anchor_eq, rewrites.parent_eq⟩
  | view =>
    rw [viewAt_addView hs]
    exact ⟨rfl, rfl, rfl⟩
  | root =>
    rw [viewAt_addRoot hs]
    exact ⟨rfl, rfl, rfl⟩

/-- A store that was there is still there, and only a rewritten one has changed. -/
theorem store_eq (step : Step q q') (hi : i < q.stores.size) :
    q'.store i = q.store i ∨
      ∃ s front win win' back, q.Has s ∧ (q.view s).store = i ∧
        q.Rewrites s front win win' back q' := by
  cases step with
  | stay => exact .inl rfl
  | @rewrite _ s _ _ _ _ hs rewrites =>
    by_cases e : i = (q.view s).store
    · exact .inr ⟨s, _, _, _, _, hs, e.symm, rewrites⟩
    · exact .inl (rewrites.others i e)
  | view => exact .inl rfl
  | root => exact .inl (store_addRoot hi)

/-- An anchor stays current exactly as long as its slot stays linked. -/
theorem isCurrent_iff (step : Step q q') (h : q.Sound) (hs : q.Has s) :
    (q'.base s).isCurrent (q'.view s).anchor ↔ (q.base s).isCurrent (q.view s).anchor ∧
    q'.IsLinked s := by
  obtain ⟨store, anchor, -⟩ := step.view_eq hs
  unfold IsLinked base
  rw [store, anchor]
  change (q'.store (q.viewAt s.index).store).isCurrent (q.viewAt s.index).anchor ↔
    (q.store (q.viewAt s.index).store).isCurrent (q.viewAt s.index).anchor ∧
      ((q'.store (q.viewAt s.index).store).slot (q.viewAt s.index).anchor.slot).live
  rcases step.store_eq (h.store s.index hs) with same
    | ⟨t, front, win, win', back, ht, same, rewrites⟩
  · rw [same, iff_self_and, Store.isCurrent_iff]
    exact And.left
  · rw [← same, rewrites.isCurrent_iff h hs same.symm]
    exact and_congr_right fun _ => (rewrites.ring'.live _).symm

/-- A new view is anchored on a slot in the ring. -/
theorem isCurrent_new (step : Step q q') (h : q.Sound) (absent : ¬q.Has s) (hs : q'.Has s) :
    (q'.base s).isCurrent (q'.view s).anchor := by
  cases step with
  | stay => exact absurd hs absent
  | rewrite _ rewrites => exact absurd (Nat.lt_of_lt_of_eq hs rewrites.views) absent
  | @view t x n ht hx =>
    have new : s.index = q.views.size := (lt_or_eq (size_addView ▸ hs)).resolve_left absent
    change ((q.addView t x n).store ((q.addView t x n).viewAt s.index).store).isCurrent
      ((q.addView t x n).viewAt s.index).anchor
    rw [new, viewAt_addView_size]
    exact ((h.ring _ (h.store t.index ht)).isCurrent_iff _).mpr ⟨hx, rfl⟩
  | root cells =>
    have new : s.index = q.views.size :=
      (lt_or_eq (by simpa [Has, addRoot] using hs)).resolve_left absent
    obtain ⟨ring, -, generation⟩ := Store.isRing_ofCells cells
    change ((q.addRoot cells).store ((q.addRoot cells).viewAt s.index).store).isCurrent
      ((q.addRoot cells).viewAt s.index).anchor
    rw [new, viewAt_addRoot_size, store_addRoot_size]
    exact (ring.isCurrent_iff _).mpr ⟨ring.sentinel_mem, generation⟩

end Step

end Sequences

end CellScript
