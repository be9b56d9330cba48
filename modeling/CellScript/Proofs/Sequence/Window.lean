import CellScript.Proofs.Sequence.History

/-!
# Windows as parts of a list

The cells of a store in link order are a list, and a view is a part of it: as many cells as the view
is long, behind the cells that come before it. A change of the elements of the view is the same
change of that part.

## Main definitions

* `Sequences.offset` — how many cells come before those of a view.
* `Sequences.IsNested` — the part of a view lies inside of those of the views it was made from.
* `Sequences.Replaces` — a part was replaced, and all else is where it was.

## Main statements

* `Sequences.Becomes.replaces` — what changes through a view do to the list.
* `Heap.History.window_changes` — the changes of the elements of a view as changes of lists.
-/

namespace CellScript

namespace Sequences

variable {q q' : Sequences} {s r : SequenceRef} {front win win' back : List Nat} {i j : Nat}
  {cells : List CellRef}

/-- How many cells of the store come before those of a view. -/
def offset (q : Sequences) (s : SequenceRef) : Nat :=
  (q.base s).ring.idxOf (q.view s).anchor.slot

/-- The part of the cells of the store that a view shows. -/
def part (q : Sequences) (s : SequenceRef) : List CellRef :=
  ((q.base s).contents.drop (q.offset s)).take (q.view s).length

/-- The cells of a view are among those of all the views it was made from. -/
def IsNested (q : Sequences) (s : SequenceRef) : Prop :=
  ∀ i ∈ q.lineage s.index, q.offset ⟨i⟩ ≤ q.offset s ∧
    q.offset s + (q.view s).length ≤ q.offset ⟨i⟩ + (q.viewAt i).length

/-- The cells of a view have become `cells`. All others are where they were, the view and those it
was made from are valid and as long as that makes them, and no other view or store has changed. -/
structure Replaces (q : Sequences) (s : SequenceRef) (cells : List CellRef)
    (q' : Sequences) : Prop where
  contents : (q'.base s).contents = (q.base s).contents.take (q.offset s) ++ cells ++
    (q.base s).contents.drop (q.offset s + (q.view s).length)
  snapshot : q'.snapshot s = .ok cells
  root : ∀ r, q.Has r → (q.view r).parent = none → (q.view r).store = (q.view s).store →
    q'.snapshot r = .ok (q'.base s).contents
  fresh : ∀ i ∈ q.lineage s.index, q'.staleness? ⟨i⟩ = none
  offset : ∀ i ∈ q.lineage s.index, q'.offset ⟨i⟩ = q.offset ⟨i⟩
  nested : q.IsNested s → q'.IsNested s ∧ ∀ i ∈ q.lineage s.index,
    (q'.viewAt i).length + (q.view s).length = (q.viewAt i).length + cells.length
  stores : ∀ i, i ≠ (q.view s).store → q'.store i = q.store i
  views : ∀ i, i ∉ q.lineage s.index → q'.viewAt i = q.viewAt i

/-! ## Positions -/

/-- A slot of the ring is as far from the sentinel as there are slots before it. -/
theorem idxOf_ring {store : Store} (h : store.IsRing (front ++ i :: back)) :
    store.ring.idxOf i = front.length := by
  have absent : i ∉ front := fun mem => List.disjoint_of_nodup_append h.nodup mem List.mem_cons_self
  rw [h.eq_ring, List.idxOf_append_of_notMem absent, List.idxOf_cons_self, Nat.add_zero]

theorem Spans.offset_eq (span : q.Spans s front win back) : q.offset s = front.length :=
  idxOf_ring span.ring

/-- The cells of a store are those up to some slot and those behind it. -/
theorem contents_split {store : Store} (h : store.IsRing (front ++ i :: back)) :
    store.contents = (front ++ [i]).tail.map store.cell ++ back.map store.cell := by
  rw [h.contents_eq, ← List.map_append]
  cases front <;> simp

theorem Spans.contents_eq (span : q.Spans s front win back) :
    (q.base s).contents = (front ++ [(q.view s).anchor.slot]).tail.map (q.base s).cell ++
      (win.map (q.base s).cell ++ back.map (q.base s).cell) := by
  rw [contents_split span.ring, List.map_append]

theorem Spans.length_before (span : q.Spans s front win back) :
    ((front ++ [(q.view s).anchor.slot]).tail.map (q.base s).cell).length = q.offset s := by
  rw [span.offset_eq, List.length_map, List.length_tail, List.length_append, List.length_singleton,
    Nat.add_sub_cancel]

theorem Spans.take_contents (span : q.Spans s front win back) :
    (q.base s).contents.take (q.offset s) = (front ++ [(q.view s).anchor.slot]).tail.map
    (q.base s).cell := by
  rw [span.contents_eq, ← span.length_before, List.take_left]

theorem Spans.drop_contents (span : q.Spans s front win back) :
    (q.base s).contents.drop (q.offset s) = win.map (q.base s).cell ++
    back.map (q.base s).cell := by
  rw [span.contents_eq, ← span.length_before, List.drop_left]

theorem Spans.part_eq (span : q.Spans s front win back) : q.part s = win.map (q.base s).cell := by
  rw [part, span.drop_contents, ← span.length, ← List.length_map (f := (q.base s).cell),
    List.take_left]

theorem Spans.behind_eq (span : q.Spans s front win back) :
    (q.base s).contents.drop (q.offset s + (q.view s).length) = back.map (q.base s).cell := by
  rw [← List.drop_drop, span.drop_contents, ← span.length, ← List.length_map (f := (q.base s).cell),
    List.drop_left]

/-- Counting from the end of the ring makes no difference to a view that does not begin at the
front, to an index in the first half, and to a view of all elements. -/
theorem positionAt_eq (inside : i < (q.view s).length)
    (plain : q.offset s ≠ 0 ∨ i ≤ (q.view s).length / 2 ∨
      (q.view s).length = (q.base s).contents.length) :
    q.positionAt s i = i := by
  unfold positionAt
  split
  · rename_i fromEnd
    have first : q.offset s = 0 := by
      rw [offset, fromEnd.1]
      exact List.idxOf_cons_self
    have whole : (q.view s).length = (q.base s).order.length := by
      rw [Store.contents, List.length_map] at plain
      omega
    omega
  · rfl

/-- Views do not go past the end. -/
theorem Spans.offset_add_length (span : q.Spans s front win back) :
    q.offset s + (q.view s).length ≤ (q.base s).contents.length := by
  rw [span.contents_eq, ← span.length_before, ← span.length]
  simp only [List.length_append, List.length_map]
  omega

/-- A root shows all cells of its store. -/
theorem Sound.snapshot_root (h : q.Sound) (hs : q.Has s) (root : (q.view s).parent = none) :
    q.snapshot s = .ok (q.base s).contents := by
  obtain ⟨anchor, length⟩ := h.root s.index hs root
  have ring : (q.base s).IsRing ([] ++ Store.sentinel :: ((q.base s).order ++ [])) := by
    rw [List.append_nil]
    exact h.ring _ (h.store s.index hs)
  have span : q.Spans s [] (q.base s).order [] := by
    refine ⟨?_, length.symm⟩
    rw [show (q.view s).anchor = _ from anchor]
    exact ring
  exact HeapM.snapshot_run (h := { Heap.empty with sequences := q }) (staleness?_of_root root) span

/-- A view that another one was made from was made from the same ones. -/
theorem Sound.lineage_subset (h : q.Sound) (hi : i < q.views.size) (hj : j ∈ q.lineage i) :
    q.lineage j ⊆ q.lineage i := by
  induction i using Nat.strongRecOn with
  | ind i ih =>
    cases known : (q.viewAt i).parent with
    | none =>
      rw [lineage_of_root known, List.mem_singleton] at hj
      exact hj ▸ List.Subset.refl _
    | some p =>
      obtain ⟨lt, -⟩ := h.parent i hi p known
      have split := lineage_of_parent known lt
      rw [split, List.mem_cons] at hj
      rcases hj with rfl | older
      · exact List.Subset.refl _
      · rw [split]
        exact List.Subset.trans (ih p.index lt (Nat.lt_trans lt hi) older)
          (List.subset_cons_self i _)

/-! ## Replaced parts -/

section

variable (h : q.Sound) (hs : q.Has s) (fresh : q.staleness? s = none)
  (span : q.Spans s front win back)

include h hs fresh

/-- The anchor of a view that `s` was made from comes before the elements of `s`. -/
theorem anchor_in_front (ring : (q.base s).IsRing (front ++ (q.view s).anchor.slot :: back))
    (hi : i ∈ q.lineage s.index) :
    (q.viewAt i).anchor.slot ∈ front ++ [(q.view s).anchor.slot] := by
  have valid := (h.staleness?_eq_none_iff hs).mp fresh
  have before := h.before_of_lineage hs (fun j hj => (valid j hj).1) hi
  change Before (q.base s).ring _ _ at before
  rw [ring.eq_ring] at before
  exact Before.mem_of_split ring.nodup before

/-- A view that `s` was made from still begins at the same place, and its end has moved with that of
the ring. -/
theorem Rewrites.lineage_run (rewrites : q.Rewrites s front win win' back q')
    (hi : i ∈ q.lineage s.index) :
    q'.offset ⟨i⟩ = q.offset ⟨i⟩ ∧ (q'.viewAt i).IsValid (q'.store (q.view s).store) := by
  have mem := anchor_in_front h hs fresh rewrites.ring hi
  obtain ⟨lt, same⟩ := And.intro (h.lineage_lt hs hi) (h.of_mem_lineage hs hi).2
  obtain ⟨current, fits⟩ := (h.staleness?_eq_none_iff hs).mp fresh i hi
  obtain ⟨first, more, split⟩ := List.append_of_mem mem
  have place (l : List Nat) : front ++ (q.view s).anchor.slot :: l =
      first ++ (q.viewAt i).anchor.slot :: (more ++ l) := by
    rw [← List.singleton_append, ← List.append_assoc, split, List.append_assoc, List.cons_append]
  have ring := rewrites.ring
  have ring' := rewrites.ring'
  rw [place] at ring ring'
  refine ⟨?_, ?_, ?_⟩
  · have here : q.offset ⟨i⟩ = first.length := by
      unfold offset base
      change ((q.store (q.viewAt i).store).ring).idxOf (q.viewAt i).anchor.slot = _
      rw [same]
      exact idxOf_ring ring
    have there : q'.offset ⟨i⟩ = first.length := by
      unfold offset base
      change ((q'.store (q'.viewAt i).store).ring).idxOf (q'.viewAt i).anchor.slot = _
      rw [rewrites.store_eq, rewrites.anchor_eq, same]
      exact idxOf_ring ring'
    rw [here, there]
  · rw [rewrites.anchor_eq]
    refine (rewrites.isCurrent_iff h lt same).mpr ⟨current, ?_⟩
    rw [place]
    exact List.mem_append_right _ List.mem_cons_self
  · rw [rewrites.anchor_eq, rewrites.length_eq hi]
    have room := ring.fits_iff.mp fits
    refine ring'.fits_iff.mpr ?_
    simp only [List.length_append] at room ⊢
    omega

include span

/-- What a change through a view does to the list of cells. -/
theorem Becomes.replaces (becomes : q.Becomes s front win back q' cells) :
    q.Replaces s cells q' := by
  obtain ⟨win', rewrites, rfl⟩ := becomes
  have sound' := rewrites.sound h hs
  have hs' : q'.Has s := Nat.lt_of_lt_of_eq hs rewrites.views.symm
  have store : (q'.view s).store = (q.view s).store := rewrites.store_eq
  have base : q'.base s = q'.store (q.view s).store := congrArg q'.store store
  have anchor : (q'.view s).anchor = (q.view s).anchor := rewrites.anchor_eq
  have length : (q'.view s).length = win'.length := by
    have := rewrites.length_eq (self_mem_lineage q s.index)
    have := span.length
    unfold view viewAt at *
    omega
  have span' : q'.Spans s front win' back := by
    refine ⟨?_, length.symm⟩
    rw [base, anchor]
    exact rewrites.ring'
  have fresh' : ∀ i ∈ q.lineage s.index, q'.staleness? ⟨i⟩ = none := by
    intro i hi
    have hi' : q'.Has ⟨i⟩ := Nat.lt_of_lt_of_eq (h.lineage_lt hs hi) rewrites.views.symm
    refine (sound'.staleness?_eq_none_iff hi').mpr fun j hj => ?_
    rw [rewrites.lineage_eq] at hj
    change (q'.viewAt j).IsValid (q'.store (q'.viewAt i).store)
    rw [rewrites.store_eq, (h.of_mem_lineage hs hi).2]
    exact (rewrites.lineage_run h hs fresh (h.lineage_subset hs hi hj)).2
  have offsets : ∀ i ∈ q.lineage s.index, q'.offset ⟨i⟩ = q.offset ⟨i⟩ := fun i hi =>
    (rewrites.lineage_run h hs fresh hi).1
  refine ⟨?_, ?_, fun r hr root same => ?_, fresh', offsets, fun nested => ?_, rewrites.others,
    fun i hi => ?_⟩
  · rw [span'.contents_eq, span.take_contents, span.behind_eq, anchor, base, List.append_assoc]
    have unmoved {l : List Nat} (hl : l ⊆ front ++ (q.view s).anchor.slot :: back) :
        l.map (q'.store (q.view s).store).cell = l.map (q.base s).cell :=
      List.map_congr_left fun i hi => rewrites.cell i (hl hi)
    rw [unmoved (l := back) (by simp), unmoved (l := (front ++ [(q.view s).anchor.slot]).tail)
      fun i hi => ?_]
    have := List.mem_of_mem_tail hi
    simp only [List.mem_append, List.mem_cons] at this ⊢
    tauto
  · rw [← base]
    exact HeapM.snapshot_run (h := { Heap.empty with sequences := q' })
      (fresh' _ (self_mem_lineage q _)) span'
  · have hr' : q'.Has r := Nat.lt_of_lt_of_eq hr rewrites.views.symm
    have root' : (q'.view r).parent = none := rewrites.parent_eq.trans root
    rw [sound'.snapshot_root hr' root']
    unfold Sequences.base
    rw [show (q'.view r).store = (q.view r).store from rewrites.store_eq, same, store]
  · have longer : ∀ i ∈ q.lineage s.index,
        (q'.viewAt i).length + (q.view s).length = (q.viewAt i).length + win'.length := by
      intro i hi
      have := nested i hi
      have := rewrites.length_eq hi
      have := span.length
      omega
    rw [List.length_map]
    refine ⟨fun i hi => ?_, longer⟩
    rw [rewrites.lineage_eq] at hi
    rw [offsets i hi, show q'.offset s = q.offset s from offsets _ (self_mem_lineage q _)]
    have := nested i hi
    have := longer i hi
    omega
  · rw [rewrites.view, if_neg hi]

end

end Sequences

variable {h : Heap} {past : List Heap} {s : SequenceRef}

/-- A view that is not stale shows a part of the cells of its store. A change of its elements
changes that part as it changes a list, access past its end adds new cells to that part, and
whatever fails changes nothing. -/
theorem Heap.History.window_changes (history : h.History past) (hs : h.sequences.Has s)
    (fresh : h.sequences.staleness? s = none) :
    h.sequences.offset s + (h.sequences.view s).length ≤ (h.sequences.base s).contents.length ∧
    h.sequences.snapshot s = .ok (h.sequences.part s) ∧
    (∀ (change : WindowEdit) reply cells,
      change.onList h (h.sequences.part s) = .ok (reply, cells) →
      ∃ q', (SequenceRequest.edit s change).perform h = (.ok reply, { h with sequences := q' }) ∧
        h.sequences.Replaces s cells q') ∧
    (∀ (change : WindowEdit) fault, change.onList h (h.sequences.part s) = .error fault →
      (SequenceRequest.edit s change).perform h = (.error fault, h)) ∧
    (∀ index i, resolveIndex index (h.sequences.view s).length = .ok i →
      (h.sequences.view s).length ≤ i →
      ∃ q', (SequenceRequest.element s index).perform h =
          (.ok (.cell ⟨h.cells.size + (i - (h.sequences.view s).length)⟩),
            { h with
              cells := h.cells ++ Array.replicate (i + 1 - (h.sequences.view s).length) .null
              sequences := q' }) ∧
        h.sequences.Replaces s (h.sequences.part s ++
          (List.range' h.cells.size (i + 1 - (h.sequences.view s).length)).map CellRef.mk) q') ∧
    ∀ (request : SequenceRequest) fault, (∀ t, request.target? = some t → h.sequences.Has t) →
      (request.perform h).1 = .error fault → (request.perform h).2 = h := by
  have sound := history.sound
  obtain ⟨front, win, back, span⟩ := sound.exists_spans hs fresh
  rw [span.part_eq]
  refine ⟨span.offset_add_length, HeapM.snapshot_run fresh span, fun change reply cells list => ?_,
    fun change fault list => ?_, fun index i resolved outside =>
      ?_, fun request fault known failed => ?_⟩
  · rcases WindowEdit.perform_run sound hs fresh span change with
      ⟨reply', cells', q', list', run, becomes⟩ | ⟨fault, list', -⟩
    · obtain ⟨rfl, rfl⟩ := Prod.mk.inj (Except.ok.inj (list.symm.trans list'))
      exact ⟨q', run, becomes.replaces sound hs fresh span⟩
    · cases list.symm.trans list'
  · rcases WindowEdit.perform_run sound hs fresh span change with ⟨_, _, _, list', -⟩
      | ⟨fault', list', fails⟩
    · cases list.symm.trans list'
    · obtain rfl := Except.error.inj (list.symm.trans list')
      exact fails.1
  · obtain ⟨q', run, becomes⟩ := HeapM.element_grows sound hs fresh span resolved outside
    exact ⟨q', Sequences.bind_ok run, becomes.replaces sound hs fresh span⟩
  · exact request.unchanged sound known failed

/-- A push through a view of the second and the third one of five elements. -/
theorem Heap.History.window_changes_withView : ∃ q',
    (SequenceRequest.edit ⟨1⟩ (.push ⟨7⟩)).perform (Heap.withView 1 2) =
      (.ok .done, { Heap.withView 1 2 with sequences := q' }) ∧
    (Heap.withView 1 2).sequences.Replaces ⟨1⟩ [⟨1⟩, ⟨2⟩, ⟨7⟩] q' := by
  obtain ⟨-, -, changes, -⟩ :=
      Heap.History.window_changes (Heap.History.withView (x := 1) (n := 2) (by decide))
        (s := ⟨1⟩) (by decide) (Heap.fresh_withView rfl)
  exact changes (.push ⟨7⟩) _ _ rfl

/-- An index leads to a cell of the store that access, search and removal all agree on, and removal
takes out just this cell. Unless a view of fewer elements than the store begins at the front and the
index is in its second half, it is the cell that the view shows at that index. -/
theorem Heap.History.access_by_index (history : h.History past) (hs : h.sequences.Has s)
    (fresh : h.sequences.staleness? s = none) {index : Int} {i : Nat}
    (resolved : resolveIndex index (h.sequences.view s).length = .ok i)
    (inside : i < (h.sequences.view s).length) :
    ∃ cell q', (h.sequences.base s).contents[h.sequences.offset s + h.sequences.positionAt s i]? =
      some cell ∧
      (SequenceRequest.element s index).perform h = (.ok (.cell cell), h) ∧
      (SequenceRequest.find s index).perform h = (.ok (.cell? (some cell)), h) ∧
      (SequenceRequest.removeAt s index).perform h =
      (.ok (.cell cell), { h with sequences := q' }) ∧
      (q'.base s).contents = (h.sequences.base s).contents.eraseIdx
      (h.sequences.offset s + h.sequences.positionAt s i) ∧
      ((h.sequences.offset s ≠ 0 ∨ i ≤ (h.sequences.view s).length / 2 ∨
          (h.sequences.view s).length = (h.sequences.base s).contents.length) →
        (h.sequences.part s)[i]? = some cell ∧
          h.sequences.Replaces s ((h.sequences.part s).eraseIdx i) q') := by
  have sound := history.sound
  obtain ⟨front, win, back, span⟩ := sound.exists_spans hs fresh
  obtain ⟨q', first, second, split, length, run, rewrites, cells⟩ :=
      Sequences.removeAt_run sound hs fresh span resolved inside
  refine ⟨_, q', ?_, Sequences.bind_ok (HeapM.element_run fresh resolved inside),
    Sequences.bind_ok (HeapM.consult_run (HeapM.find_run fresh resolved inside)),
    Sequences.bind_ok (HeapM.onSequences_run run), ?_, fun plain => ?_⟩
  · rw [span.contents_eq, ← span.length_before, ← List.map_append,
      List.getElem?_append_right (Nat.le_add_right _ _), Nat.add_sub_cancel_left, List.getElem?_map,
      Sequences.getElem?_positionAt span inside]
    rfl
  · have base : q'.base s = q'.store (h.sequences.view s).store :=
      congrArg q'.store rewrites.store_eq
    have slot : (q'.view s).anchor.slot = (h.sequences.view s).anchor.slot :=
      congrArg Anchor.slot rewrites.anchor_eq
    have before :
        ((front ++ [(h.sequences.view s).anchor.slot]).tail.map (h.sequences.base s).cell).length =
        h.sequences.offset s := span.length_before
    have ring := span.ring
    rw [split] at ring
    rw [base, Sequences.contents_split rewrites.ring', Sequences.contents_split ring, ← before,
      ← length, List.append_nil, List.map_congr_left fun i _ => cells i, List.map_congr_left
        fun i _ => cells i,
      List.eraseIdx_append_of_length_le (Nat.le_add_right _ _), Nat.add_sub_cancel_left,
      List.map_append, List.map_append, List.map_cons,
      ← List.length_map (f := (h.sequences.base s).cell),
      List.eraseIdx_append_of_length_le (Nat.le_refl _), Nat.sub_self, List.eraseIdx_cons_zero]
  · have same := Sequences.positionAt_eq inside plain
    obtain ⟨q'', run', place, becomes⟩ :=
        Sequences.removeAt_inside sound hs fresh span resolved inside same
    obtain rfl : q' = q'' := (Prod.mk.inj (run.symm.trans run')).2
    rw [span.part_eq]
    exact ⟨place, becomes.replaces sound hs fresh span⟩

/-- The last one of the second and the third one of five elements. -/
theorem Heap.History.access_by_index_withView : ∃ q',
    (SequenceRequest.removeAt ⟨1⟩ (-1)).perform (Heap.withView 1 2) =
      (.ok (.cell ⟨2⟩), { Heap.withView 1 2 with sequences := q' }) ∧
    (Heap.withView 1 2).sequences.Replaces ⟨1⟩ [⟨1⟩] q' := by
  have last : resolveIndex (-1) ((Heap.withView 1 2).sequences.view ⟨1⟩).length = .ok 1 := rfl
  obtain ⟨cell, q', place, -, -, removed, -, plain⟩ := Heap.History.access_by_index
    (Heap.History.withView (x := 1) (n := 2) (by decide)) (by decide) (Heap.fresh_withView rfl)
    last (by decide)
  obtain rfl : ⟨2⟩ = cell := Option.some_inj.mp place
  exact ⟨q', removed, (plain (.inl (by decide))).2⟩

/-- In a view of the first three of five elements the last index leads to the fifth element and not
to the third one. -/
theorem Heap.History.access_by_index_front :
    ¬∀ (h : Heap) (past : List Heap) (s : SequenceRef) (i : Nat) (cell : CellRef), h.History past →
    h.sequences.Has s → h.sequences.staleness? s = none → (h.sequences.part s)[i]? = some cell →
      (SequenceRequest.find s i).perform h = (.ok (.cell? (some cell)), h) := by
  intro agree
  have fresh : (Heap.withView 0 3).sequences.staleness? ⟨1⟩ = none := Heap.fresh_withView rfl
  have shown :=
    agree _ _ ⟨1⟩ 2 ⟨2⟩ (Heap.History.withView (x := 0) (n := 3) (by decide)) (by decide) fresh rfl
  have found : (SequenceRequest.find ⟨1⟩ 2).perform (Heap.withView 0 3) =
      (.ok (.cell? (some ⟨4⟩)), Heap.withView 0 3) :=
    Sequences.bind_ok (HeapM.consult_run (HeapM.find_run fresh (i := 2) rfl (by decide)))
  have same := (Prod.mk.inj (shown.symm.trans found)).1
  injection same with same
  injection same with same
  injection same with same
  injection same with same
  exact absurd same (by decide)

end CellScript
