import CellScript.Proofs.Sequence.Rewrite

/-!
# Operations on views as operations on lists

What each operation on a view that is not stale does to the slots and cells of its window.

## Main definitions

* `Sequences.Spans` — the window of a view as a part of the ring under it.
* `Sequences.Becomes` — a window has come to hold some cells.
* `Sequences.Loses` — slots of a window were taken out.
* `Sequences.positionAt` — the position behind the anchor that an index leads to.

## Main statements

* `Sequences.append_run`, `Sequences.insert_run`, `Sequences.pop_run`, `Sequences.shift_run`,
  `Sequences.removeWhere_run`, `Sequences.clear_run`, `Sequences.reorder_run` — the operations as
  list operations on a window.
* `Sequences.removeAt_run`, `Sequences.removeAt_inside` — removal by index.
-/

namespace CellScript

/-- Linking slots for cells behind a part of the ring. -/
theorem Store.IsRing.insertAllAfter_nthAfter {store : Store} {front win back : List Nat} {i : Nat}
    (h : store.IsRing (front ++ i :: (win ++ back))) (cells : List CellRef) :
    ∃ new, (store.insertAllAfter (store.nthAfter i win.length) cells).IsRing
      (front ++ i :: (win ++ new ++ back)) ∧
      new.map (store.insertAllAfter (store.nthAfter i win.length) cells).cell = cells ∧
      store.Grows (front ++ i :: (win ++ back))
        (store.insertAllAfter (store.nthAfter i win.length) cells)
        (front ++ i :: (win ++ new ++ back)) := by
  obtain ⟨before, eq⟩ := h.nthAfter_split
  have place (l : List Nat) :
      front ++ i :: (win ++ l) = before ++ store.nthAfter i win.length :: l := by
    rw [← List.cons_append, ← List.append_assoc, eq, List.append_assoc, List.singleton_append]
  rw [place] at h ⊢
  obtain ⟨new, ring, cells, grows⟩ := h.insertAllAfter cells
  refine ⟨new, ?_, cells, ?_⟩
  · rw [List.append_assoc, place]
    exact ring
  · rw [List.append_assoc, place]
    exact grows

namespace Sequences

variable {q q' : Sequences} {s : SequenceRef} {front win back rest : List Nat} {i j : Nat}
  {cell : CellRef} {α β : Type}

/-! ## Edits -/

theorem bind_ok {σ : Type} {x : ExceptT Fault (StateM σ) α} {g : α → ExceptT Fault (StateM σ) β}
    {a : α} {q q' : σ} (h : x q = (.ok a, q')) : (x >>= g) q = g a q' := by
  change ExceptT.bindCont g (x q).1 (x q).2 = _
  rw [h]
  rfl

theorem bind_error {σ : Type} {x : ExceptT Fault (StateM σ) α} {g : α → ExceptT Fault (StateM σ) β}
    {e : Fault} {q q' : σ} (h : x q = (.error e, q')) : (x >>= g) q = (.error e, q') := by
  change ExceptT.bindCont g (x q).1 (x q).2 = _
  rw [h]
  rfl

theorem ask_bind_ok {f : Sequences → Except Fault α} {g : α → Edit β} {a : α} (h : f q = .ok a) :
    (ask f >>= g) q = g a q :=
  bind_ok (by rw [ask, h])

theorem ask_bind_error {f : Sequences → Except Fault α} {g : α → Edit β} {e : Fault}
    (h : f q = .error e) :
    (ask f >>= g) q = (.error e, q) :=
  bind_error (by rw [ask, h])

/-! ## Windows -/

/-- The window of a view as a part of the ring under it. -/
structure Spans (q : Sequences) (s : SequenceRef) (front win back : List Nat) : Prop where
  ring : (q.base s).IsRing (front ++ (q.view s).anchor.slot :: (win ++ back))
  length : win.length = (q.view s).length

/-- Where the elements of a view are. -/
def windowOf (q : Sequences) (s : SequenceRef) : Window :=
  ⟨(q.view s).store, (q.view s).anchor.slot, (q.view s).length⟩

theorem window_of_fresh (fresh : q.staleness? s = none) : q.window s = .ok (q.windowOf s) := by
  unfold window
  rw [fresh]
  rfl

theorem window_of_stale {why : Staleness} (stale : q.staleness? s = some why) :
    q.window s = .error (.concurrentModification why) := by
  unfold window
  rw [stale]

theorem Sound.exists_spans (h : q.Sound) (hs : q.Has s) (fresh : q.staleness? s = none) :
    ∃ front win back, q.Spans s front win back := by
  obtain ⟨current, fits⟩ :=
      (h.staleness?_eq_none_iff hs).mp fresh s.index (self_mem_lineage q s.index)
  have ring := h.ring _ (h.store s.index hs)
  change (q.base s).IsRing (q.base s).ring at ring
  obtain ⟨inside, -⟩ := (ring.isCurrent_iff _).mp current
  obtain ⟨front, rest, split⟩ := List.append_of_mem inside
  rw [split] at ring
  have enough : (q.view s).length ≤ rest.length := ring.fits_iff.mp fits
  refine ⟨front, rest.take (q.view s).length, rest.drop (q.view s).length, ?_, ?_⟩
  · rw [List.take_append_drop]
    exact ring
  · rw [List.length_take, Nat.min_eq_left enough]

namespace Spans

variable (span : q.Spans s front win back)

include span

theorem cells_eq : q.cells (q.windowOf s) = win.map (q.base s).cell := by
  have walk := span.ring.slotsAfter_eq
  rw [span.length] at walk
  change ((q.base s).slotsAfter (q.view s).anchor.slot (q.view s).length).map (q.base s).cell = _
  rw [walk]

theorem nodup_win : win.Nodup := by
  have nodup := span.ring.nodup.of_append_right
  exact (List.nodup_cons.mp nodup).2.of_append_left

omit span in
theorem mem_ring (hi : i ∈ win) : i ∈ front ++ (q.view s).anchor.slot :: (win ++ back) := by
  simp [hi]

theorem ne_sentinel (hi : i ∈ win) : i ≠ Store.sentinel := by
  rintro rfl
  have nodup := span.ring.nodup_split.of_append_right
  have twice := List.disjoint_of_nodup_append nodup (List.mem_append_left back hi)
  exact twice List.mem_cons_self

theorem notMem_win (hi : i ∈ front ++ (q.view s).anchor.slot :: back) : i ∉ win := by
  have perm : (front ++ (q.view s).anchor.slot :: (win ++ back)).Perm
      (win ++ (front ++ (q.view s).anchor.slot :: back)) := by
    have := List.perm_append_comm_assoc (front ++ [(q.view s).anchor.slot]) win back
    simpa using this
  have apart := List.disjoint_of_nodup_append (perm.nodup_iff.mp span.ring.nodup)
  exact fun mem => apart mem hi

end Spans

/-! ## Changes through a view -/

/-- Linking slots for cells inside of the window. -/
theorem link_rewrites (first second : List Nat) (h : q.Sound) (hs : q.Has s)
    (ring : (q.base s).IsRing (front ++ (q.view s).anchor.slot :: (first ++ second ++ back)))
    (cells : List CellRef) :
    ∃ new q', q' = q.change s (fun store =>
          store.insertAllAfter (store.nthAfter (q.view s).anchor.slot first.length) cells)
          (· + cells.length) ∧
      q.Rewrites s front (first ++ second) (first ++ new ++ second) back q' ∧
      (first ++ new ++ second).map (q'.store (q.view s).store).cell =
        first.map (q.base s).cell ++ cells ++ second.map (q.base s).cell := by
  have split :
      (q.base s).IsRing (front ++ (q.view s).anchor.slot :: (first ++ (second ++ back))) := by
    rwa [← List.append_assoc]
  obtain ⟨new, ring', written, grows⟩ := split.insertAllAfter_nthAfter cells
  have long : new.length = cells.length := by rw [← written, List.length_map]
  rw [← List.append_assoc] at ring'
  rw [← List.append_assoc, ← List.append_assoc (first ++ new)] at grows
  refine ⟨new, _, rfl, .of_change h hs ring ring' grows.evolves (fun i hi => grows.cell i ?_)
    fun n => ?_, ?_⟩
  · simp only [List.mem_append, List.mem_cons] at hi ⊢
    tauto
  · simp only [List.length_append]
    omega
  · have same {l : List Nat} (hl : l ⊆ first ++ second) :
        l.map ((q.base s).insertAllAfter ((q.base s).nthAfter (q.view s).anchor.slot first.length)
          cells).cell =
          l.map (q.base s).cell :=
      List.map_congr_left fun i hi => grows.cell i (by
        have := hl hi
        simp only [List.mem_append, List.mem_cons] at this ⊢
        tauto)
    rw [store_change h hs]
    simp only [List.map_append, written, same (List.subset_append_left first second),
      same (List.subset_append_right first second)]

/-- Unlinking slots behind the anchor. -/
theorem unlink_rewrites (win' : List Nat) (h : q.Sound) (hs : q.Has s) {f : Store → Store}
    {g : Nat → Nat} (ring : (q.base s).IsRing (front ++ (q.view s).anchor.slot :: (win ++ back)))
    (ring' : (f (q.base s)).IsRing (front ++ (q.view s).anchor.slot :: (win' ++ back)))
    (shrinks : (q.base s).Shrinks (front ++ (q.view s).anchor.slot :: (win ++ back)) (f (q.base s))
      (front ++ (q.view s).anchor.slot :: (win' ++ back)))
    (length : ∀ n, g n = n + win'.length - win.length) :
    q.Rewrites s front win win' back (q.change s f g) ∧
      ∀ i, ((q.change s f g).store (q.view s).store).cell i = (q.base s).cell i := by
  refine ⟨.of_change h hs ring ring' (shrinks.evolves ring.nodup) (fun i _ => shrinks.cell i)
    length, fun i => ?_⟩
  rw [store_change h hs]
  exact shrinks.cell i

/-- The window of a view has come to hold some cells, and all else is where it was. -/
def Becomes (q : Sequences) (s : SequenceRef) (front win back : List Nat) (q' : Sequences)
    (cells : List CellRef) :
    Prop :=
  ∃ win', q.Rewrites s front win win' back q' ∧ win'.map (q'.store (q.view s).store).cell = cells

/-- Slots of the window of a view were taken out, which leaves `cells`. All other slots and all
cells are as they were. -/
def Loses (q : Sequences) (s : SequenceRef) (front win back : List Nat) (q' : Sequences)
    (cells : List CellRef) :
    Prop :=
  ∃ win', q.Rewrites s front win win' back q' ∧ win'.Sublist win ∧
    (∀ i, (q'.store (q.view s).store).cell i = (q.base s).cell i) ∧ win'.map (q.base s).cell = cells

theorem Loses.becomes {cells : List CellRef} (loses : q.Loses s front win back q' cells) :
    q.Becomes s front win back q' cells := by
  obtain ⟨win', rewrites, -, same, rfl⟩ := loses
  exact ⟨win', rewrites, List.map_congr_left fun i _ => same i⟩

theorem Rewrites.refl
    (ring : (q.base s).IsRing (front ++ (q.view s).anchor.slot :: (win ++ back))) :
    q.Rewrites s front win win back q where
  ring := ring
  ring' := ring
  evolves := (Store.Shrinks.refl _ _).evolves ring.nodup
  cell _ _ := rfl
  others _ _ := rfl
  stores := rfl
  views := rfl
  view i := by simp

/-! ## The operations -/

section

variable (h : q.Sound) (hs : q.Has s) (fresh : q.staleness? s = none)
  (span : q.Spans s front win back)

include h hs fresh span

theorem append_run (cells : List CellRef) :
    ∃ q', append s cells q = (.ok (), q') ∧
      q.Becomes s front win back q' (win.map (q.base s).cell ++ cells) := by
  obtain ⟨new, q', rfl, rewrites, written⟩ :=
    link_rewrites win [] h hs (by simpa using span.ring) cells
  refine ⟨_, ?_, win ++ new, by simpa using rewrites, by simpa using written⟩
  rw [append, ask_bind_ok (window_of_fresh fresh), span.length]
  rfl

theorem insert_run {index : Int} {k : Nat} (resolved : resolveIndex index (q.view s).length = .ok k)
    (hk : k ≤ (q.view s).length) (cell : CellRef) :
    ∃ q', insert s index cell q = (.ok (), q') ∧ q.Becomes s front win back q'
      ((win.map (q.base s).cell).take k ++ [cell] ++ (win.map (q.base s).cell).drop k) := by
  have length : (win.take k).length = k := by
    rw [List.length_take, span.length, Nat.min_eq_left hk]
  obtain ⟨new, q', rfl, rewrites, written⟩ := link_rewrites (win.take k) (win.drop k) h hs
    (by rw [List.take_append_drop]; exact span.ring) [cell]
  rw [List.take_append_drop] at rewrites
  refine ⟨_, ?_, _, rewrites, by simpa [List.map_take, List.map_drop] using written⟩
  rw [insert, ask_bind_ok (window_of_fresh fresh), ask_bind_ok resolved, length]
  change (if (q.view s).length < k then throw _ else _ : Edit Unit) q = _
  rw [if_neg (Nat.not_lt.mpr hk)]
  rfl

omit fresh span in
/-- Taking out one element behind the anchor. -/
theorem drop_run (first second : List Nat) {x : Nat}
    (ring : (q.base s).IsRing (front ++ (q.view s).anchor.slot :: (first ++ x :: second ++ back))) :
    ∃ q', drop s (q.windowOf s) x q = (.ok ((q.base s).cell x), q') ∧
      q.Rewrites s front (first ++ x :: second) (first ++ second) back q' ∧
      ∀ i, (q'.store (q.view s).store).cell i = (q.base s).cell i := by
  have split :
      (q.base s).IsRing ((front ++ (q.view s).anchor.slot :: first) ++ x :: (second ++ back)) := by
    simpa using ring
  have ne : x ≠ Store.sentinel := by
    intro e
    have nodup := split.nodup
    rw [split.eq_cons, e] at nodup
    have mem : Store.sentinel ∈
        ((front ++ (q.view s).anchor.slot :: first) ++ Store.sentinel ::
          (second ++ back)).tail := by
      cases front <;> simp
    exact (List.nodup_cons.mp nodup).1 mem
  have unlinked :
      ((q.base s).unlink x).IsRing
        (front ++ (q.view s).anchor.slot :: (first ++ second ++ back)) := by
    simpa using split.unlink ne
  have shrinks :
      (q.base s).Shrinks (front ++ (q.view s).anchor.slot :: (first ++ x :: second ++ back))
      ((q.base s).unlink x) (front ++ (q.view s).anchor.slot :: (first ++ second ++ back)) := by
    simpa using Store.shrinks_unlink (q.base s) (front ++ (q.view s).anchor.slot :: first)
      (second ++ back) x
  obtain ⟨rewrites, cells⟩ :=
      unlink_rewrites (first ++ second) (f := (·.unlink x)) (g := (· - 1)) h hs ring unlinked
        shrinks fun n => by
      simp only [List.length_append, List.length_cons]
      omega
  refine ⟨_, ?_, rewrites, cells⟩
  rfl

theorem pop_run :
    ∃ q', pop s q = (.ok (win.map (q.base s).cell).getLast?, q') ∧
      q.Loses s front win back q' (win.map (q.base s).cell).dropLast := by
  rw [pop, ask_bind_ok (window_of_fresh fresh)]
  change ∃ q', (if (q.view s).length = 0 then _ else _ : Edit (Option CellRef)) q = _ ∧ _
  rcases List.eq_nil_or_concat win with rfl | ⟨most, x, rfl⟩
  · have empty : (q.view s).length = 0 := span.length.symm
    rw [if_pos empty]
    exact ⟨q, rfl, [], .refl span.ring, .slnil, fun _ => rfl, rfl⟩
  · rw [List.concat_eq_append] at span ⊢
    have length : (q.view s).length = most.length + 1 := by
      rw [← span.length, List.length_append]; rfl
    have last : (q.base s).nthAfter (q.view s).anchor.slot (q.view s).length = x := by
      obtain ⟨before, eq⟩ := span.ring.nthAfter_split
      rw [span.length, ← List.cons_append, ← List.append_assoc] at eq
      exact (List.cons.inj (List.append_inj_right' eq rfl)).1.symm
    obtain ⟨q', run, rewrites, cells⟩ := drop_run h hs most [] span.ring
    rw [if_neg (by omega), ask_bind_ok (a := x) (congrArg Except.ok last), bind_ok run]
    exact ⟨q', by simp; rfl, most, by simpa using rewrites, List.sublist_append_left most [x],
      cells, by simp⟩

theorem shift_run :
    ∃ q', shift s q = (.ok (win.map (q.base s).cell).head?, q') ∧
      q.Loses s front win back q' (win.map (q.base s).cell).tail := by
  rw [shift, ask_bind_ok (window_of_fresh fresh)]
  change ∃ q', (if (q.view s).length = 0 then _ else _ : Edit (Option CellRef)) q = _ ∧ _
  cases win with
  | nil =>
    have empty : (q.view s).length = 0 := span.length.symm
    rw [if_pos empty]
    exact ⟨q, rfl, [], .refl span.ring, .slnil, fun _ => rfl, rfl⟩
  | cons x rest =>
    have length : (q.view s).length = rest.length + 1 := span.length.symm
    have first : (q.base s).next (q.view s).anchor.slot = x :=
      (span.ring.chain_of_split.rel_head? rfl).1
    obtain ⟨q', run, rewrites, cells⟩ := drop_run h hs [] rest span.ring
    rw [if_neg (by omega), ask_bind_ok (a := x) (congrArg Except.ok first), bind_ok run]
    exact ⟨q', rfl, rest, rewrites, List.sublist_cons_self x rest, cells, rfl⟩

theorem removeWhere_run (p : CellRef → Bool) :
    ∃ q', removeWhere s p q = (.ok ((win.map (q.base s).cell).countP p), q') ∧
      q.Loses s front win back q' ((win.map (q.base s).cell).filter fun cell => !p cell) := by
  let doomed := win.filter fun slot => p ((q.base s).cell slot)
  let kept := win.filter fun slot => !p ((q.base s).cell slot)
  have chosen : ((q.base s).slotsAfter (q.view s).anchor.slot (q.view s).length).filter
      (fun slot => p ((q.base s).cell slot)) = doomed := by
    rw [← span.length, span.ring.slotsAfter_eq]
  have stays {l : List Nat} (hl : ∀ i ∈ l, i ∉ win) : l.filter (· ∉ doomed) = l :=
    List.filter_eq_self.mpr fun i hi => decide_eq_true fun mem =>
      hl i hi (List.mem_of_mem_filter mem)
  have left : (front ++ (q.view s).anchor.slot :: (win ++ back)).filter (· ∉ doomed) =
      front ++ (q.view s).anchor.slot :: (kept ++ back) := by
    have inside : win.filter (· ∉ doomed) = kept := by
      refine List.filter_congr fun i hi => ?_
      simp [doomed, hi]
    have anchor : (q.view s).anchor.slot ∉ doomed := fun mem =>
      span.notMem_win (by simp) (List.mem_of_mem_filter mem)
    rw [List.filter_append, List.filter_cons_of_pos (by simpa using anchor), List.filter_append,
      inside, stays fun i hi => span.notMem_win (by simp [hi]), stays fun i hi =>
        span.notMem_win (by simp [hi])]
  obtain ⟨ring', shrinks⟩ :=
      span.ring.unlinkAll (span.nodup_win.filter fun slot => p ((q.base s).cell slot)) fun i hi =>
        ⟨Spans.mem_ring (List.mem_of_mem_filter hi), span.ne_sentinel (List.mem_of_mem_filter hi)⟩
  rw [left] at ring' shrinks
  obtain ⟨rewrites, cells⟩ :=
      unlink_rewrites kept (f := fun store => doomed.foldl Store.unlink store)
        (g := (· - doomed.length)) h hs span.ring ring' shrinks fun n => by
          have parts : win.length = doomed.length + kept.length := by
            simpa [doomed, kept] using List.length_eq_length_filter_add fun slot =>
              p ((q.base s).cell slot)
          omega
  refine ⟨_, ?_, kept, rewrites, List.filter_sublist, cells, ?_⟩
  · rw [removeWhere, ask_bind_ok (window_of_fresh fresh),
      ask_bind_ok (a := doomed) (congrArg Except.ok chosen)]
    have count : doomed.length = (win.map (q.base s).cell).countP p := by
      rw [List.countP_map, List.countP_eq_length_filter]
      rfl
    rw [← count]
    rfl
  · rw [List.filter_map]
    rfl

theorem clear_run :
    ∃ q', clear s q = (.ok (), q') ∧ q.Loses s front win back q' [] := by
  obtain ⟨ring', shrinks⟩ := span.ring.unlinkAfter
  rw [span.length] at ring' shrinks
  obtain ⟨rewrites, cells⟩ := unlink_rewrites []
    (f := (·.unlinkAfter (q.view s).anchor.slot (q.view s).length)) (g := (· - (q.view s).length))
    h hs span.ring ring' shrinks fun n => by
      rw [span.length]
      rfl
  refine ⟨_, ?_, [], rewrites, List.nil_sublist win, cells, rfl⟩
  rw [clear, ask_bind_ok (window_of_fresh fresh)]
  rfl

theorem reorder_run {cells : List CellRef} (length : cells.length = (q.view s).length) :
    ∃ q', reorder s cells q = (.ok (), q') ∧ q.Becomes s front win back q' cells := by
  obtain ⟨ring', written, others, generation, size⟩ := span.ring.setCells cells
    (fun i hi => Spans.mem_ring hi) span.nodup_win (span.length.trans length.symm)
  have evolves : (q.base s).Evolves (front ++ (q.view s).anchor.slot :: (win ++ back)) _
      (front ++ (q.view s).anchor.slot :: (win ++ back)) :=
    ⟨fun i _ _ => generation i, fun _ mem absent => absurd mem absent,
      fun i => Nat.le_of_eq (generation i).symm, Nat.le_of_eq size.symm,
      fun _ _ _ _ _ _ before => before⟩
  have rewrites : q.Rewrites s front win win back (q.change s (fun store =>
      (win.zip cells).foldl (fun store pair => store.setCell pair.1 pair.2) store) id) :=
    .of_change h hs span.ring ring' evolves (fun i hi => others i (span.notMem_win hi)) fun n => by
      simp
  refine ⟨_, ?_, win, rewrites, by rw [store_change h hs]; exact written⟩
  have walk : (q.base s).slotsAfter (q.view s).anchor.slot (q.view s).length = win := by
    rw [← span.length, span.ring.slotsAfter_eq]
  rw [change_id, reorder, ask_bind_ok (window_of_fresh fresh)]
  change (if cells.length ≠ (q.view s).length then throw _ else _ : Edit Unit) q = _
  rw [if_neg (not_not.mpr length)]
  refine congrArg (Prod.mk (Except.ok ())) (modifyStore_congr (h.store s.index hs) ?_)
  change (((q.base s).slotsAfter (q.view s).anchor.slot (q.view s).length).zip cells).foldl _ _ = _
  rw [walk]

/-- The position behind the anchor that an index stands for. In a view that is anchored on the
sentinel an index in the second half is counted from the end of the ring. -/
def positionAt (q : Sequences) (s : SequenceRef) (index : Nat) : Nat :=
  if (q.view s).anchor.slot = Store.sentinel ∧ (q.view s).length / 2 < index then
    (q.base s).order.length - ((q.view s).length - index)
  else index

omit h hs fresh in
theorem getElem?_positionAt {k : Nat} (hk : k < (q.view s).length) :
    (win ++ back)[q.positionAt s k]? = some (slotAt (q.base s) (q.windowOf s) k) := by
  unfold positionAt slotAt
  by_cases fromEnd : (q.view s).anchor.slot = Store.sentinel ∧ (q.view s).length / 2 < k
  · have fromEnd' : (q.windowOf s).slot = Store.sentinel ∧ (q.windowOf s).length / 2 < k := fromEnd
    rw [if_pos fromEnd, if_pos fromEnd', span.ring.order_eq]
    have ring := span.ring
    rw [fromEnd.1] at ring ⊢
    obtain rfl : front = [] := by
      have nodup := ring.nodup
      cases front with
      | nil => rfl
      | cons i rest =>
        obtain rfl : i = Store.sentinel := Option.some_inj.mp ring.head
        simp at nodup
    have bound : (q.view s).length ≤ (win ++ back).length := by
      rw [← span.length, List.length_append]
      exact Nat.le_add_right _ _
    have walk := ring.nthBefore_eq (n := (q.view s).length - k) (by omega) (by
      rw [List.nil_append, List.length_cons]
      omega)
    rw [List.nil_append, List.length_cons, Nat.succ_sub (by omega), List.getElem?_cons_succ] at walk
    exact walk
  · have fromEnd' : ¬((q.windowOf s).slot = Store.sentinel ∧ (q.windowOf s).length / 2 < k) :=
      fromEnd
    rw [if_neg fromEnd, if_neg fromEnd']
    have chain : ((q.view s).anchor.slot :: win).IsChain (q.base s).Linked :=
      List.IsChain.prefix span.ring.chain_of_split ⟨back ++ [Store.sentinel], by simp⟩
    have inside : k < win.length := span.length ▸ hk
    have walk := Store.nthAfter_of_chain chain (n := k + 1) inside
    rw [List.getElem?_cons_succ] at walk
    rw [List.getElem?_append_left inside]
    exact walk

omit h hs span in
/-- Removal by index takes out the slot that the index leads to. -/
theorem removeAt_eq {index : Int} {k : Nat}
    (resolved : resolveIndex index (q.view s).length = .ok k) (hk : k < (q.view s).length) :
    removeAt s index q = drop s (q.windowOf s) (slotAt (q.base s) (q.windowOf s) k) q := by
  rw [removeAt, ask_bind_ok (window_of_fresh fresh), ask_bind_ok resolved]
  change (if (q.view s).length ≤ k then throw _ else _ : Edit CellRef) q = _
  rw [if_neg (Nat.not_le.mpr hk)]
  exact ask_bind_ok rfl

theorem removeAt_run {index : Int} {k : Nat}
    (resolved : resolveIndex index (q.view s).length = .ok k) (hk : k < (q.view s).length) :
    ∃ q' first second, win ++ back = first ++ slotAt (q.base s) (q.windowOf s) k :: second ∧
      first.length = q.positionAt s k ∧
      removeAt s index q = (.ok ((q.base s).cell (slotAt (q.base s) (q.windowOf s) k)), q') ∧
      q.Rewrites s front (first ++ slotAt (q.base s) (q.windowOf s) k :: second) (first ++ second)
        [] q' ∧
      ∀ i, (q'.store (q.view s).store).cell i = (q.base s).cell i := by
  obtain ⟨inside, here⟩ := List.getElem?_eq_some_iff.mp (getElem?_positionAt span hk)
  have split :
      win ++ back = (win ++ back).take (q.positionAt s k) ++ slotAt (q.base s) (q.windowOf s) k ::
      (win ++ back).drop (q.positionAt s k + 1) := by
    rw [← here, ← List.drop_eq_getElem_cons inside, List.take_append_drop]
  have ring : (q.base s).IsRing (front ++ (q.view s).anchor.slot ::
      ((win ++ back).take (q.positionAt s k) ++ slotAt (q.base s) (q.windowOf s) k ::
        (win ++ back).drop (q.positionAt s k + 1) ++ [])) := by
    rw [List.append_nil, ← split]
    exact span.ring
  obtain ⟨q', run, rewrites, cells⟩ := drop_run h hs _ _ ring
  refine ⟨q', _, _, split, ?_, (removeAt_eq fresh resolved hk).trans run, rewrites, cells⟩
  rw [List.length_take, Nat.min_eq_left (Nat.le_of_lt inside)]

/-- Removal by index as an operation on the list of the elements, where the index is not counted
from the end of the ring. -/
theorem removeAt_inside {index : Int} {k : Nat}
    (resolved : resolveIndex index (q.view s).length = .ok k) (hk : k < (q.view s).length)
    (plain : q.positionAt s k = k) :
    ∃ q', removeAt s index q = (.ok ((q.base s).cell (slotAt (q.base s) (q.windowOf s) k)), q') ∧
      (win.map (q.base s).cell)[k]? = some ((q.base s).cell (slotAt (q.base s) (q.windowOf s) k)) ∧
      q.Becomes s front win back q' ((win.map (q.base s).cell).eraseIdx k) := by
  have inside : k < win.length := span.length ▸ hk
  have place := getElem?_positionAt span hk
  rw [plain, List.getElem?_append_left inside] at place
  obtain ⟨_, here⟩ := List.getElem?_eq_some_iff.mp place
  have split : win = win.take k ++ slotAt (q.base s) (q.windowOf s) k :: win.drop (k + 1) := by
    rw [← here, ← List.drop_eq_getElem_cons inside, List.take_append_drop]
  have ring := span.ring
  rw [split] at ring
  obtain ⟨q', run, rewrites, cells⟩ := drop_run h hs _ _ ring
  rw [← split] at rewrites
  refine ⟨q', (removeAt_eq fresh resolved hk).trans run, by rw [List.getElem?_map, place]; rfl,
    win.take k ++ win.drop (k + 1), rewrites, ?_⟩
  rw [List.map_congr_left fun i _ => cells i, ← List.eraseIdx_eq_take_drop_succ, List.eraseIdx_map]

end

end Sequences

end CellScript
