import CellScript.Proofs.Sequence.Window

/-!
# Removals from the window of a view by others

A view knows the slot before its first element and how many elements it has. When elements are taken
out of its window through a view that is not made from it, its length stays as it is, so the view
comes to show as many of the elements behind its window as it has lost. It notices only when there
are not as many, or when the slot before its first element is taken out as well; and so for each of
the views it was made from.

## Main definitions

* `SequenceRequest.Removes` — the requests that take elements out.
* `Sequences.shown`, `Sequences.behind` — the slots of the elements of a view and those behind them.

## Main statements

* `Sequences.Loses.following_eq` — what is left behind an anchor.
* `Sequences.Loses.staleness?_eq_none_iff` — when a view is stale after others have taken elements
  out.
* `Heap.History.removal_noticed_iff` — which removals a view notices, and what it shows after the
  others.
-/

namespace CellScript

/-- A request that takes elements out. -/
def SequenceRequest.Removes : SequenceRequest → Prop
  | .removeAt _ _ | .edit _ .pop | .edit _ .shift | .edit _ (.removeEqual _) | .edit _ .clear =>
    True
  | _ => False

variable {h : Heap} {past : List Heap} {q q' : Sequences} {s r : SequenceRef}
  {front win back : List Nat} {cells : List CellRef} {request access : SequenceRequest} {i : Nat}

open Sequences

/-! ## Sublists of rings -/

/-- A sublist of a list without repetitions is what is left of it without the elements that are not
in the sublist. -/
theorem filter_mem_of_sublist {l l' : List Nat} (nodup : l.Nodup) (sub : l'.Sublist l) :
    l.filter (· ∈ l') = l' := by
  induction sub with
  | slnil => rfl
  | cons a sub ih =>
    obtain ⟨absent, nodup⟩ := List.nodup_cons.mp nodup
    rw [List.filter_cons_of_neg (by simpa using fun mem => absent (sub.subset mem)), ih nodup]
  | @cons_cons l' l a sub ih =>
    obtain ⟨absent, nodup⟩ := List.nodup_cons.mp nodup
    rw [List.filter_cons_of_pos (by simp), ← List.filter_congr fun b hb => ?_, ih nodup]
    have apart : b ≠ a := fun e => absent (e ▸ hb)
    simp [apart]

/-- What follows a slot after others were taken out. -/
theorem Store.following_of_sublist {store store' : Store} {ring ring' : List Nat}
    (h : store.IsRing ring) (h' : store'.IsRing ring') (sub : ring'.Sublist ring) (hi : i ∈ ring') :
    store'.following i = (store.following i).filter fun j => (store'.slot j).live := by
  obtain ⟨front, back, rfl⟩ := List.append_of_mem (sub.subset hi)
  have same := filter_mem_of_sublist h.nodup sub
  rw [List.filter_append, List.filter_cons_of_pos (by simpa using hi)] at same
  have place : store'.following i = back.filter (· ∈ ring') := (same ▸ h').following_eq
  rw [place, h.following_eq]
  exact List.filter_congr fun j _ => by rw [Bool.eq_iff_iff, decide_eq_true_iff, h'.live]

namespace Sequences

/-- The slots behind the anchor of a view. -/
def followers (q : Sequences) (s : SequenceRef) : List Nat :=
  (q.base s).following (q.view s).anchor.slot

/-- The slots of the elements of a view. -/
def shown (q : Sequences) (s : SequenceRef) : List Nat :=
  (q.followers s).take (q.view s).length

/-- The slots behind the elements of a view. -/
def behind (q : Sequences) (s : SequenceRef) : List Nat :=
  (q.followers s).drop (q.view s).length

/-- What is left of some slots in the ring under a view. -/
def left (q' : Sequences) (s : SequenceRef) (slots : List Nat) : List Nat :=
  slots.filter fun i => ((q'.base s).slot i).live

/-- After others have taken elements out through `r`, the slot before the first element of `s` is
gone or too few slots are left behind it; or so it is with a view that `s` was made from and `r` was
not. -/
def Overruns (q q' : Sequences) (s r : SequenceRef) : Prop :=
  ∃ i ∈ q.lineage s.index, i ∉ q.lineage r.index ∧
    (¬q'.IsLinked ⟨i⟩ ∨ (q'.left ⟨i⟩ (q.followers ⟨i⟩)).length < (q.viewAt i).length)

/-! ## Views and what follows them -/

theorem Spans.followers_eq (span : q.Spans s front win back) : q.followers s = win ++ back :=
  span.ring.following_eq

theorem Spans.shown_eq (span : q.Spans s front win back) : q.shown s = win := by
  rw [shown, span.followers_eq, ← span.length, List.take_left]

/-- A view that is not stale shows the cells of its slots. -/
theorem Sound.snapshot_eq (sound : q.Sound) (hs : q.Has s) (fresh : q.staleness? s = none) :
    q.snapshot s = .ok ((q.shown s).map (q.base s).cell) := by
  obtain ⟨front, win, back, span⟩ := sound.exists_spans hs fresh
  rw [span.shown_eq]
  exact HeapM.snapshot_run (h := { Heap.empty with sequences := q }) fresh span

theorem Sound.isValid_iff (sound : q.Sound) (hs : q.Has s) : (q.view s).IsValid (q.base s) ↔
    (q.base s).isCurrent (q.view s).anchor ∧ (q.view s).length ≤ (q.followers s).length := by
  have ring := sound.ring _ (sound.store s.index hs)
  exact and_congr_right fun current => ring.fits_iff_following ((ring.isCurrent_iff _).mp current).1

/-- A view is not stale as long as its anchor and those of the views it was made from are current
and followed by enough slots. -/
theorem Sound.fresh_iff (sound : q.Sound) (hs : q.Has s) : q.staleness? s = none ↔
    ∀ i ∈ q.lineage s.index, (q.base ⟨i⟩).isCurrent (q.viewAt i).anchor ∧
      (q.viewAt i).length ≤ (q.followers ⟨i⟩).length := by
  rw [sound.staleness?_eq_none_iff hs]
  refine forall₂_congr fun i hi => ?_
  have same : q.store (q.view s).store = q.base ⟨i⟩ :=
    congrArg q.store (sound.of_mem_lineage hs hi).2.symm
  rw [same]
  exact sound.isValid_iff (sound.lineage_lt hs hi)

/-! ## Removals -/

namespace Loses

variable (sound : q.Sound) (hs : q.Has s) (fresh : q.staleness? s = none) (hr : q.Has r)
  (served : q.staleness? r = none) (loses : q.Loses r front win back q' cells)
  (same : (q.view s).store = (q.view r).store)

include loses

theorem base_eq : q'.base s = q'.store (q.view s).store := by
  obtain ⟨_, rewrites, -⟩ := loses
  exact congrArg q'.store rewrites.store_eq

/-- Views onto other stores do not change. -/
theorem base_of_ne (other : (q.view s).store ≠ (q.view r).store) : q'.base s = q.base s := by
  rw [loses.base_eq]
  obtain ⟨_, rewrites, -⟩ := loses
  exact rewrites.others _ other

include same

theorem cell_eq (i : Nat) : (q'.base s).cell i = (q.base s).cell i := by
  rw [loses.base_eq, same]
  obtain ⟨_, _, _, kept, -⟩ := loses
  exact (kept i).trans (congrArg (fun n => (q.store n).cell i) same.symm)

/-- What follows the anchor of a view afterwards is what is left of what followed it before. -/
theorem followers_eq (linked : q'.IsLinked s) : q'.followers s = q'.left s (q.followers s) := by
  unfold IsLinked at linked
  unfold followers left
  rw [loses.base_eq, same] at linked ⊢
  obtain ⟨win', rewrites, sub, -⟩ := loses
  rw [show (q'.view s).anchor = (q.view s).anchor from rewrites.anchor_eq] at linked ⊢
  rw [show q.base s = q.base r from congrArg q.store same]
  refine Store.following_of_sublist rewrites.ring rewrites.ring' ?_
    ((rewrites.ring'.live _).mp linked)
  exact ((sub.append_right back).cons_cons _).append_left front

include sound hs fresh hr served

/-- The views that the removal went through know of it. The others are stale once they overrun. -/
theorem staleness?_eq_none_iff : q'.staleness? s = none ↔ ¬q.Overruns q' s r := by
  have step : q.Step q' := loses.becomes.step hr
  have sound' := step.sound sound
  rw [sound'.fresh_iff (step.has hs)]
  unfold Overruns
  push Not
  obtain ⟨win', rewrites, more⟩ := id loses
  rw [rewrites.lineage_eq]
  refine forall₂_congr fun i hi => ?_
  have hi' : q.Has ⟨i⟩ := sound.lineage_lt hs hi
  have store : (q.view ⟨i⟩).store = (q.view r).store := (sound.of_mem_lineage hs hi).2.trans same
  by_cases mine : i ∈ q.lineage r.index
  · refine iff_of_true ?_ fun out => absurd mine out
    have valid := (rewrites.lineage_run sound hr served mine).2
    rw [← store, ← loses.base_eq] at valid
    exact (sound'.isValid_iff (step.has hi')).mp valid
  · have current := ((sound.fresh_iff hs).mp fresh i hi).1
    have length : (q'.viewAt i).length = (q.viewAt i).length := by
      rw [rewrites.view]
      exact if_neg mine
    have linked : (q'.base ⟨i⟩).isCurrent (q'.viewAt i).anchor ↔ q'.IsLinked ⟨i⟩ :=
      (step.isCurrent_iff sound hi').trans (and_iff_right current)
    rw [linked, length, forall_prop_of_true mine]
    exact and_congr_right fun linked => by rw [loses.followers_eq store linked]

omit fresh served in
/-- A view that does not overrun shows what is left of its window, and as many of the elements
behind it as it has lost. -/
theorem snapshot_eq (foreign : s.index ∉ q.lineage r.index) (fresh' : q'.staleness? s = none) :
    q'.snapshot s = .ok ((q'.left s (q.shown s) ++
      (q'.left s (q.behind s)).take
      ((q.view s).length - (q'.left s (q.shown s)).length)).map (q.base s).cell) := by
  have step : q.Step q' := loses.becomes.step hr
  have linked : q'.IsLinked s :=
    ((step.isCurrent_iff sound hs).mp (((step.sound sound).fresh_iff (step.has hs)).mp fresh' _
      (self_mem_lineage q' s.index)).1).2
  have length : (q'.view s).length = (q.view s).length := by
    obtain ⟨_, rewrites, -⟩ := loses
    change (q'.viewAt s.index).length = (q.viewAt s.index).length
    rw [rewrites.view]
    exact if_neg foreign
  have room : (q'.left s (q.shown s)).length ≤ (q.view s).length :=
    (List.length_filter_le _ _).trans (List.length_take_le _ _)
  have parts : q'.left s (q.followers s) = q'.left s (q.shown s) ++ q'.left s (q.behind s) := by
    rw [left, left, left, ← List.filter_append, shown, behind, List.take_append_drop]
  rw [(step.sound sound).snapshot_eq (step.has hs) fresh', shown, length,
    loses.followers_eq same linked, parts, List.take_append, List.take_of_length_le room]
  exact congrArg Except.ok (List.map_congr_left fun i _ => loses.cell_eq same i)

end Loses

/-! ## A single element -/

/-- The slots behind an anchor are in the ring, each once. -/
theorem Sound.followers_sublist (sound : q.Sound) (hs : q.Has s) :
    (q.followers s).Nodup ∧ ∀ i ∈ q.followers s, ((q.base s).slot i).live := by
  have ring : (q.base s).IsRing (q.base s).ring := sound.ring _ (sound.store s.index hs)
  have sub : (q.followers s).Sublist (q.base s).ring :=
    (List.tail_sublist _).trans (List.dropWhile_sublist _)
  exact ⟨ring.nodup.sublist sub, fun i hi => (ring.live i).mpr (sub.subset hi)⟩

section

variable (sound : q.Sound) (hs : q.Has s) (fresh : q.staleness? s = none) {x : Nat}
  (hx : x ∈ q.shown s)

include sound hs fresh hx

/-- The elements of a view come after the slots that the views it was made from begin behind. -/
theorem mem_followers_of_shown (hi : i ∈ q.lineage s.index) :
    x ∈ q.followers ⟨i⟩ ∧ x ≠ (q.viewAt i).anchor.slot := by
  obtain ⟨front, win, back, span⟩ := sound.exists_spans hs fresh
  rw [span.shown_eq] at hx
  have inFront := anchor_in_front sound hs fresh span.ring hi
  obtain ⟨first, more, split⟩ := List.append_of_mem inFront
  have ring := span.ring
  rw [← List.singleton_append, ← List.append_assoc, split, List.append_assoc,
    List.cons_append] at ring
  have same : q.base ⟨i⟩ = q.base s := congrArg q.store (sound.of_mem_lineage hs hi).2
  have later : x ∈ more ++ (win ++ back) := by simp [hx]
  refine ⟨?_, fun e => ?_⟩
  · unfold followers
    rw [same]
    exact ring.following_eq ▸ later
  · exact (List.nodup_cons.mp ring.nodup.of_append_right).1 (e ▸ later)

/-- When nothing but one element of a view was taken out, the view overruns exactly if its window or
that of a view it was made from, and `r` was not, ended at the end of the ring. -/
theorem Loses.overruns_iff (loses : q.Loses r front win back q' cells)
    (gone : ¬((q'.base s).slot x).live) (alone : ∀ j, j ≠ x → ((q.base s).slot j).live →
      ((q'.base s).slot j).live) :
    q.Overruns q' s r ↔ ∃ i ∈ q.lineage s.index, i ∉ q.lineage r.index ∧
      (q.viewAt i).length = (q.followers ⟨i⟩).length := by
  refine exists_congr fun i => and_congr_right fun hi => and_congr_right fun _ => ?_
  have hi' : q.Has ⟨i⟩ := sound.lineage_lt hs hi
  have store : (q.view ⟨i⟩).store = (q.view s).store := (sound.of_mem_lineage hs hi).2
  have base : q.base ⟨i⟩ = q.base s := congrArg q.store store
  have base' : q'.base ⟨i⟩ = q'.base s := by rw [loses.base_eq, loses.base_eq, store]
  obtain ⟨mem, ne⟩ := mem_followers_of_shown sound hs fresh hx hi
  obtain ⟨nodup, live⟩ := sound.followers_sublist hi'
  obtain ⟨current, room⟩ := (sound.fresh_iff hs).mp fresh i hi
  have linked : q'.IsLinked ⟨i⟩ := by
    have anchor : (q'.view ⟨i⟩).anchor = (q.viewAt i).anchor := by
      obtain ⟨_, rewrites, -⟩ := loses
      exact rewrites.anchor_eq
    unfold IsLinked
    rw [base', anchor]
    exact alone _ ne.symm (base ▸ ((Store.isCurrent_iff _).mp current).1)
  have others : q'.left ⟨i⟩ (q.followers ⟨i⟩) = (q.followers ⟨i⟩).erase x := by
    rw [left, nodup.erase_eq_filter, base']
    refine List.filter_congr fun j hj => ?_
    by_cases e : j = x
    · subst e
      simpa using gone
    · rw [alone j e (base ▸ live j hj), bne_iff_ne.mpr e]
  have one : 0 < (q.followers ⟨i⟩).length := List.length_pos_of_mem mem
  rw [others, List.length_erase_of_mem mem, or_iff_right (not_not.mpr linked)]
  omega

end

end Sequences

/-! ## Requests -/

namespace SequenceRequest

/-- An access through a view is refused exactly if the view is stale. -/
theorem refused_iff_stale (sound : h.sequences.Sound) (hs : h.sequences.Has s)
    (target : access.target? = some s) :
    (∃ why, access.perform h = (.error (.concurrentModification why), h)) ↔
    h.sequences.staleness? s ≠ none := by
  cases stale : h.sequences.staleness? s with
  | some why => exact iff_of_true ⟨why, refused target stale⟩ (Option.some_ne_none why)
  | none =>
    have fresh : ∀ t, access.target? = some t → h.sequences.staleness? t = none := fun t other =>
      Option.some_inj.mp (target.symm.trans other) ▸ stale
    have serves := SequenceRequest.serves sound (has_of_target target hs) fresh
    exact iff_of_false (fun ⟨why, failed⟩ => serves.served why (congrArg Prod.fst failed))
      fun some => some rfl

/-- A request that takes elements out is refused or fails, or leaves a part of a window. -/
theorem loses (sound : h.sequences.Sound) (hr : h.sequences.Has r)
    (target : request.target? = some r) (removes : request.Removes) :
    (request.perform h).2 = h ∨ ∃ q' front win back cells,
      (request.perform h).2 = { h with sequences := q' } ∧ h.sequences.staleness? r = none ∧
        h.sequences.Loses r front win back q' cells := by
  cases stale : h.sequences.staleness? r with
  | some why => exact .inl (congrArg Prod.snd (refused target stale))
  | none =>
    obtain ⟨front, win, back, span⟩ := sound.exists_spans hr stale
    cases request with
    | create | element | find | sublist | length | snapshot => exact removes.elim
    | removeAt t index =>
      obtain rfl := Option.some_inj.mp target
      cases resolved : resolveIndex index (h.sequences.view t).length with
      | error fault =>
        exact .inl (congrArg Prod.snd (bind_error (HeapM.removeAt_fails stale resolved).1))
      | ok i =>
        rcases Nat.lt_or_ge i (h.sequences.view t).length with inside | outside
        · obtain ⟨q', first, second, -, -, run, rewrites, same⟩ :=
              removeAt_run sound hr stale span resolved inside
          exact .inr ⟨q', _, _, _, _, congrArg Prod.snd (bind_ok (HeapM.onSequences_run run)),
            rfl, _, rewrites, (List.sublist_cons_self _ _).append_left first, same, rfl⟩
        · exact .inl
            (congrArg Prod.snd (bind_error (HeapM.removeAt_misses stale resolved outside).1))
    | edit t change =>
      obtain rfl := Option.some_inj.mp target
      cases change with
      | push | unshift | insert | reorder => exact removes.elim
      | pop =>
        obtain ⟨q', run, loses⟩ := pop_run sound hr stale span
        exact .inr ⟨q', _, _, _, _, congrArg Prod.snd (bind_ok (HeapM.onSequences_run run)),
          rfl, loses⟩
      | shift =>
        obtain ⟨q', run, loses⟩ := shift_run sound hr stale span
        exact .inr ⟨q', _, _, _, _, congrArg Prod.snd (bind_ok (HeapM.onSequences_run run)),
          rfl, loses⟩
      | clear =>
        obtain ⟨q', run, loses⟩ := clear_run sound hr stale span
        exact .inr ⟨q', _, _, _, _, congrArg Prod.snd (bind_ok (HeapM.onSequences_run run)),
          rfl, loses⟩
      | removeEqual value =>
        obtain ⟨q', run, loses⟩ :=
            removeWhere_run sound hr stale span fun cell => (h.get cell).same value
        exact .inr ⟨q', _, _, _, _,
          congrArg Prod.snd (bind_ok ((bind_ok (x := HeapM.ask id) rfl).trans
          (HeapM.onSequences_run run))), rfl, loses⟩

end SequenceRequest

/-! ## A root without one of its elements -/

namespace Heap

/-- A heap whose first sequence has lost the element in a slot. -/
def without (h : Heap) (x : Nat) : Heap :=
  { h with
    sequences :=
      { stores := h.sequences.stores.modify 0 (·.unlink x)
        views := h.sequences.views.modify 0 fun view => { view with length := view.length - 1 } } }

theorem removeAt_withView {x n k : Nat} (hk : k < 5) :
    (SequenceRequest.removeAt ⟨0⟩ k).perform (withView x n) =
    (.ok (.cell ((oneRoot.sequences.store 0).cell (k + 1))), (withView x n).without (k + 1)) := by
  have root : ((withView x n).sequences.view ⟨0⟩).parent = none := rfl
  have slot : ∀ k < 5, slotAt (oneRoot.sequences.store 0) ⟨0, Store.sentinel, 5⟩ k = k + 1 := by
    decide
  suffices run : removeAt ⟨0⟩ k (withView x n).sequences =
      (.ok ((oneRoot.sequences.store 0).cell (k + 1)),
        ((withView x n).without (k + 1)).sequences) from
    bind_ok (HeapM.onSequences_run run)
  rw [removeAt_eq (staleness?_of_root root) (k := k) (if_pos (Int.natCast_nonneg k)) hk]
  change drop ⟨0⟩ _ (slotAt (oneRoot.sequences.store 0) ⟨0, Store.sentinel, 5⟩ k) _ = _
  rw [slot k hk]
  refine Prod.ext rfl ?_
  change ((withView x n).sequences.modifyStore 0 (·.unlink (k + 1))).modifyLength ⟨0⟩ (· - 1) = _
  rw [modifyLength, lineage_of_root rfl]
  rfl

theorem lineage_withView {x n : Nat} :
    (withView x n).sequences.lineage 0 = [0] ∧ (withView x n).sequences.lineage 1 = [1, 0] := by
  have root : ((withView x n).sequences.viewAt 0).parent = none := rfl
  have parent : ((withView x n).sequences.viewAt 1).parent = some ⟨0⟩ := rfl
  refine ⟨lineage_of_root root, ?_⟩
  rw [lineage_of_parent parent Nat.zero_lt_one, lineage_of_root root]

theorem not_mem_lineage_withView {x n : Nat} :
    (⟨1⟩ : SequenceRef).index ∉ (withView x n).sequences.lineage (⟨0⟩ : SequenceRef).index :=
  lineage_withView.1 ▸ List.not_mem_cons_of_ne_of_not_mem Nat.one_ne_zero List.not_mem_nil

end Heap

namespace Heap.History

/-- Elements are taken out through `r`, which is not `s` nor made from `s`, and one of them was
shown by `s`. Then `s` refuses its next access exactly if it overruns; if it does not, it has taken
in as many of the elements behind its window as it has lost. If one element alone was taken out, it
overruns exactly if its window, or that of a view it was made from and `r` was not, ended at the end
of the sequence. -/
theorem removal_noticed_iff (history : h.History past) (hs : h.sequences.Has s)
    (fresh : h.sequences.staleness? s = none) (hr : h.sequences.Has r)
    (target : request.target? = some r) (removes : request.Removes)
    (foreign : s.index ∉ h.sequences.lineage r.index) {x : Nat} (hx : x ∈ h.sequences.shown s)
    (gone : ¬(((request.perform h).2.sequences.base s).slot x).live) :
    (∀ access : SequenceRequest, access.target? = some s →
      ((∃ why, access.perform (request.perform h).2 =
          (.error (.concurrentModification why), (request.perform h).2)) ↔
        h.sequences.Overruns (request.perform h).2.sequences s r)) ∧
    (¬h.sequences.Overruns (request.perform h).2.sequences s r →
      (request.perform h).2.sequences.snapshot s =
        .ok (((request.perform h).2.sequences.left s (h.sequences.shown s) ++
          ((request.perform h).2.sequences.left s (h.sequences.behind s)).take
          ((h.sequences.view s).length -
            ((request.perform h).2.sequences.left s
              (h.sequences.shown s)).length)).map (h.sequences.base s).cell)) ∧
    ((∀ j, j ≠ x → ((h.sequences.base s).slot j).live →
      (((request.perform h).2.sequences.base s).slot j).live) →
      (h.sequences.Overruns (request.perform h).2.sequences s r ↔
        ∃ i ∈ h.sequences.lineage s.index, i ∉ h.sequences.lineage r.index ∧
          (h.sequences.viewAt i).length = (h.sequences.followers ⟨i⟩).length)) := by
  have sound := history.sound
  have here : ((h.sequences.base s).slot x).live := by
    have mem : x ∈ h.sequences.followers s := List.mem_of_mem_take hx
    exact (sound.followers_sublist hs).2 x mem
  rcases request.loses sound hr target removes with unchanged
    | ⟨q', front, win, back, cells, run, served, loses⟩
  · rw [unchanged] at gone
    exact absurd here gone
  · rw [run] at gone ⊢
    have same : (h.sequences.view s).store = (h.sequences.view r).store := by
      by_contra other
      exact gone ((loses.base_of_ne other).symm ▸ here)
    have step : h.sequences.Step q' := loses.becomes.step hr
    have stale := loses.staleness?_eq_none_iff sound hs fresh hr served same
    refine ⟨fun access target' => ?_, fun fine => ?_, loses.overruns_iff sound hs fresh hx gone⟩
    · rw [access.refused_iff_stale (step.sound sound) (step.has hs) target']
      exact (not_congr stale).trans not_not
    · exact loses.snapshot_eq sound hs hr same foreign (stale.mpr fine)

/-- Of the two elements of a view the first is taken out of the root. In the middle of the five the
view then shows the second and the one behind the two, at their end it is refused. -/
theorem removal_noticed_iff_two :
    ((Heap.withView 1 2).without 2).sequences.snapshot ⟨1⟩ = .ok [⟨2⟩, ⟨3⟩] ∧
    ∃ why, (SequenceRequest.length ⟨1⟩).perform ((Heap.withView 3 2).without 4) =
      (.error (.concurrentModification why), (Heap.withView 3 2).without 4) := by
  constructor
  · have target : (SequenceRequest.removeAt ⟨0⟩ 1).target? = some ⟨0⟩ := rfl
    have run :
        ((SequenceRequest.removeAt ⟨0⟩ 1).perform (Heap.withView 1 2)).2 =
        (Heap.withView 1 2).without 2 :=
      congrArg Prod.snd (Heap.removeAt_withView (k := 1) (by decide))
    obtain ⟨-, shows, single⟩ := removal_noticed_iff (s := ⟨1⟩) (x := 2)
      (History.withView (x := 1) (n := 2) (by decide)) (by decide) (Heap.fresh_withView rfl)
      (by decide) target trivial
      Heap.not_mem_lineage_withView (by decide) (by rw [run]; decide)
    rw [run] at shows single
    have alone : ∀ j, j ≠ 2 → (((Heap.withView 1 2).sequences.base ⟨1⟩).slot j).live →
        ((((Heap.withView 1 2).without 2).sequences.base ⟨1⟩).slot j).live := by
      have small :
          ∀ j < 6, j ≠ 2 → ((((Heap.withView 1 2).without 2).sequences.base ⟨1⟩).slot j).live := by
            decide
      exact fun j ne live => small j (Store.lt_size_of_live live) ne
    refine shows ((single alone).not.mpr ?_)
    rintro ⟨i, hi, other, full⟩
    rw [Heap.lineage_withView.2] at hi
    rcases List.mem_pair.mp hi with rfl | rfl
    · revert full
      decide
    · exact other (self_mem_lineage _ _)
  · have target : (SequenceRequest.removeAt ⟨0⟩ 3).target? = some ⟨0⟩ := rfl
    have run :
        ((SequenceRequest.removeAt ⟨0⟩ 3).perform (Heap.withView 3 2)).2 =
        (Heap.withView 3 2).without 4 :=
      congrArg Prod.snd (Heap.removeAt_withView (k := 3) (by decide))
    obtain ⟨notices, -, -⟩ :=
        removal_noticed_iff (s := ⟨1⟩) (x := 4) (History.withView (x := 3) (n := 2) (by decide))
          (by decide) (Heap.fresh_withView rfl) (by decide) target trivial
          Heap.not_mem_lineage_withView (by decide) (by rw [run]; decide)
    rw [run] at notices
    exact (notices (.length ⟨1⟩) rfl).mpr
      ⟨1, self_mem_lineage _ 1, Heap.not_mem_lineage_withView, .inr (by decide)⟩

/-- A view of two elements in the middle of five does not notice that the first of them is taken out
of the root. -/
theorem removal_unnoticed :
    ¬∀ (h : Heap) (past : List Heap) (s r : SequenceRef) (request access : SequenceRequest)
        (x : Nat),
      h.History past → h.sequences.Has s → h.sequences.staleness? s = none → h.sequences.Has r →
      request.target? = some r → request.Removes → s.index ∉ h.sequences.lineage r.index →
      x ∈ h.sequences.shown s → ¬(((request.perform h).2.sequences.base s).slot x).live →
      access.target? = some s →
      ∃ why, (access.perform (request.perform h).2).1 = .error (.concurrentModification why) := by
  intro noticed
  have run :
      ((SequenceRequest.removeAt ⟨0⟩ 1).perform (Heap.withView 1 2)).2 =
        (Heap.withView 1 2).without 2 :=
    congrArg Prod.snd (Heap.removeAt_withView (k := 1) (by decide))
  obtain ⟨why, failed⟩ := noticed (Heap.withView 1 2) _ ⟨1⟩ ⟨0⟩ (.removeAt ⟨0⟩ 1) (.snapshot ⟨1⟩) 2
    (History.withView (by decide)) (by decide) (Heap.fresh_withView rfl) (by decide) rfl trivial
    Heap.not_mem_lineage_withView (by decide) (by rw [run]; decide) rfl
  rw [run] at failed
  have root : (((Heap.withView 1 2).without 2).sequences.viewAt 0).parent = none := rfl
  have parent : (((Heap.withView 1 2).without 2).sequences.viewAt 1).parent = some ⟨0⟩ := rfl
  have fresh : ((Heap.withView 1 2).without 2).sequences.staleness? ⟨1⟩ = none := by
    unfold staleness?
    rw [lineage_of_parent parent Nat.zero_lt_one, lineage_of_root root]
    decide
  have shows : ((Heap.withView 1 2).without 2).sequences.snapshot ⟨1⟩ = .ok [⟨2⟩, ⟨3⟩] := by
    rw [Sequences.snapshot, window_of_fresh fresh]
    rfl
  have served : (SequenceRequest.snapshot ⟨1⟩).perform ((Heap.withView 1 2).without 2) =
    (.ok (.cells [⟨2⟩, ⟨3⟩]), (Heap.withView 1 2).without 2) := bind_ok (HeapM.consult_run shows)
  rw [served] at failed
  cases failed

end Heap.History

end CellScript
