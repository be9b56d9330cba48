import CellScript.Proofs.Sequence.Request

/-!
# Histories of sequences

What holds after any number of requests, in any order and through any views, stale ones among them.

## Main definitions

* `Heap.History` — a heap and the heaps before it.
* `Sequences.WasUnlinked` — the slot that a view is anchored on was taken out since the view was
  made.
* `Store.following` — the slots between a slot and the sentinel.

## Main statements

* `Heap.History.linked_rings` — the live slots form a ring, all others are free, and roots know how
  many there are.
* `Heap.History.isCurrent_iff` — an anchor is current unless its slot was unlinked at some time.
* `Heap.History.refused_iff` — which requests are refused.
-/

namespace CellScript

open Sequences

variable {h h' : Heap} {past : List Heap} {s : SequenceRef} {request : SequenceRequest}

/-- A heap and the heaps before it, the last one first. Between two requests all but the sequences
may change. -/
inductive Heap.History : Heap → List Heap → Prop
  | start (h : Heap) (nothing : h.sequences = .empty) : History h []
  | request {h : Heap} {past : List Heap} (history : History h past) (request : SequenceRequest)
    (known : ∀ s, request.target? = some s → h.sequences.Has s) :
    History (request.perform h).2 (h :: past)
  | other {h h' : Heap} {past : List Heap} (history : History h past)
    (same : h'.sequences = h.sequences) :
    History h' (h :: past)

/-- The slot that a view is anchored on was in the ring at some time since the view was made, and
then was not. -/
def Sequences.WasUnlinked (s : SequenceRef) (heaps : List Heap) : Prop :=
  ∃ after before, [after, before] <:+: heaps ∧ before.sequences.Has s ∧
    before.sequences.IsLinked s ∧
    ¬after.sequences.IsLinked s

theorem Sequences.wasUnlinked_cons : WasUnlinked s (h' :: h :: past) ↔
    h.sequences.Has s ∧ h.sequences.IsLinked s ∧ ¬h'.sequences.IsLinked s ∨
    WasUnlinked s (h :: past) := by
  constructor
  · rintro ⟨after, before, place, unlinked⟩
    rcases List.infix_cons_iff.mp place with first | later
    · obtain ⟨rfl, second⟩ := List.cons_prefix_cons.mp first
      obtain ⟨rfl, -⟩ := List.cons_prefix_cons.mp second
      exact .inl unlinked
    · exact .inr ⟨after, before, later, unlinked⟩
  · rintro (unlinked | ⟨after, before, place, unlinked⟩)
    · exact ⟨h', h, ⟨[], past, rfl⟩, unlinked⟩
    · exact ⟨after, before, List.infix_cons_iff.mpr (.inr place), unlinked⟩

theorem Sequences.sound_empty : Sequences.Sound .empty := by
  constructor <;> intro i hi <;> exact absurd hi (Nat.not_lt_zero i)

/-- A request is refused, or comes to something. -/
theorem SequenceRequest.refused_or_serves (sound : h.sequences.Sound)
    (known : ∀ s, request.target? = some s → h.sequences.Has s) :
    (∃ why, request.perform h = (.error (.concurrentModification why), h)) ∨
    Serves request.perform h := by
  by_cases stale : ∃ s why, request.target? = some s ∧ h.sequences.staleness? s = some why
  · obtain ⟨s, why, target, stale⟩ := stale
    exact .inl ⟨why, refused target stale⟩
  · refine .inr (serves sound known fun s target => ?_)
    cases fresh : h.sequences.staleness? s with
    | none => rfl
    | some why => exact absurd ⟨s, why, target, fresh⟩ stale

theorem SequenceRequest.step (sound : h.sequences.Sound)
    (known : ∀ s, request.target? = some s → h.sequences.Has s) :
    Sequences.Step h.sequences (request.perform h).2.sequences := by
  rcases refused_or_serves sound known with ⟨why, refused⟩ | serves
  · rw [refused]
    exact .stay _
  · exact serves.step

/-- A request that fails changes nothing. -/
theorem SequenceRequest.unchanged {fault : Fault} (sound : h.sequences.Sound)
    (known : ∀ s, request.target? = some s → h.sequences.Has s)
    (failed : (request.perform h).1 = .error fault) :
    (request.perform h).2 = h := by
  rcases refused_or_serves sound known with ⟨why, refused⟩ | serves
  · rw [refused]
  · exact serves.kept fault failed

namespace Store

variable {store : Store} {front back : List Nat} {i n : Nat}

/-- The slots between a slot of the ring and the sentinel. -/
def following (store : Store) (i : Nat) : List Nat :=
  (store.ring.dropWhile (· != i)).tail

theorem IsRing.following_eq (h : store.IsRing (front ++ i :: back)) : store.following i = back := by
  have apart : ∀ j ∈ front, (j != i) = true := fun j hj =>
    bne_iff_ne.mpr fun e => List.disjoint_of_nodup_append h.nodup (e ▸ hj) List.mem_cons_self
  rw [following, h.eq_ring, List.dropWhile_append_of_pos apart,
    List.dropWhile_cons_of_neg (by simp), List.tail_cons]

theorem IsRing.fits_iff_following (h : store.IsRing store.ring) (hi : i ∈ store.ring) :
    store.fits i n ↔ n ≤ (store.following i).length := by
  obtain ⟨front, back, split⟩ := List.append_of_mem hi
  rw [split] at h
  rw [h.fits_iff, h.following_eq]

end Store

/-! ## A root and a view -/

theorem SequenceRequest.has_of_target (target : request.target? = some s) (hs : h.sequences.Has s) :
    ∀ t, request.target? = some t → h.sequences.Has t := by
  rw [target]
  rintro t ⟨⟩
  exact hs

namespace Heap

/-- A root of five elements. -/
def oneRoot : Heap :=
  ((SequenceRequest.create [⟨0⟩, ⟨1⟩, ⟨2⟩, ⟨3⟩, ⟨4⟩]).perform .empty).2

/-- The same root and a view of `n` elements after one of the slots. -/
def withView (x n : Nat) : Heap :=
  { oneRoot with sequences := oneRoot.sequences.addView ⟨0⟩ x n }

/-- The root and the view after slot 1, without the element in that slot. -/
def shifted : Heap :=
  { oneRoot with
    sequences :=
      { stores := (withView 1 2).sequences.stores.modify 0 (·.unlink 1)
        views :=
          (withView 1 2).sequences.views.modify 0 fun view =>
            { view with length := view.length - 1 } } }

/-- The same with a new element, which is in slot 1 again. -/
def recycled : Heap :=
  { oneRoot with
    sequences :=
      { stores := shifted.sequences.stores.modify 0 (·.insertAfter 5 ⟨7⟩)
        views :=
          shifted.sequences.views.modify 0 fun view => { view with length := view.length + 1 } } }

theorem History.oneRoot : oneRoot.History [.empty] :=
  .request (.start .empty rfl) _ fun _ absent => absurd absent.symm (Option.some_ne_none _)

/-- Any view of the root can be made. -/
theorem History.withView {x n : Nat} (hx : x + n ≤ 5) :
    (Heap.withView x n).History [Heap.oneRoot, .empty] := by
  have resolved (k : Nat) : resolveIndex k 5 = .ok k := if_pos (Int.natCast_nonneg k)
  have slot : ∀ x ≤ 5, (Heap.oneRoot.sequences.base ⟨0⟩).nthAfter Store.sentinel x = x := by decide
  have run : (SequenceRequest.sublist ⟨0⟩ x (x + n : Nat)).perform Heap.oneRoot =
      (.ok (.sequence ⟨1⟩), Heap.withView x n) := by
    refine bind_ok (HeapM.onSequences_run ?_)
    rw [Sequences.sublist, ask_bind_ok (window_of_fresh (staleness?_of_root rfl)),
      ask_bind_ok (resolved x), ask_bind_ok (resolved (x + n))]
    change (if x + n < x ∨ 5 < x + n then throw _ else _ : Edit SequenceRef) _ = _
    rw [if_neg (by omega)]
    change (Except.ok (⟨1⟩ : SequenceRef), Heap.oneRoot.sequences.addView ⟨0⟩
      ((Heap.oneRoot.sequences.base ⟨0⟩).nthAfter Store.sentinel x) (x + n - x)) = _
    rw [slot x (by omega), Nat.add_sub_cancel_left]
  have made := History.oneRoot.request (.sublist ⟨0⟩ x (x + n : Nat))
    (SequenceRequest.has_of_target (s := ⟨0⟩) rfl (by decide))
  rwa [run] at made

theorem fresh_withView {x n : Nat}
    (valid : ((withView x n).sequences.viewAt 1).staleness? (oneRoot.sequences.store 0) = none) :
    (withView x n).sequences.staleness? ⟨1⟩ = none := by
  have root : ((withView x n).sequences.viewAt 0).parent = none := rfl
  have parent : ((withView x n).sequences.viewAt 1).parent = some ⟨0⟩ := rfl
  unfold staleness?
  rw [lineage_of_parent parent Nat.zero_lt_one, lineage_of_root root, List.findSome?_eq_none_iff]
  intro i hi
  rcases List.mem_pair.mp hi with rfl | rfl
  · exact valid
  · rfl

theorem History.recycled :
    Heap.recycled.History [Heap.shifted, Heap.withView 1 2, Heap.oneRoot, .empty] := by
  have shift :
      Sequences.shift ⟨0⟩ (Heap.withView 1 2).sequences =
      (.ok (some ⟨0⟩), Heap.shifted.sequences) := by
    rw [Sequences.shift, ask_bind_ok (window_of_fresh (staleness?_of_root rfl))]
    refine Prod.ext rfl ?_
    change ((Heap.withView 1 2).sequences.modifyStore 0 (·.unlink 1)).modifyLength ⟨0⟩ (· - 1) = _
    rw [modifyLength, lineage_of_root rfl]
    rfl
  have push :
      Sequences.push ⟨0⟩ ⟨7⟩ Heap.shifted.sequences = (.ok (), Heap.recycled.sequences) := by
    rw [Sequences.push, Sequences.append, ask_bind_ok (window_of_fresh (staleness?_of_root rfl))]
    refine Prod.ext rfl ?_
    change (Heap.shifted.sequences.modifyStore 0 fun store => store.insertAfter 5 ⟨7⟩).modifyLength
      ⟨0⟩ (· + 1) = _
    rw [modifyLength, lineage_of_root rfl]
    rfl
  have gone := (History.withView (x := 1) (n := 2) (by decide)).request (.edit ⟨0⟩ .shift)
    (SequenceRequest.has_of_target (s := ⟨0⟩) rfl (by decide))
  rw [show (SequenceRequest.edit ⟨0⟩ .shift).perform (Heap.withView 1 2) =
    (.ok (.cell? (some ⟨0⟩)), Heap.shifted) from
    bind_ok (HeapM.onSequences_run shift)] at gone
  have back :=
    gone.request (.edit ⟨0⟩ (.push ⟨7⟩)) (SequenceRequest.has_of_target (s := ⟨0⟩) rfl (by decide))
  rwa [show (SequenceRequest.edit ⟨0⟩ (.push ⟨7⟩)).perform Heap.shifted =
    (.ok .done, Heap.recycled) from
    bind_ok (HeapM.onSequences_run push)] at back

end Heap

namespace Heap.History

/-- Rings, anchors and lengths fit together at all times. -/
theorem sound (history : h.History past) : h.sequences.Sound := by
  induction history with
  | start h nothing => exact nothing ▸ sound_empty
  | request _ request known ih => exact (SequenceRequest.step ih known).sound ih
  | other _ same ih => exact same ▸ ih

/-- From one time to the next there is a step. -/
theorem steps (history : h'.History (h :: past)) :
    h.History past ∧ Sequences.Step h.sequences h'.sequences := by
  cases history with
  | request history request known => exact ⟨history, SequenceRequest.step history.sound known⟩
  | other history same => exact ⟨history, same ▸ .stay _⟩

/-- Views do not go away. -/
theorem has (history : h.History past) (mem : h' ∈ h :: past) (hs : h'.sequences.Has s) :
    h.sequences.Has s := by
  induction past generalizing h with
  | nil => exact List.mem_singleton.mp mem ▸ hs
  | cons before past ih =>
    obtain ⟨earlier, step⟩ := history.steps
    rcases List.mem_cons.mp mem with rfl | mem
    · exact hs
    · exact step.has (ih earlier mem)

/-! ## Rings -/

/-- After any requests the live slots are those on the way from the sentinel back to it, each once,
the way back is the inverse of the way there, the free slots are the other ones, each once, and a
root records the number of live slots other than the sentinel. -/
theorem linked_rings (history : h.History past) (hs : h.sequences.Has s)
    (root : (h.sequences.view s).parent = none) :
    (h.sequences.base s).slotsAfter Store.sentinel ((h.sequences.base s).order.length + 1) =
      (h.sequences.base s).order ++ [Store.sentinel] ∧
    (Store.sentinel :: (h.sequences.base s).order).Nodup ∧
    (∀ i, i ∈ Store.sentinel :: (h.sequences.base s).order ↔ ((h.sequences.base s).slot i).live) ∧
    (∀ i, ((h.sequences.base s).slot i).live →
      (h.sequences.base s).prev ((h.sequences.base s).next i) = i ∧
      (h.sequences.base s).next ((h.sequences.base s).prev i) = i) ∧
    (h.sequences.base s).free.Nodup ∧
    (∀ i, i ∈ (h.sequences.base s).free ↔
      i < (h.sequences.base s).slots.size ∧ ¬((h.sequences.base s).slot i).live) ∧
    (h.sequences.view s).length = ((List.range (h.sequences.base s).slots.size).filter fun i =>
      ((h.sequences.base s).slot i).live && i != Store.sentinel).length := by
  have sound := history.sound
  have ring : (h.sequences.base s).IsRing (h.sequences.base s).ring :=
    sound.ring _ (sound.store s.index hs)
  have length : (h.sequences.view s).length = (h.sequences.base s).order.length :=
    (sound.root s.index hs root).2
  refine ⟨ring.slotsAfter_sentinel, ring.nodup, fun i => (ring.live i).symm, fun i live => ?_,
    ring.free_nodup, fun i => ?_, length.trans ring.length_order⟩
  · have mem := (ring.live i).mp live
    exact ⟨ring.prev_next mem, ring.next_prev mem⟩
  · rw [ring.free, ring.live]

/-- Five live slots other than the sentinel, one of them in use for the second time. -/
theorem linked_rings_recycled :
    (Heap.recycled.sequences.base ⟨0⟩).slotsAfter Store.sentinel 6 =
    [2, 3, 4, 5, 1, Store.sentinel] ∧
    (Heap.recycled.sequences.view ⟨0⟩).length = ((List.range 6).filter fun i =>
      ((Heap.recycled.sequences.base ⟨0⟩).slot i).live && i != Store.sentinel).length := by
  obtain ⟨walk, -, -, -, -, -, length⟩ := linked_rings History.recycled (s := ⟨0⟩) (by decide) rfl
  exact ⟨walk, length⟩

/-! ## Staleness -/

/-- An anchor is current unless its slot was unlinked at some time. -/
theorem isCurrent_iff (history : h.History past) (hs : h.sequences.Has s) :
    (h.sequences.base s).isCurrent (h.sequences.view s).anchor ↔ ¬WasUnlinked s (h :: past) := by
  induction past generalizing h with
  | nil =>
    cases history with
    | start _ nothing =>
      unfold Has at hs
      rw [nothing] at hs
      exact absurd hs (Nat.not_lt_zero _)
  | cons before past ih =>
    obtain ⟨earlier, step⟩ := history.steps
    rw [wasUnlinked_cons]
    by_cases old : before.sequences.Has s
    · have linked : (before.sequences.base s).isCurrent (before.sequences.view s).anchor →
        before.sequences.IsLinked s :=
        fun current => ((Store.isCurrent_iff _).mp current).1
      rw [step.isCurrent_iff earlier.sound old]
      have := ih earlier old
      tauto
    · have new := step.isCurrent_new earlier.sound old hs
      have never : ¬WasUnlinked s (before :: past) := by
        rintro ⟨_, unlinked, place, was, -⟩
        exact old (earlier.has (place.subset (by simp)) was)
      tauto

/-- A request is refused exactly when, for its view or one that this was made from, the slot before
the first element was unlinked at some time since the view was made, or too few elements follow it
now. Then nothing changes. -/
theorem refused_iff (history : h.History past) (hs : h.sequences.Has s)
    (target : request.target? = some s) :
    ((∃ why, (request.perform h).1 = .error (.concurrentModification why)) ↔
      ∃ i ∈ h.sequences.lineage s.index, WasUnlinked ⟨i⟩ (h :: past) ∨
        ((h.sequences.base s).following (h.sequences.viewAt i).anchor.slot).length <
        (h.sequences.viewAt i).length) ∧
    ((∃ why, (request.perform h).1 = .error (.concurrentModification why)) →
      (request.perform h).2 = h) := by
  have sound := history.sound
  have known : ∀ t, request.target? = some t → h.sequences.Has t := by
    rw [target]
    rintro t ⟨⟩
    exact hs
  have fitting :
      h.sequences.staleness? s = none ↔
      ∀ i ∈ h.sequences.lineage s.index, ¬(WasUnlinked ⟨i⟩ (h :: past) ∨
      ((h.sequences.base s).following (h.sequences.viewAt i).anchor.slot).length <
      (h.sequences.viewAt i).length) := by
    rw [sound.staleness?_eq_none_iff hs]
    refine forall₂_congr fun i hi => ?_
    have hi' : h.sequences.Has ⟨i⟩ := sound.lineage_lt hs hi
    have current : (h.sequences.base s).isCurrent (h.sequences.viewAt i).anchor ↔
      ¬WasUnlinked ⟨i⟩ (h :: past) := by
      rw [← history.isCurrent_iff hi']
      unfold base
      rw [show (h.sequences.view ⟨i⟩).store =
        (h.sequences.view s).store from (sound.of_mem_lineage hs hi).2]
      exact Iff.rfl
    have ring : (h.sequences.base s).IsRing (h.sequences.base s).ring :=
      sound.ring _ (sound.store s.index hs)
    rw [not_or, ← current, Nat.not_lt]
    exact and_congr_right fun current =>
      ring.fits_iff_following ((ring.isCurrent_iff _).mp current).1
  cases stale : h.sequences.staleness? s with
  | some why =>
    rw [SequenceRequest.refused target stale]
    refine ⟨⟨fun _ => ?_, fun _ => ⟨why, rfl⟩⟩, fun _ => rfl⟩
    by_contra fine
    have fresh := fitting.mpr fun i hi bad => fine ⟨i, hi, bad⟩
    rw [stale] at fresh
    cases fresh
  | none =>
    have serves := SequenceRequest.serves sound known (by
      rw [target]
      rintro t ⟨⟩
      exact stale)
    refine ⟨⟨fun ⟨why, failed⟩ => absurd failed (serves.served why), fun ⟨i, hi, bad⟩ => ?_⟩,
      fun ⟨why, failed⟩ =>
      absurd failed (serves.served why)⟩
    exact absurd bad (fitting.mp stale i hi)

/-- The slot of an anchor is in the ring again, but not for the view. -/
theorem refused_iff_recycled :
    (∃ why, ((SequenceRequest.snapshot ⟨1⟩).perform Heap.recycled).1 =
      .error (.concurrentModification why)) ∧
      ((SequenceRequest.snapshot ⟨1⟩).perform Heap.recycled).2 = Heap.recycled := by
  have target : (SequenceRequest.snapshot ⟨1⟩).target? = some ⟨1⟩ := rfl
  obtain ⟨refused, unchanged⟩ := refused_iff History.recycled (by decide) target
  have gone :
      WasUnlinked ⟨1⟩ [Heap.recycled, Heap.shifted, Heap.withView 1 2, Heap.oneRoot, .empty] :=
    ⟨Heap.shifted, Heap.withView 1 2, ⟨[Heap.recycled], [Heap.oneRoot, .empty], rfl⟩, by decide,
      rfl, Bool.false_ne_true⟩
  have stale := refused.mpr ⟨1, self_mem_lineage _ 1, .inl gone⟩
  exact ⟨stale, unchanged stale⟩

end Heap.History

end CellScript
