import CellScript.Sequence.Store
import Mathlib.Data.List.Chain
import Mathlib.Data.List.Nodup
import Mathlib.Data.List.Perm.Subperm

/-!
# Rings

The live slots of a store form a ring: following the links from the sentinel visits each of them
once and comes back. Linking a slot puts it into the ring behind another one, unlinking takes it
out, and nothing else changes places.

## Main definitions

* `Store.IsRing` — a list is the ring of a store, from the sentinel on.
* `Store.order` — the slots met on the way from the sentinel back to it.

## Main statements

* `Store.IsRing.insertAfter`, `Store.IsRing.unlink` — what one link or unlink makes of the ring.
* `Store.IsRing.slotsAfter_eq`, `Store.IsRing.fits_iff` — windows are parts of the ring.
-/

namespace CellScript.Store

variable {store : Store} {cell : CellRef} {i j p n : Nat} {ring front back win : List Nat}

/-! ## Slots -/

theorem getD_modify (slots : Array Slot) (i j : Nat) (f : Slot → Slot) :
    (slots.modify i f).getD j default =
      if j = i ∧ j < slots.size then f (slots.getD j default) else slots.getD j default := by
  simp only [Array.getD_eq_getD_getElem?, Array.getElem?_modify]
  by_cases h : j = i
  · subst h
    by_cases hj : j < slots.size
    · simp [hj]
    · simp [hj]
  · simp [h, Ne.symm h]

/-- What a change of a slot keeps. -/
theorem keeps_modify {β : Type} (slots : Array Slot) (i j : Nat) {f : Slot → Slot} (g : Slot → β)
    (h : ∀ slot, g (f slot) = g slot) :
    g ((slots.modify i f).getD j default) = g (slots.getD j default) := by
  rw [getD_modify]
  split
  · exact h _
  · rfl

/-- How often a slot has been used again. -/
def generation (store : Store) (i : Nat) : Nat :=
  (store.slot i).generation

theorem slot_setNext (h : i < store.slots.size) :
    (store.setNext i n).slot j = if j = i then { store.slot j with next := n }
      else store.slot j := by
  unfold setNext slot
  rw [getD_modify]
  by_cases hj : j = i <;> simp [hj, h]

theorem slot_setPrev (h : i < store.slots.size) :
    (store.setPrev i n).slot j = if j = i then { store.slot j with prev := n }
      else store.slot j := by
  unfold setPrev slot
  rw [getD_modify]
  by_cases hj : j = i <;> simp [hj, h]

theorem slot_setCell (h : i < store.slots.size) :
    (store.setCell i cell).slot j = if j = i then { store.slot j with cell := cell }
      else store.slot j := by
  unfold setCell slot
  rw [getD_modify]
  by_cases hj : j = i <;> simp [hj, h]

@[simp] theorem size_setNext : (store.setNext i n).slots.size = store.slots.size := by
  simp [setNext]

@[simp] theorem size_setPrev : (store.setPrev i n).slots.size = store.slots.size := by
  simp [setPrev]

@[simp] theorem size_setCell : (store.setCell i cell).slots.size = store.slots.size := by
  simp [setCell]

theorem cell_setNext : (store.setNext i n).cell j = store.cell j :=
  keeps_modify _ i j Slot.cell fun _ => rfl

theorem cell_setPrev : (store.setPrev i n).cell j = store.cell j :=
  keeps_modify _ i j Slot.cell fun _ => rfl

theorem generation_setNext : (store.setNext i n).generation j = store.generation j :=
  keeps_modify _ i j Slot.generation fun _ => rfl

theorem generation_setPrev : (store.setPrev i n).generation j = store.generation j :=
  keeps_modify _ i j Slot.generation fun _ => rfl

/-- Unlinking changes neither cells nor generations. -/
theorem cell_unlink : (store.unlink i).cell j = store.cell j := by
  have taken :=
    keeps_modify
      ((store.setNext (store.prev i) (store.next i)).setPrev (store.next i) (store.prev i)).slots
      i j (f := fun slot => { slot with live := false }) Slot.cell fun _ => rfl
  exact taken.trans (cell_setPrev.trans cell_setNext)

theorem generation_unlink : (store.unlink i).generation j = store.generation j := by
  have taken :=
    keeps_modify
      ((store.setNext (store.prev i) (store.next i)).setPrev (store.next i) (store.prev i)).slots
      i j (f := fun slot => { slot with live := false }) Slot.generation fun _ => rfl
  exact taken.trans (generation_setPrev.trans generation_setNext)

theorem generation_setCell : (store.setCell i cell).generation j = store.generation j :=
  keeps_modify _ i j Slot.generation fun _ => rfl

theorem lt_size_of_live (h : (store.slot i).live) : i < store.slots.size := by
  by_contra outside
  have : store.slot i = default := by
    simp [slot, Array.getD_eq_getD_getElem?, Nat.le_of_not_lt outside]
  rw [this] at h
  exact Bool.false_ne_true h

theorem isCurrent_iff (a : Anchor) :
    store.isCurrent a ↔ (store.slot a.slot).live ∧ store.generation a.slot = a.generation := by
  unfold isCurrent generation slot
  cases known : store.slots[a.slot]? with
  | none =>
    have nothing : (default : Slot).live = false := rfl
    simp [Array.getD_eq_getD_getElem?, known, nothing]
  | some s => simp [Array.getD_eq_getD_getElem?, known]

/-! ## Rings -/

/-- One slot follows another one. -/
def Linked (store : Store) (i j : Nat) : Prop :=
  store.next i = j ∧ store.prev j = i

/-- A list of slots is the ring of a store, from the sentinel on. -/
structure IsRing (store : Store) (ring : List Nat) : Prop where
  head : ring.head? = some sentinel
  nodup : ring.Nodup
  live : ∀ i, (store.slot i).live ↔ i ∈ ring
  links : (ring ++ [sentinel]).IsChain store.Linked
  free_nodup : store.free.Nodup
  free : ∀ i, i ∈ store.free ↔ i < store.slots.size ∧ i ∉ ring

/-- The slots met on the way from the sentinel back to it. -/
def order (store : Store) : List Nat :=
  (store.slotsAfter sentinel store.slots.size).takeWhile (· != sentinel)

/-- The cells of the elements in link order. -/
def contents (store : Store) : List CellRef :=
  store.order.map store.cell

namespace IsRing

theorem lt_size (h : store.IsRing ring) (hi : i ∈ ring) : i < store.slots.size :=
  lt_size_of_live ((h.live i).mpr hi)

theorem eq_cons (h : store.IsRing ring) : ring = sentinel :: ring.tail := by
  obtain ⟨rest, rfl⟩ := List.head?_eq_some_iff.mp h.head
  rfl

theorem sentinel_mem (h : store.IsRing ring) : sentinel ∈ ring := by
  rw [h.eq_cons]
  exact List.mem_cons_self

/-- Seen from the slot after the sentinel on, the sentinel is the last one. -/
theorem nodup_rotated (h : store.IsRing ring) : (ring.tail ++ [sentinel]).Nodup := by
  have nodup := h.nodup
  rw [h.eq_cons, List.nodup_cons] at nodup
  exact List.nodup_append_comm.mp (List.nodup_cons.mpr nodup)

theorem nodup_split (h : store.IsRing (front ++ i :: back)) :
    ((front ++ [i]).tail ++ (back ++ [sentinel])).Nodup := by
  have rotated := h.nodup_rotated
  cases front <;> simpa using rotated

/-- What follows a slot of the ring. -/
theorem next_of_split (h : store.IsRing (front ++ i :: back)) :
    ∃ rest, back ++ [sentinel] = store.next i :: rest ∧ store.prev (store.next i) = i := by
  have links := h.links
  rw [List.append_assoc, List.cons_append] at links
  have from_ : (i :: (back ++ [sentinel])).IsChain store.Linked := links.right_of_append
  obtain ⟨j, rest, eq⟩ :=
      List.exists_cons_of_ne_nil
        (List.append_ne_nil_of_right_ne_nil back (List.cons_ne_nil sentinel []))
  rw [eq] at from_ ⊢
  obtain ⟨rfl, back⟩ := from_.rel_head? rfl
  exact ⟨rest, rfl, back⟩

theorem next_mem (h : store.IsRing ring) (hi : i ∈ ring) : store.next i ∈ ring := by
  obtain ⟨front, back, rfl⟩ := List.append_of_mem hi
  obtain ⟨rest, eq, -⟩ := h.next_of_split
  have mem : store.next i ∈ back ++ [sentinel] := eq ▸ List.mem_cons_self
  rcases List.mem_append.mp mem with inside | last
  · exact List.mem_append_right _ (List.mem_cons_of_mem _ inside)
  · exact List.mem_singleton.mp last ▸ h.sentinel_mem

theorem fresh_notMem (h : store.IsRing ring) : store.fresh ∉ ring := by
  intro mem
  have inside := h.lt_size mem
  unfold fresh at mem inside
  cases free : store.free with
  | nil => simp [free] at inside
  | cons i rest =>
    rw [free] at mem
    exact ((h.free i).mp (free ▸ List.mem_cons_self)).2 mem

end IsRing

/-! ## Linking a slot -/

theorem slot_occupy (h : ∀ k ∈ store.free, k < store.slots.size) :
    (store.occupy cell p n).slot j =
      if j = store.fresh then
        ⟨cell, p, n, if store.fresh < store.slots.size then (store.slot store.fresh).generation + 1
          else 0, true⟩
      else store.slot j := by
  unfold occupy fresh slot
  cases free : store.free with
  | nil =>
    simp only [List.headD_nil, Nat.lt_irrefl, if_false, Array.getD_eq_getD_getElem?,
      Array.getElem?_push]
    split <;> rfl
  | cons k rest =>
    have inside : k < store.slots.size := h k (free ▸ List.mem_cons_self)
    simp only [List.headD_cons, getD_modify, inside, if_true]
    by_cases here : j = k
    · simp [here, inside]
    · simp [here]

theorem size_occupy : store.slots.size ≤ (store.occupy cell p n).slots.size := by
  unfold occupy
  split <;> simp

theorem free_occupy : (store.occupy cell p n).free = store.free.tail := by
  unfold occupy
  split <;> simp_all

theorem size_insertAfter : store.slots.size ≤ (store.insertAfter i cell).slots.size := by
  simpa [insertAfter] using size_occupy

@[simp] theorem free_insertAfter : (store.insertAfter i cell).free = store.free.tail := by
  simp [insertAfter, setNext, setPrev, free_occupy]

theorem lt_size_insertAfter (h : ∀ k ∈ store.free, k < store.slots.size) :
    j < (store.insertAfter i cell).slots.size ↔ j < store.slots.size ∨ j = store.fresh := by
  simp only [insertAfter, size_setNext, size_setPrev]
  unfold occupy fresh
  cases free : store.free with
  | nil =>
    simp only [Array.size_push, List.headD_nil]
    omega
  | cons k rest =>
    have inside : k < store.slots.size := h k (free ▸ List.mem_cons_self)
    simp only [Array.size_modify, List.headD_cons]
    omega

/-- The slots after one was linked behind slot `i`. -/
theorem IsRing.slot_insertAfter (h : store.IsRing ring) (hi : i ∈ ring) :
    (store.insertAfter i cell).slot j =
      if j = store.fresh then
        ⟨cell, i, store.next i,
          if store.fresh < store.slots.size then (store.slot store.fresh).generation + 1 else 0,
            true⟩
      else { store.slot j with
        next := if j = i then store.fresh else store.next j
        prev := if j = store.next i then store.fresh else store.prev j } := by
  have bound {k : Nat} (hk : k ∈ ring) : k < (store.occupy cell i (store.next i)).slots.size :=
    Nat.lt_of_lt_of_le (h.lt_size hk) size_occupy
  have other {k : Nat} (hk : k ∈ ring) : store.fresh ≠ k := fun eq => h.fresh_notMem (eq ▸ hk)
  unfold insertAfter
  rw [slot_setPrev (by simpa using bound (h.next_mem hi)), slot_setNext (bound hi),
    slot_occupy fun k hk => ((h.free k).mp hk).1]
  by_cases new : j = store.fresh
  · subst new
    simp [other hi, other (h.next_mem hi)]
  · simp only [if_neg new]
    split <;> split <;> rfl

theorem IsRing.cell_insertAfter (h : store.IsRing ring) (hi : i ∈ ring) :
    (store.insertAfter i cell).cell j = if j = store.fresh then cell else store.cell j := by
  unfold Store.cell
  rw [h.slot_insertAfter hi]
  split <;> rfl

theorem IsRing.live_insertAfter (h : store.IsRing ring) (hi : i ∈ ring) :
    ((store.insertAfter i cell).slot j).live ↔ j = store.fresh ∨ (store.slot j).live := by
  rw [h.slot_insertAfter hi]
  by_cases new : j = store.fresh <;> simp [new]

theorem IsRing.generation_insertAfter (h : store.IsRing ring) (hi : i ∈ ring)
    (hj : j ≠ store.fresh) :
    (store.insertAfter i cell).generation j = store.generation j := by
  rw [generation, h.slot_insertAfter hi, if_neg hj]
  rfl

/-- A chain of links stays one where neither a link forward from `i` nor one back from `j` is in
it. -/
theorem chain_of_links {store' : Store} {l : List Nat} (h : l.IsChain store.Linked)
    (same : ∀ a ∈ l, ∀ b ∈ l.tail, store.Linked a b → store'.next a = store.next a ∧
      store'.prev b = store.prev b) :
    l.IsChain store'.Linked :=
  h.imp_of_mem_tail_imp fun a b ha hb linked =>
    ⟨(same a ha b hb linked).1.trans linked.1, (same a ha b hb linked).2.trans linked.2⟩

/-- Linking a slot puts it into the ring behind the other one. -/
theorem IsRing.insertAfter (h : store.IsRing (front ++ i :: back)) (cell : CellRef) :
    (store.insertAfter i cell).IsRing (front ++ i :: store.fresh :: back) := by
  have hi : i ∈ front ++ i :: back := List.mem_append_right _ List.mem_cons_self
  obtain ⟨rest, eq, back_eq⟩ := h.next_of_split
  have fresh_ne {k : Nat} (hk : k ∈ front ++ i :: back) : k ≠ store.fresh :=
    fun e => h.fresh_notMem (e ▸ hk)
  have next_eq {k : Nat} (hk : k ∈ front ++ i :: back) :
      (store.insertAfter i cell).next k = if k = i then store.fresh else store.next k := by
    unfold Store.next
    rw [h.slot_insertAfter hi, if_neg (fresh_ne hk)]
    rfl
  have prev_eq {k : Nat} (hk : k ∈ front ++ i :: back) :
      (store.insertAfter i cell).prev k = if k = store.next i then store.fresh
        else store.prev k := by
    unfold Store.prev
    rw [h.slot_insertAfter hi, if_neg (fresh_ne hk)]
    rfl
  have perm : (front ++ i :: store.fresh :: back).Perm (store.fresh :: (front ++ i :: back)) := by
    have moved :
        ((front ++ [i]) ++ store.fresh :: back).Perm (store.fresh :: ((front ++ [i]) ++ back)) :=
          List.perm_middle
    simpa using moved
  refine ⟨?_, ?_, ?_, ?_, ?_, ?_⟩
  · simpa [List.head?_append] using h.head
  · exact perm.nodup_iff.mpr (List.nodup_cons.mpr ⟨h.fresh_notMem, h.nodup⟩)
  · intro k
    rw [h.live_insertAfter hi, h.live k, perm.mem_iff, List.mem_cons]
  · have links := h.links
    rw [List.append_assoc, List.cons_append] at links ⊢
    obtain ⟨before, after⟩ := List.isChain_split.mp links
    have apart := List.disjoint_of_nodup_append h.nodup_split
    have once : (store.next i :: rest).Nodup := eq ▸ h.nodup_split.of_append_right
    have target : store.next i ∈ back ++ [sentinel] := eq ▸ List.mem_cons_self
    rw [eq] at after
    rw [List.cons_append, eq]
    have mem {k : Nat} (hk : k ∈ store.next i :: rest) : k ∈ front ++ i :: back := by
      rcases List.mem_append.mp (eq ▸ hk : k ∈ back ++ [sentinel]) with inside | last
      · exact List.mem_append_right _ (List.mem_cons_of_mem _ inside)
      · exact List.mem_singleton.mp last ▸ h.sentinel_mem
    refine List.isChain_split.mpr ⟨chain_of_links before fun a ha b hb linked => ?_, ?_⟩
    · have ha' : a ∈ front ++ i :: back := by simpa using List.mem_append_left back ha
      have hb' : b ∈ front ++ i :: back := by
        simpa using List.mem_append_left back (List.mem_of_mem_tail hb)
      have ne : b ≠ store.next i := fun e => apart hb (e ▸ target)
      rw [next_eq ha', prev_eq hb', if_neg ne, if_neg fun e : a = i => ne (by rw [← linked.1, e])]
      exact ⟨rfl, rfl⟩
    · have within : (store.next i :: rest).IsChain (store.insertAfter i cell).Linked := by
        refine chain_of_links after.tail fun a ha b hb linked => ?_
        have ne : b ≠ store.next i := fun e => (List.nodup_cons.mp once).1 (e ▸ hb)
        rw [next_eq (mem ha), prev_eq (mem (List.mem_cons_of_mem _ hb)), if_neg ne,
          if_neg fun e : a = i => ne (by rw [← linked.1, e])]
        exact ⟨rfl, rfl⟩
      refine .cons_cons ⟨?_, ?_⟩ (.cons_cons ⟨?_, ?_⟩ within)
      · rw [next_eq hi, if_pos rfl]
      · simp [Store.prev, h.slot_insertAfter hi]
      · simp [Store.next, h.slot_insertAfter hi]
      · rw [prev_eq (h.next_mem hi), if_pos rfl]
  · rw [free_insertAfter]
    exact h.free_nodup.sublist (List.tail_sublist _)
  · intro k
    rw [free_insertAfter, lt_size_insertAfter fun k hk => ((h.free k).mp hk).1, perm.mem_iff,
      List.mem_cons]
    have free := h.free k
    have nodup := h.free_nodup
    have outside := h.fresh_notMem
    unfold fresh at outside ⊢
    cases eq : store.free with
    | nil =>
      simp only [eq, List.tail_nil, List.headD_nil, List.not_mem_nil, false_iff] at free ⊢
      tauto
    | cons first others =>
      rw [eq, List.nodup_cons] at nodup
      simp only [eq, List.tail_cons, List.headD_cons, List.mem_cons] at free ⊢
      have : k ∈ others → k ≠ first := fun mem e => nodup.1 (e ▸ mem)
      tauto

/-! ## Unlinking a slot -/

@[simp] theorem size_unlink : (store.unlink i).slots.size = store.slots.size := by simp [unlink]
@[simp] theorem free_unlink : (store.unlink i).free = i :: store.free := rfl

theorem slot_unlink (hp : store.prev i < store.slots.size) (hn : store.next i < store.slots.size)
    (hi : i < store.slots.size) :
    (store.unlink i).slot j = { store.slot j with
      next := if j = store.prev i then store.next i else store.next j
      prev := if j = store.next i then store.prev i else store.prev j
      live := (store.slot j).live && j != i } := by
  have relinked :
      ((store.setNext (store.prev i) (store.next i)).setPrev (store.next i) (store.prev i)).slot j =
      { store.slot j with
        next := if j = store.prev i then store.next i else store.next j
        prev := if j = store.next i then store.prev i else store.prev j } := by
    rw [slot_setPrev (by simpa using hn), slot_setNext hp]
    split <;> split <;> rfl
  have gone :=
    getD_modify
      ((store.setNext (store.prev i) (store.next i)).setPrev (store.next i) (store.prev i)).slots
      i j fun slot => { slot with live := false }
  rw [slot] at relinked
  rw [relinked] at gone
  refine Eq.trans gone ?_
  by_cases here : j = i
  · simp [here, hi]
  · simp [here]

/-- Unlinking a slot takes it out of the ring. -/
theorem IsRing.unlink_next (h : store.IsRing (front ++ p :: i :: back)) :
    (store.unlink i).IsRing (front ++ p :: back) := by
  have hi : i ∈ front ++ p :: i :: back := by simp
  have hp : p ∈ front ++ p :: i :: back := by simp
  have links := h.links
  rw [List.append_assoc, List.cons_append] at links
  obtain ⟨before, linked, after⟩ : (front ++ [p]).IsChain store.Linked ∧ store.Linked p i ∧
      (i :: (back ++ [sentinel])).IsChain store.Linked := by
    obtain ⟨before, after⟩ := List.isChain_split.mp links
    exact ⟨before, after.rel_head? rfl, after.tail⟩
  have further : store.IsRing ((front ++ [p]) ++ i :: back) := by simpa using h
  obtain ⟨rest, eq, prev_next⟩ := further.next_of_split
  have slot (j : Nat) :=
    slot_unlink (j := j) (h.lt_size (linked.2 ▸ hp)) (h.lt_size (h.next_mem hi)) (h.lt_size hi)
  have next_eq (j : Nat) :
      (store.unlink i).next j = if j = p then store.next i else store.next j := by
    rw [Store.next, slot, linked.2]
  have prev_eq (j : Nat) :
      (store.unlink i).prev j = if j = store.next i then p else store.prev j := by
    rw [Store.prev, slot, linked.2]
  have split := h.nodup_split
  have apart := List.disjoint_of_nodup_append split
  have once : (i :: store.next i :: rest).Nodup := by
    have := split.of_append_right
    rwa [List.cons_append, eq] at this
  have same {l : List Nat} (chain : l.IsChain store.Linked)
    (hl : ∀ b ∈ l.tail, b ≠ i ∧ b ≠ store.next i) :
      l.IsChain (store.unlink i).Linked := by
    refine chain_of_links chain fun a ha b hb linked' => ?_
    have source : a ≠ p := fun e => (hl b hb).1 (by rw [← linked'.1, e, linked.1])
    rw [next_eq, prev_eq, if_neg source, if_neg (hl b hb).2]
    exact ⟨rfl, rfl⟩
  have perm : (front ++ p :: i :: back).Perm (i :: (front ++ p :: back)) := by
    have moved : ((front ++ [p]) ++ i :: back).Perm (i :: ((front ++ [p]) ++ back)) :=
      List.perm_middle
    simpa using moved
  obtain ⟨gone, nodup⟩ := List.nodup_cons.mp (perm.nodup_iff.mp h.nodup)
  refine ⟨?_, nodup, ?_, ?_, ?_, ?_⟩
  · simpa [List.head?_append] using h.head
  · intro k
    rw [slot, Bool.and_eq_true, h.live k, perm.mem_iff, List.mem_cons, bne_iff_ne]
    constructor
    · rintro ⟨here | stays, ne⟩
      · exact absurd here ne
      · exact stays
    · exact fun stays => ⟨.inr stays, fun e => gone (e ▸ stays)⟩
  · rw [List.append_assoc, List.cons_append, eq]
    refine List.isChain_split.mpr
      ⟨same before fun b hb => ?_, .cons_cons ⟨?_, ?_⟩ (same ?_ fun b hb => ?_)⟩
    · have outside := apart hb
      rw [List.cons_append, eq] at outside
      exact ⟨fun e => outside (by simp [e]), fun e => outside (by simp [e])⟩
    · rw [next_eq, if_pos rfl]
    · rw [prev_eq, if_pos rfl]
    · exact (eq ▸ after.tail : (store.next i :: rest).IsChain store.Linked)
    · obtain ⟨first, second⟩ := List.nodup_cons.mp once
      exact ⟨fun e => first (e ▸ List.mem_cons_of_mem _ hb),
        fun e => (List.nodup_cons.mp second).1 (e ▸ hb)⟩
  · exact List.nodup_cons.mpr ⟨fun mem => ((h.free i).mp mem).2 hi, h.free_nodup⟩
  · intro k
    have free := h.free k
    rw [perm.mem_iff, List.mem_cons] at free
    rw [free_unlink, size_unlink, List.mem_cons, free]
    constructor
    · rintro (rfl | ⟨inside, out⟩)
      · exact ⟨h.lt_size hi, gone⟩
      · exact ⟨inside, fun stays => out (.inr stays)⟩
    · rintro ⟨inside, out⟩
      by_cases e : k = i
      · exact .inl e
      · exact .inr ⟨inside, fun mem => mem.elim e out⟩

theorem IsRing.unlink (h : store.IsRing (front ++ i :: back)) (hi : i ≠ sentinel) :
    (store.unlink i).IsRing (front ++ back) := by
  rcases List.eq_nil_or_concat front with rfl | ⟨front, p, rfl⟩
  · exact absurd (Option.some_inj.mp h.head) hi
  · simpa using unlink_next (by simpa using h)

/-! ## Walks -/

theorem slotsAfter_of_chain (h : (i :: win).IsChain store.Linked) :
    store.slotsAfter i win.length = win := by
  induction win generalizing i with
  | nil => rfl
  | cons j rest ih =>
    have first : store.next i = j := (h.rel_head? rfl).1
    rw [List.length_cons, slotsAfter, first, ih h.tail]

theorem nthAfter_of_chain (h : (i :: win).IsChain store.Linked) (hn : n ≤ win.length) :
    (i :: win)[n]? = some (store.nthAfter i n) := by
  induction n generalizing i win with
  | zero => rfl
  | succ n ih =>
    cases win with
    | nil => exact absurd hn (Nat.not_succ_le_zero n)
    | cons j rest =>
      have first : store.next i = j := (h.rel_head? rfl).1
      rw [nthAfter, first]
      exact ih h.tail (Nat.le_of_succ_le_succ hn)

theorem nthBefore_of_chain (h : (i :: win).IsChain fun a b => store.Linked b a)
    (hn : n ≤ win.length) :
    (i :: win)[n]? = some (store.nthBefore i n) := by
  induction n generalizing i win with
  | zero => rfl
  | succ n ih =>
    cases win with
    | nil => exact absurd hn (Nat.not_succ_le_zero n)
    | cons j rest =>
      have first : store.prev i = j := (h.rel_head? rfl).2
      rw [nthBefore, first]
      exact ih h.tail (Nat.le_of_succ_le_succ hn)

theorem slotsAfter_add (m : Nat) :
    store.slotsAfter i (m + n) = store.slotsAfter i m ++
      store.slotsAfter (store.nthAfter i m) n := by
  induction m generalizing i with
  | zero => simp [slotsAfter, nthAfter]
  | succ m ih => rw [Nat.succ_add, slotsAfter, ih, slotsAfter, nthAfter, List.cons_append]

namespace IsRing

theorem chain_of_split (h : store.IsRing (front ++ i :: back)) :
    (i :: (back ++ [sentinel])).IsChain store.Linked := by
  have links := h.links
  rw [List.append_assoc, List.cons_append] at links
  exact links.right_of_append

theorem slotsAfter_eq (h : store.IsRing (front ++ i :: (win ++ back))) :
    store.slotsAfter i win.length = win := by
  have chain : (i :: win).IsChain store.Linked :=
    List.IsChain.prefix h.chain_of_split ⟨back ++ [sentinel], by simp⟩
  exact slotsAfter_of_chain chain

/-- The slot after a part of the ring is the last one of that part. -/
theorem nthAfter_split (h : store.IsRing (front ++ i :: (win ++ back))) :
    ∃ before, front ++ i :: win = before ++ [store.nthAfter i win.length] := by
  have chain : (i :: win).IsChain store.Linked :=
    List.IsChain.prefix h.chain_of_split ⟨back ++ [sentinel], by simp⟩
  have last := nthAfter_of_chain chain (Nat.le_refl _)
  obtain ⟨most, j, eq⟩ := List.eq_nil_or_concat (i :: win) |>.resolve_left (List.cons_ne_nil i win)
  rw [List.concat_eq_append] at eq
  have length : win.length = most.length := by
    have := congrArg List.length eq
    simpa using this
  rw [eq, length, List.getElem?_concat_length] at last
  exact ⟨front ++ most, by rw [eq, length, ← Option.some_inj.mp last, List.append_assoc]⟩

/-- A slot of the ring has as many slots behind it as are left up to the end. -/
theorem fits_iff (h : store.IsRing (front ++ i :: back)) : store.fits i n ↔ n ≤ back.length := by
  induction n generalizing front i back with
  | zero => simp [fits]
  | succ n ih =>
    obtain ⟨rest, eq, -⟩ := h.next_of_split
    cases back with
    | nil =>
      have closed : sentinel = store.next i := (List.cons.inj eq).1
      simp [fits, ← closed]
    | cons j back =>
      have next : j = store.next i := (List.cons.inj eq).1
      have ne : j ≠ sentinel := fun e => by
        have nodup := h.nodup_split.of_append_right
        rw [List.cons_append, e, List.nodup_cons] at nodup
        exact nodup.1 (List.mem_append_right _ List.mem_cons_self)
      have split : store.IsRing ((front ++ [i]) ++ j :: back) := by simpa using h
      have further : store.fits j n ↔ n ≤ back.length := ih split
      simp [fits, ← next, ne, further]

/-- Walking back from the sentinel counts from the end. -/
theorem nthBefore_eq (h : store.IsRing ring) (positive : 0 < n) (hn : n ≤ ring.length) :
    ring[ring.length - n]? = some (store.nthBefore sentinel n) := by
  have chain : (sentinel :: ring.reverse).IsChain fun a b => store.Linked b a := by
    have reversed := List.isChain_reverse.mpr h.links
    simpa using reversed
  have here := nthBefore_of_chain chain (by simpa using hn)
  obtain ⟨n, rfl⟩ := Nat.exists_eq_succ_of_ne_zero (Nat.ne_of_gt positive)
  rw [Nat.succ_eq_add_one, List.getElem?_cons_succ, List.getElem?_reverse (by omega)] at here
  rw [← here]
  congr 1
  omega

theorem length_le (h : store.IsRing ring) : ring.length ≤ store.slots.size := by
  have sub : ring ⊆ List.range store.slots.size := fun i hi => List.mem_range.mpr (h.lt_size hi)
  simpa using (List.subperm_of_subset h.nodup sub).length_le

theorem order_eq (h : store.IsRing ring) : store.order = ring.tail := by
  have whole : store.IsRing ([] ++ sentinel :: (ring.tail ++ [])) := by simpa [← h.eq_cons] using h
  have enough : ring.tail.length + 1 ≤ store.slots.size := by
    have := h.length_le
    rw [h.eq_cons] at this
    simpa using this
  obtain ⟨more, size⟩ := Nat.exists_eq_add_of_le enough
  obtain ⟨before, last⟩ := whole.nthAfter_split
  have back : store.next (store.nthAfter sentinel ring.tail.length) = sentinel := by
    have split : store.IsRing (before ++ store.nthAfter sentinel ring.tail.length :: []) := by
      rw [← last]
      simpa using whole
    obtain ⟨rest, eq, -⟩ := split.next_of_split
    exact (List.cons.inj eq).1.symm
  have inside : ∀ i ∈ ring.tail, (i != sentinel) = true := by
    intro i hi
    have nodup := h.nodup
    rw [h.eq_cons, List.nodup_cons] at nodup
    exact bne_iff_ne.mpr fun e => nodup.1 (e ▸ hi)
  unfold order
  rw [size, Nat.add_assoc, slotsAfter_add, whole.slotsAfter_eq, Nat.add_comm 1, slotsAfter, back,
    List.takeWhile_append_of_pos inside, List.takeWhile_cons_of_neg (by simp), List.append_nil]

theorem eq_order (h : store.IsRing ring) : ring = sentinel :: store.order := by
  rw [h.order_eq]
  exact h.eq_cons

theorem contents_eq (h : store.IsRing ring) : store.contents = ring.tail.map store.cell := by
  rw [contents, h.order_eq]

/-- The walk from the sentinel meets all other slots of the ring and comes back. -/
theorem slotsAfter_sentinel (h : store.IsRing ring) :
    store.slotsAfter sentinel (store.order.length + 1) = store.order ++ [sentinel] := by
  have links := h.links
  rw [h.eq_order, List.cons_append] at links
  simpa using slotsAfter_of_chain links

/-- Going back is the inverse of going on. -/
theorem next_prev (h : store.IsRing ring) (hi : i ∈ ring) : store.next (store.prev i) = i := by
  have links := h.links
  rw [h.eq_cons, List.cons_append] at links
  have met : i ∈ ring.tail ++ [sentinel] := by
    rw [h.eq_cons] at hi
    simpa [or_comm] using hi
  obtain ⟨front, back, split⟩ := List.append_of_mem met
  obtain ⟨most, p, eq⟩ :=
      List.eq_nil_or_concat (sentinel :: front) |>.resolve_left (List.cons_ne_nil sentinel front)
  rw [split, ← List.cons_append, eq, List.concat_eq_append, List.append_assoc,
    List.singleton_append] at links
  have linked : store.Linked p i := links.right_of_append.rel_head? rfl
  rw [linked.2, linked.1]

theorem prev_next (h : store.IsRing ring) (hi : i ∈ ring) : store.prev (store.next i) = i := by
  obtain ⟨front, back, rfl⟩ := List.append_of_mem hi
  obtain ⟨-, -, back⟩ := h.next_of_split
  exact back

/-- The slots other than the sentinel are the live ones. -/
theorem length_order (h : store.IsRing ring) : store.order.length =
    ((List.range store.slots.size).filter fun i => (store.slot i).live &&
      i != sentinel).length := by
  have nodup : (sentinel :: store.order).Nodup := h.eq_order ▸ h.nodup
  refine List.Perm.length_eq
    ((List.perm_ext_iff_of_nodup nodup.of_cons (List.nodup_range.filter _)).mpr fun i => ?_)
  have apart : i ∈ store.order → i ≠ sentinel := fun mem e => (List.nodup_cons.mp nodup).1 (e ▸ mem)
  have live := h.live i
  have inside := h.lt_size (i := i)
  rw [h.eq_order, List.mem_cons] at live inside
  simp only [List.mem_filter, List.mem_range, Bool.and_eq_true, bne_iff_ne, live]
  tauto

end IsRing

end CellScript.Store
