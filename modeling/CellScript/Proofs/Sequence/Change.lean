import CellScript.Proofs.Sequence.Ring

/-!
# Changes of a ring

What views rely on when elements come and go: slots that stay keep their generation and their order,
and a slot that comes back is in a new generation.

## Main definitions

* `Before` — two slots in the order of a ring.
* `Store.Evolves` — the change of a ring, as views see it.

## Main statements

* `Store.Evolves.isCurrent_iff` — an anchor stays current exactly as long as its slot stays in the
  ring.
* `Store.IsRing.insertAllAfter`, `Store.IsRing.unlinkAll`, `Store.IsRing.unlinkAfter`,
  `Store.IsRing.setCells` — what the operations do to a ring and its cells.
-/

namespace CellScript

/-! ## Order -/

/-- One element of a list is at or before another one. -/
def Before (l : List Nat) (i j : Nat) : Prop :=
  i = j ∨ [i, j].Sublist l

namespace Before

variable {l l' front back : List Nat} {i j k : Nat}

theorem of_split (h : j ∈ i :: back) : Before (front ++ i :: back) i j := by
  rcases List.mem_cons.mp h with rfl | later
  · exact .inl rfl
  · exact .inr (((List.singleton_sublist.mpr later).cons_cons i).trans
      (List.sublist_append_right _ _))

theorem mono (h : Before l i j) (sub : l.Sublist l') : Before l' i j :=
  h.imp id fun pair => pair.trans sub

theorem of_mem (h : i ∈ front ++ [j]) : Before (front ++ j :: back) i j := by
  rcases List.mem_append.mp h with earlier | here
  · obtain ⟨first, second, rfl⟩ := List.append_of_mem earlier
    rw [List.append_assoc, List.cons_append]
    exact of_split (List.mem_cons_of_mem _ (by simp))
  · exact .inl (List.mem_singleton.mp here)

theorem total (hi : i ∈ l) (hj : j ∈ l) : Before l i j ∨ Before l j i := by
  obtain ⟨front, back, rfl⟩ := List.append_of_mem hi
  rcases List.mem_append.mp hj with earlier | later
  · exact .inr (of_mem (List.mem_append_left _ earlier))
  · exact .inl (of_split later)

/-- What is before an element is in front of it. -/
theorem mem_of_split (nodup : (front ++ i :: back).Nodup) (h : Before (front ++ i :: back) j i) :
    j ∈ front ++ [i] := by
  rcases h with rfl | pair
  · exact List.mem_append_right _ List.mem_cons_self
  · obtain ⟨first, second, eq, inFront, inBack⟩ := List.sublist_append_iff.mp pair
    cases first with
    | cons k rest =>
      obtain ⟨rfl, -⟩ := List.cons.inj eq
      exact List.mem_append_left _ (inFront.subset List.mem_cons_self)
    | nil =>
      obtain rfl : [j, i] = second := eq
      have twice : i ∈ back := by
        cases inBack with
        | cons _ later => exact later.subset (List.mem_cons_of_mem _ List.mem_cons_self)
        | cons_cons _ later => exact later.subset List.mem_cons_self
      exact absurd twice (List.nodup_cons.mp nodup.of_append_right).1

theorem mem_right (hi : i ∈ l) (h : Before l i j) : j ∈ l := by
  rcases h with rfl | pair
  · exact hi
  · exact pair.subset (List.mem_cons_of_mem _ List.mem_cons_self)

theorem antisymm (nodup : l.Nodup) (hi : i ∈ l) (h : Before l i j) (h' : Before l j i) : i = j := by
  obtain ⟨front, back, rfl⟩ := List.append_of_mem (mem_right hi h)
  rcases List.mem_append.mp (mem_of_split nodup h) with earlier | here
  · obtain ⟨first, second, rfl⟩ := List.append_of_mem earlier
    rw [List.append_assoc, List.cons_append] at nodup h'
    rcases List.mem_append.mp (mem_of_split nodup h') with before | here
    · exact absurd (by simp) (List.disjoint_of_nodup_append nodup before)
    · exact (List.mem_singleton.mp here).symm
  · exact List.mem_singleton.mp here

theorem trans (nodup : l.Nodup) (hi : i ∈ l) (h : Before l i j) (h' : Before l j k) :
    Before l i k := by
  obtain ⟨front, back, rfl⟩ := List.append_of_mem (mem_right (mem_right hi h) h')
  rcases List.mem_append.mp (mem_of_split nodup h') with earlier | here
  · obtain ⟨first, second, rfl⟩ := List.append_of_mem earlier
    rw [List.append_assoc, List.cons_append] at nodup h
    refine of_mem (List.mem_append_left _ ?_)
    rcases List.mem_append.mp (mem_of_split nodup h) with before | here
    · exact List.mem_append_left _ before
    · simp [List.mem_singleton.mp here]
  · exact List.mem_singleton.mp here ▸ h

/-- Taking elements away does not change the order of the others. -/
theorem of_sublist (nodup : l.Nodup) (sub : l'.Sublist l) (hi : i ∈ l') (hj : j ∈ l')
    (h : Before l i j) :
    Before l' i j := by
  rcases total hi hj with same | other
  · exact same
  · exact .inl (antisymm nodup (sub.subset hi) h (other.mono sub))

end Before

namespace Store

variable {store store' store'' : Store} {ring ring' ring'' front back win : List Nat} {i : Nat}
  {cell : CellRef}

/-! ## What views see -/

/-- A ring has changed: slots that stay keep their generation and order, those that come back are in
a new one. -/
structure Evolves (store : Store) (ring : List Nat) (store' : Store) (ring' : List Nat) : Prop where
  stays : ∀ i ∈ ring, i ∈ ring' → store'.generation i = store.generation i
  comes : ∀ i ∈ ring', i ∉ ring → i < store.slots.size → store.generation i < store'.generation i
  older : ∀ i, store.generation i ≤ store'.generation i
  size : store.slots.size ≤ store'.slots.size
  ordered : ∀ i ∈ ring', ∀ j ∈ ring', i ∈ ring → j ∈ ring → Before ring i j → Before ring' i j

/-- An anchor that some store has given out: its slot is in that generation or a later one. -/
def Knows (store : Store) (a : Anchor) : Prop :=
  a.slot < store.slots.size ∧ a.generation ≤ store.generation a.slot

theorem Knows.evolves {a : Anchor} (h : store.Knows a) (change : Evolves store ring store' ring') :
    store'.Knows a :=
  ⟨Nat.lt_of_lt_of_le h.1 change.size, Nat.le_trans h.2 (change.older _)⟩

theorem IsRing.isCurrent_iff (h : store.IsRing ring) (a : Anchor) :
    store.isCurrent a ↔ a.slot ∈ ring ∧ store.generation a.slot = a.generation := by
  rw [Store.isCurrent_iff, h.live]

/-- An anchor stays current exactly as long as its slot stays in the ring. -/
theorem Evolves.isCurrent_iff {a : Anchor} (change : Evolves store ring store' ring')
    (h : store.IsRing ring) (h' : store'.IsRing ring') (known : store.Knows a) :
    store'.isCurrent a ↔ store.isCurrent a ∧ a.slot ∈ ring' := by
  rw [h.isCurrent_iff, h'.isCurrent_iff]
  constructor
  · rintro ⟨inside, generation⟩
    have stayed : a.slot ∈ ring := by
      by_contra absent
      have := change.comes _ inside absent known.1
      have := known.2
      omega
    exact ⟨⟨stayed, (change.stays _ stayed inside).symm.trans generation⟩, inside⟩
  · rintro ⟨⟨stayed, generation⟩, inside⟩
    exact ⟨inside, (change.stays _ stayed inside).trans generation⟩

/-- A ring has got new slots. -/
structure Grows (store : Store) (ring : List Nat) (store' : Store) (ring' : List Nat) : Prop where
  sub : ring.Sublist ring'
  cell : ∀ i ∈ ring, store'.cell i = store.cell i
  generation : ∀ i ∈ ring, store'.generation i = store.generation i
  comes : ∀ i ∈ ring', i ∉ ring → i < store.slots.size → store.generation i < store'.generation i
  older : ∀ i, store.generation i ≤ store'.generation i
  size : store.slots.size ≤ store'.slots.size

/-- A ring has lost slots. -/
structure Shrinks (store : Store) (ring : List Nat) (store' : Store) (ring' : List Nat) : Prop where
  sub : ring'.Sublist ring
  cell : ∀ i, store'.cell i = store.cell i
  generation : ∀ i, store'.generation i = store.generation i
  size : store'.slots.size = store.slots.size

theorem Grows.refl (store : Store) (ring : List Nat) : Grows store ring store ring :=
  ⟨.refl _, fun _ _ => rfl, fun _ _ => rfl, fun _ mem absent => absurd mem absent,
    fun _ => Nat.le_refl _, Nat.le_refl _⟩

theorem Grows.trans (h : Grows store ring store' ring') (h' : Grows store' ring' store'' ring'') :
    Grows store ring store'' ring'' where
  sub := h.sub.trans h'.sub
  cell i hi := (h'.cell i (h.sub.subset hi)).trans (h.cell i hi)
  generation i hi := (h'.generation i (h.sub.subset hi)).trans (h.generation i hi)
  comes i mem absent inside := by
    by_cases between : i ∈ ring'
    · rw [h'.generation i between]
      exact h.comes i between absent inside
    · exact Nat.lt_of_le_of_lt (h.older i)
        (h'.comes i mem between (Nat.lt_of_lt_of_le inside h.size))
  older i := Nat.le_trans (h.older i) (h'.older i)
  size := Nat.le_trans h.size h'.size

theorem Grows.evolves (h : Grows store ring store' ring') : Evolves store ring store' ring' where
  stays i hi _ := h.generation i hi
  comes := h.comes
  older := h.older
  size := h.size
  ordered _ _ _ _ _ _ before := before.mono h.sub

theorem Shrinks.refl (store : Store) (ring : List Nat) : Shrinks store ring store ring :=
  ⟨.refl _, fun _ => rfl, fun _ => rfl, rfl⟩

theorem Shrinks.trans (h : Shrinks store ring store' ring')
    (h' : Shrinks store' ring' store'' ring'') :
    Shrinks store ring store'' ring'' where
  sub := h'.sub.trans h.sub
  cell i := (h'.cell i).trans (h.cell i)
  generation i := (h'.generation i).trans (h.generation i)
  size := h'.size.trans h.size

theorem Shrinks.evolves (h : Shrinks store ring store' ring') (nodup : ring.Nodup) :
    Evolves store ring store' ring' where
  stays _ _ _ := h.generation _
  comes _ mem absent _ := absurd (h.sub.subset mem) absent
  older i := Nat.le_of_eq (h.generation i).symm
  size := Nat.le_of_eq h.size.symm
  ordered _ hi _ hj _ _ before := before.of_sublist nodup h.sub hi hj

/-! ## Linking many -/

theorem generation_of_size_le (h : store.slots.size ≤ i) : store.generation i = 0 := by
  have nothing : store.slot i = default := by simp [slot, Array.getD_eq_getD_getElem?, h]
  rw [generation, nothing]
  rfl

theorem IsRing.grows_insertAfter (h : store.IsRing (front ++ i :: back)) (cell : CellRef) :
    Grows store (front ++ i :: back) (store.insertAfter i cell)
      (front ++ i :: store.fresh :: back) := by
  have hi : i ∈ front ++ i :: back := List.mem_append_right _ List.mem_cons_self
  have ne {j : Nat} (hj : j ∈ front ++ i :: back) : j ≠ store.fresh :=
    fun e => h.fresh_notMem (e ▸ hj)
  have new : (store.insertAfter i cell).generation store.fresh =
      if store.fresh < store.slots.size then store.generation store.fresh + 1 else 0 := by
    rw [generation, h.slot_insertAfter hi, if_pos rfl]
    rfl
  refine ⟨?_, fun j hj => ?_, fun j hj => h.generation_insertAfter hi (ne hj),
    fun j mem absent inside => ?_, fun j => ?_, size_insertAfter⟩
  · exact ((List.sublist_cons_self _ _).cons_cons i).append_left front
  · rw [h.cell_insertAfter hi, if_neg (ne hj)]
  · obtain rfl : j = store.fresh := by
      simp only [List.mem_append, List.mem_cons] at mem absent
      tauto
    rw [new, if_pos inside]
    exact Nat.lt_succ_self _
  · by_cases e : j = store.fresh
    · subst e
      rw [new]
      split
      · exact Nat.le_succ _
      · rename_i outside
        exact Nat.le_of_eq (generation_of_size_le (Nat.le_of_not_lt outside))
    · exact Nat.le_of_eq (h.generation_insertAfter hi e).symm

/-- Linking slots for cells one behind the other. -/
theorem IsRing.insertAllAfter (h : store.IsRing (front ++ i :: back)) (cells : List CellRef) :
    ∃ new, (store.insertAllAfter i cells).IsRing (front ++ i :: (new ++ back)) ∧
      new.map (store.insertAllAfter i cells).cell = cells ∧
      Grows store (front ++ i :: back) (store.insertAllAfter i cells)
        (front ++ i :: (new ++ back)) := by
  induction cells generalizing store front i with
  | nil => exact ⟨[], h, rfl, .refl _ _⟩
  | cons cell rest ih =>
    have linked : (store.insertAfter i cell).IsRing ((front ++ [i]) ++ store.fresh :: back) := by
      simpa using h.insertAfter cell
    have first :
        Grows store (front ++ i :: back) (store.insertAfter i cell)
          ((front ++ [i]) ++ store.fresh :: back) := by
      simpa using h.grows_insertAfter cell
    obtain ⟨new, ring, cells, grows⟩ := ih linked
    refine ⟨store.fresh :: new, by simpa [Store.insertAllAfter] using ring, ?_,
      by simpa [Store.insertAllAfter] using first.trans grows⟩
    have here :
        ((store.insertAfter i cell).insertAllAfter store.fresh rest).cell store.fresh = cell := by
      rw [grows.cell _ (by simp), h.cell_insertAfter (by simp), if_pos rfl]
    rw [Store.insertAllAfter, List.map_cons, here, cells]

/-! ## Unlinking many -/

theorem shrinks_unlink (store : Store) (front back : List Nat) (i : Nat) :
    Shrinks store (front ++ i :: back) (store.unlink i) (front ++ back) :=
  ⟨(List.sublist_cons_self _ _).append_left front, fun _ => cell_unlink, fun _ => generation_unlink,
    size_unlink⟩

/-- Unlinking slots one after the other. -/
theorem IsRing.unlinkAll (h : store.IsRing ring) {doomed : List Nat} (nodup : doomed.Nodup)
    (inside : ∀ i ∈ doomed, i ∈ ring ∧ i ≠ sentinel) :
    (doomed.foldl Store.unlink store).IsRing (ring.filter (· ∉ doomed)) ∧
      Shrinks store ring (doomed.foldl Store.unlink store) (ring.filter (· ∉ doomed)) := by
  induction doomed generalizing store ring with
  | nil => simpa using ⟨h, Shrinks.refl store ring⟩
  | cons i rest ih =>
    obtain ⟨mem, ne⟩ := inside i List.mem_cons_self
    obtain ⟨absent, nodup⟩ := List.nodup_cons.mp nodup
    obtain ⟨front, back, rfl⟩ := List.append_of_mem mem
    have elsewhere := List.nodup_middle.mp h.nodup
    have kept :
        (front ++ i :: back).filter (· ∉ i :: rest) = (front ++ back).filter (· ∉ rest) := by
      have apart : ∀ j ∈ front ++ back, j ≠ i :=
        fun j hj e => (List.nodup_cons.mp elsewhere).1 (e ▸ hj)
      simp only [List.filter_append, List.filter_cons, List.mem_cons, true_or, not_true,
        decide_false]
      congr 1 <;> refine List.filter_congr fun j hj => ?_
      · simp [apart j (List.mem_append_left _ hj)]
      · simp [apart j (List.mem_append_right _ hj)]
    have unlinked := h.unlink ne
    rw [kept]
    obtain ⟨ring, shrinks⟩ := ih unlinked nodup fun j hj => by
      obtain ⟨mem, ne⟩ := inside j (List.mem_cons_of_mem _ hj)
      refine ⟨?_, ne⟩
      have apart : j ≠ i := fun e => absent (e ▸ hj)
      simpa [apart] using mem
    exact ⟨ring, (shrinks_unlink store front back i).trans shrinks⟩

/-- Unlinking the slots behind another one, the first one first. -/
theorem IsRing.unlinkAfter (h : store.IsRing (front ++ i :: (win ++ back))) :
    (store.unlinkAfter i win.length).IsRing (front ++ i :: back) ∧
      Shrinks store (front ++ i :: (win ++ back)) (store.unlinkAfter i win.length)
        (front ++ i :: back) := by
  induction win generalizing store with
  | nil => exact ⟨h, .refl _ _⟩
  | cons j rest ih =>
    have next : store.next i = j := (h.chain_of_split.rel_head? rfl).1
    have split : store.IsRing ((front ++ [i]) ++ j :: (rest ++ back)) := by simpa using h
    have ne : j ≠ sentinel := by
      have nodup := h.nodup_split.of_append_right
      rintro rfl
      simp at nodup
    have unlinked : (store.unlink j).IsRing (front ++ i :: (rest ++ back)) := by
      simpa using split.unlink ne
    obtain ⟨ring, shrinks⟩ := ih unlinked
    have first :
        Shrinks store (front ++ i :: (j :: rest ++ back)) (store.unlink j)
          (front ++ i :: (rest ++ back)) := by
      simpa using shrinks_unlink store (front ++ [i]) (rest ++ back) j
    rw [List.length_cons, Store.unlinkAfter, next]
    exact ⟨ring, first.trans shrinks⟩

/-! ## Writing cells -/

theorem IsRing.setCell (h : store.IsRing ring) (hi : i ∈ ring) :
    (store.setCell i cell).IsRing ring := by
  have slot (j : Nat) : (store.setCell i cell).slot j = if j = i then { store.slot j with cell }
    else store.slot j :=
    slot_setCell (h.lt_size hi)
  have next (j : Nat) : (store.setCell i cell).next j = store.next j := by
    rw [Store.next, slot]
    split <;> rfl
  have prev (j : Nat) : (store.setCell i cell).prev j = store.prev j := by
    rw [Store.prev, slot]
    split <;> rfl
  refine ⟨h.head, h.nodup, fun j => ?_, ?_, h.free_nodup, fun j => ?_⟩
  · rw [slot, ← h.live j]
    split <;> rfl
  · exact chain_of_links h.links fun a _ b _ _ => ⟨next a, prev b⟩
  · rw [size_setCell]
    exact h.free j

theorem IsRing.cell_setCell (h : store.IsRing ring) (hi : i ∈ ring) (j : Nat) :
    (store.setCell i cell).cell j = if j = i then cell else store.cell j := by
  rw [Store.cell, slot_setCell (h.lt_size hi)]
  split <;> rfl

/-- Writing cells into slots in order. -/
theorem IsRing.setCells (h : store.IsRing ring) (cells : List CellRef)
    (inside : ∀ i ∈ win, i ∈ ring) (nodup : win.Nodup) (length : win.length = cells.length) :
    let store' := (win.zip cells).foldl (fun store pair => store.setCell pair.1 pair.2) store
    store'.IsRing ring ∧ win.map store'.cell = cells ∧ (∀ j ∉ win, store'.cell j = store.cell j) ∧
      (∀ j, store'.generation j = store.generation j) ∧ store'.slots.size = store.slots.size := by
  induction win generalizing store cells with
  | nil =>
    obtain rfl := List.length_eq_zero_iff.mp length.symm
    exact ⟨h, rfl, fun _ _ => rfl, fun _ => rfl, rfl⟩
  | cons i rest ih =>
    obtain ⟨cell, cells, rfl⟩ := List.exists_cons_of_length_eq_add_one length.symm
    have hi : i ∈ ring := inside i List.mem_cons_self
    obtain ⟨absent, nodup⟩ := List.nodup_cons.mp nodup
    have first : (store.setCell i cell).IsRing ring := h.setCell hi
    obtain ⟨ring, written, others, generation, size⟩ := ih first cells
      (fun j hj => inside j (List.mem_cons_of_mem _ hj)) nodup (Nat.succ_inj.mp length)
    refine ⟨ring, ?_, fun j hj => ?_, fun j => (generation j).trans generation_setCell,
      size.trans size_setCell⟩
    · rw [List.map_cons, List.zip_cons_cons, List.foldl_cons, written, others i absent,
        h.cell_setCell hi, if_pos rfl]
    · obtain ⟨ne, outside⟩ := not_or.mp (mt List.mem_cons.mpr hj)
      rw [List.zip_cons_cons, List.foldl_cons, others j outside, h.cell_setCell hi, if_neg ne]

end Store

end CellScript
