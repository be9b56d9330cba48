import CellScript.Proofs.Mirror.Simulation
import CellScript.Proofs.Sequence.History

/-!
# Sequences in other places

Stores and views that are alike are linked up in the same way, and their slots hold cells that are
linked. The sentinel is the exception: what it holds means nothing. An operation never gives it
away, since the sequences are sound.

## Main definitions

* `Slots`, `Rows` — slots, and sequences, of two machines that are alike.

## Main statements

* `Rows.window` — windows are where they are on the other side, and stale for the same reason.
* Instances of `Edits` for the operations on sequences.
-/

namespace CellScript.Mirror

open Sequences

variable {e : Surroundings} {w w' : Links} {α β : Type}

/-! ## Stores -/

/-- Slots with the same neighbours. Only the sentinel may hold something else. -/
structure Slots (w : Links) (i : Nat) (a b : Slot) : Prop where
  prev : a.prev = b.prev
  next : a.next = b.next
  generation : a.generation = b.generation
  live : a.live = b.live
  cell : i ≠ Store.sentinel → Alike w a.cell b.cell

theorem Slots.mono {i : Nat} {a b : Slot} (le : w ≤ w') (h : Slots w i a b) : Slots w' i a b :=
  { h with cell := fun ne => (h.cell ne).mono le }

/-- Stores that are alike. -/
structure Stores (w : Links) (s s' : Store) : Prop where
  free : s.free = s'.free
  size : s.slots.size = s'.slots.size
  slot : ∀ i (hi : i < s.slots.size) (hi' : i < s'.slots.size), Slots w i s.slots[i] s'.slots[i]

instance : Paired Store :=
  ⟨Stores, fun le h => { h with slot := fun i hi hi' => (h.slot i hi hi').mono le }⟩

section Stores

variable {s s' : Store} {i n : Nat} (h : Alike w s s')

include h

theorem Alike.slot (hi : i < s.slots.size) : Slots w i (s.slot i) (s'.slot i) := by
  have hi' : i < s'.slots.size := h.rel.size ▸ hi
  have same := h.rel.slot i hi hi'
  unfold Store.slot
  rwa [Array.getD_eq_getD_getElem?, Array.getD_eq_getD_getElem?, Array.getElem?_eq_getElem hi,
    Array.getElem?_eq_getElem hi']

/-- What lies outside of both stores is the same. -/
theorem Alike.slot_of_le (hi : s.slots.size ≤ i) : s.slot i = s'.slot i := by
  have hi' : s'.slots.size ≤ i := h.rel.size ▸ hi
  unfold Store.slot
  rw [Array.getD_eq_getD_getElem?, Array.getD_eq_getD_getElem?, Array.getElem?_eq_none hi,
    Array.getElem?_eq_none hi']

theorem Alike.next_eq (i : Nat) : s.next i = s'.next i := by
  by_cases hi : i < s.slots.size
  · exact (h.slot hi).next
  · exact congrArg Slot.next (h.slot_of_le (Nat.not_lt.mp hi))

theorem Alike.prev_eq (i : Nat) : s.prev i = s'.prev i := by
  by_cases hi : i < s.slots.size
  · exact (h.slot hi).prev
  · exact congrArg Slot.prev (h.slot_of_le (Nat.not_lt.mp hi))

theorem Alike.anchor_eq (i : Nat) : s.anchor i = s'.anchor i := by
  unfold Store.anchor
  by_cases hi : i < s.slots.size
  · rw [(h.slot hi).generation]
  · rw [h.slot_of_le (Nat.not_lt.mp hi)]

theorem Alike.isCurrent_eq (a : Anchor) : s.isCurrent a = s'.isCurrent a := by
  unfold Store.isCurrent
  by_cases hi : a.slot < s.slots.size
  · have hi' : a.slot < s'.slots.size := h.rel.size ▸ hi
    have same := h.rel.slot a.slot hi hi'
    rw [Array.getElem?_eq_getElem hi, Array.getElem?_eq_getElem hi']
    dsimp only
    rw [same.live, same.generation]
  · have hi' : s'.slots.size ≤ a.slot := h.rel.size ▸ Nat.not_lt.mp hi
    rw [Array.getElem?_eq_none (Nat.not_lt.mp hi), Array.getElem?_eq_none hi']

theorem Alike.nthAfter_eq (i n : Nat) : s.nthAfter i n = s'.nthAfter i n := by
  induction n generalizing i with
  | zero => rfl
  | succ n ih => rw [Store.nthAfter, Store.nthAfter, h.next_eq, ih]

theorem Alike.nthBefore_eq (i n : Nat) : s.nthBefore i n = s'.nthBefore i n := by
  induction n generalizing i with
  | zero => rfl
  | succ n ih => rw [Store.nthBefore, Store.nthBefore, h.prev_eq, ih]

theorem Alike.slotsAfter_eq (i n : Nat) : s.slotsAfter i n = s'.slotsAfter i n := by
  induction n generalizing i with
  | zero => rfl
  | succ n ih => rw [Store.slotsAfter, Store.slotsAfter, h.next_eq, ih]

theorem Alike.fits_eq (i n : Nat) : s.fits i n = s'.fits i n := by
  induction n generalizing i with
  | zero => rfl
  | succ n ih => rw [Store.fits, Store.fits, h.next_eq, ih]

theorem Alike.fresh_eq : s.fresh = s'.fresh := by
  unfold Store.fresh
  rw [h.rel.free, h.rel.size]

/-- The cell in a slot of the ring, other than the sentinel. -/
theorem Alike.cell (hi : i < s.slots.size) (ne : i ≠ Store.sentinel) :
    Alike w (s.cell i) (s'.cell i) :=
  (h.slot hi).cell ne

/-- A change of one slot. -/
theorem Alike.modifySlot {f g : Slot → Slot} {free : List Nat} (i : Nat)
    (same : ∀ a b, Slots w i a b → Slots w i (f a) (g b)) :
    Alike w (Store.mk (s.slots.modify i f) free) (Store.mk (s'.slots.modify i g) free) where
  rel := by
    refine ⟨rfl, by simpa using h.rel.size, fun j hj hj' => ?_⟩
    have before := h.rel.slot j (by simpa using hj) (by simpa using hj')
    rw [Array.getElem_modify, Array.getElem_modify]
    split
    · rename_i here
      subst here
      exact same _ _ before
    · exact before

theorem Alike.setNext (i n : Nat) : Alike w (s.setNext i n) (s'.setNext i n) := by
  unfold Store.setNext
  rw [h.rel.free]
  exact h.modifySlot i fun _ _ same => { same with next := rfl }

theorem Alike.setPrev (i n : Nat) : Alike w (s.setPrev i n) (s'.setPrev i n) := by
  unfold Store.setPrev
  rw [h.rel.free]
  exact h.modifySlot i fun _ _ same => { same with prev := rfl }

theorem Alike.occupy (cell cell' : CellRef) [linked : Alike w cell cell'] (prev next : Nat) :
    Alike w (s.occupy cell prev next) (s'.occupy cell' prev next) := by
  unfold Store.occupy
  rw [← h.rel.free]
  cases s.free with
  | nil =>
    refine ⟨rfl, by simpa using h.rel.size, fun j hj hj' => ?_⟩
    have size := h.rel.size
    rw [Array.getElem_push, Array.getElem_push]
    by_cases old : j < s.slots.size
    · rw [dif_pos old, dif_pos (size ▸ old)]
      exact h.rel.slot j old _
    · rw [dif_neg old, dif_neg (size ▸ old)]
      exact ⟨rfl, rfl, rfl, rfl, fun _ => linked⟩
  | cons i free =>
    exact h.modifySlot i fun _ _ same =>
      ⟨rfl, rfl, congrArg (· + 1) same.generation, rfl, fun _ => linked⟩

theorem Alike.insertAfter (i : Nat) (cell cell' : CellRef) [Alike w cell cell'] :
    Alike w (s.insertAfter i cell) (s'.insertAfter i cell') := by
  unfold Store.insertAfter
  dsimp only
  rw [h.next_eq, h.fresh_eq]
  exact ((h.occupy cell cell' i _).setNext i _).setPrev _ _

theorem Alike.unlink (i : Nat) : Alike w (s.unlink i) (s'.unlink i) := by
  have prev : (s.slot i).prev = (s'.slot i).prev := h.prev_eq i
  have next : (s.slot i).next = (s'.slot i).next := h.next_eq i
  unfold Store.unlink
  dsimp only
  rw [prev, next]
  have relinked :=
    (h.setNext (s'.slot i).prev (s'.slot i).next).setPrev (s'.slot i).next (s'.slot i).prev
  rw [relinked.rel.free]
  exact relinked.modifySlot i fun _ _ same => { same with live := rfl }

theorem Alike.unlinkAll (doomed : List Nat) :
    Alike w (doomed.foldl Store.unlink s) (doomed.foldl Store.unlink s') := by
  induction doomed generalizing s s' with
  | nil => exact h
  | cons i doomed ih => exact ih (h.unlink i)

theorem Alike.insertAllAfter (i : Nat) (cells cells' : List CellRef) [hc : Alike w cells cells'] :
    Alike w (s.insertAllAfter i cells) (s'.insertAllAfter i cells') := by
  induction cells generalizing s s' cells' i with
  | nil =>
    obtain ⟨-, rfl⟩ | ⟨_, _, _, _, ⟨⟩, -⟩ := hc.list
    exact h
  | cons cell cells ih =>
    obtain ⟨⟨⟩, -⟩ | ⟨_, cell', _, cells', ⟨rfl, rfl⟩, rfl, hd, tl⟩ := hc.list
    rw [Store.insertAllAfter, Store.insertAllAfter, h.fresh_eq]
    exact ih (h.insertAfter i cell cell') _ cells'

end Stores

instance : Alike w Store.empty Store.empty :=
  ⟨rfl, rfl, fun i hi _ => by
    obtain rfl : i = 0 := by simpa [Store.empty] using hi
    exact ⟨rfl, rfl, rfl, rfl, fun ne => absurd rfl ne⟩⟩

instance (cells cells' : List CellRef) [Alike w cells cells'] :
    Alike w (Store.ofCells cells) (Store.ofCells cells') :=
  Alike.insertAllAfter inferInstance _ cells cells'

/-! ## Views -/

instance : Plain Anchor := ⟨⟩

/-- Views onto stores that are linked, at the same place. -/
structure Views (w : Links) (a b : View) : Prop where
  store : w.Has .store a.store b.store
  anchor : a.anchor = b.anchor
  length : a.length = b.length
  parent : Alike w a.parent b.parent

instance : Paired View :=
  ⟨Views, fun le h => { h with store := le _ _ _ h.store, parent := h.parent.mono le }⟩

/-- Windows on stores that are linked, at the same place. -/
structure Windows (w : Links) (a b : Window) : Prop where
  store : w.Has .store a.store b.store
  slot : a.slot = b.slot
  length : a.length = b.length

instance : Paired Window :=
  ⟨Windows, fun le h => { h with store := le _ _ _ h.store }⟩

theorem Alike.staleness?_eq {v v' : View} {s s' : Store} (hv : Alike w v v') (hs : Alike w s s') :
    v.staleness? s = v'.staleness? s' := by
  unfold View.staleness?
  have parent : v.parent.isNone = v'.parent.isNone := by
    rw [← Option.not_isSome, ← Option.not_isSome, hv.rel.parent.isSome_eq]
  rw [parent, hv.rel.anchor, hv.rel.length, hs.isCurrent_eq, hs.fits_eq]

/-! ## Faults -/

/-- Faults that are alike: throws of values that are, or the same fault. -/
inductive Faults (w : Links) : Fault → Fault → Prop where
  | thrown {c d : CellRef} : Paired.rel w c d → Faults w (.thrown c) (.thrown d)
  | other {f : Fault} : (∀ c, f ≠ .thrown c) → Faults w f f

instance : Paired Fault where
  rel := Faults
  mono le
    | .thrown h => .thrown (Paired.mono le h)
    | .other h => .other h

instance (c d : CellRef) [h : Alike w c d] : Alike w (Fault.thrown c) (.thrown d) := ⟨.thrown h.rel⟩

instance (cause : BadIndex) : Alike w (Fault.badIndex cause) (.badIndex cause) := ⟨.other nofun⟩

instance (cause : BadCast) : Alike w (Fault.badCast cause) (.badCast cause) := ⟨.other nofun⟩

instance (cause : NullUse) : Alike w (Fault.nullDereference cause) (.nullDereference cause) :=
  ⟨.other nofun⟩

instance (why : Staleness) :
    Alike w (Fault.concurrentModification why) (.concurrentModification why) := ⟨.other nofun⟩

instance (cause : Mishap) : Alike w (Fault.runtime cause) (.runtime cause) := ⟨.other nofun⟩

instance (text : String) : Alike w (Fault.fatal text) (.fatal text) := ⟨.other nofun⟩

instance (text : String) : Alike w (Fault.taintViolation text) (.taintViolation text) :=
  ⟨.other nofun⟩

instance (limit : Nat) : Alike w (Fault.timeout limit) (.timeout limit) := ⟨.other nofun⟩

instance alike_resolveIndex (index : Int) (length : Nat) :
    Alike w (resolveIndex index length) (resolveIndex index length) := by
  unfold resolveIndex
  split
  · infer_instance
  · split <;> infer_instance

/-! ## Sequences -/

/-- Sequences that are alike. Views were made from older ones. -/
structure Rows (e : Surroundings) (w : Links) (q q' : Sequences) : Prop where
  stores : Pool e w .store e.machine.heap.sequences.stores q.stores q'.stores
  views : Pool e w .view e.machine.heap.sequences.views q.views q'.views
  older : ∀ {i j}, w.Has .view i j → (∀ p, (q.viewAt i).parent = some p → p.index < i) ∧
    ∀ p, (q'.viewAt j).parent = some p → p.index < j

namespace Rows

variable {q q' : Sequences} {s s' : SequenceRef} {i j : Nat} (rows : Rows e w q q')

include rows

theorem viewAt (h : w.Has .view i j) : Alike w (q.viewAt i) (q'.viewAt j) :=
  rows.views.getD h _ _

theorem store (h : w.Has .store i j) : Alike w (q.store i) (q'.store j) :=
  rows.stores.getD h _ _

theorem view (hs : Alike w s s') : Alike w (q.view s) (q'.view s') :=
  rows.viewAt hs.rel

theorem base (hs : Alike w s s') : Alike w (q.base s) (q'.base s') :=
  rows.store (rows.view hs).rel.store

theorem has (hs : Alike w s s') : q.Has s :=
  rows.views.lt_left hs.rel

/-- Views were made from views that are linked in turn. -/
theorem lineage (h : w.Has .view i j) :
    List.Forall₂ (w.Has .view) (q.lineage i) (q'.lineage j) := by
  induction i using Nat.strongRecOn generalizing j with
  | ind i ih =>
    have same := rows.viewAt h
    obtain ⟨older, older'⟩ := rows.older h
    obtain ⟨root, root'⟩ | ⟨p, p', known, known', parent⟩ := same.rel.parent.option
    · rw [lineage_of_root root, lineage_of_root root']
      exact .cons h .nil
    · rw [lineage_of_parent known (older p known), lineage_of_parent known' (older' p' known')]
      exact .cons h (ih p.index (older p known) parent.rel)

theorem staleness?_eq (hs : Alike w s s') : q.staleness? s = q'.staleness? s' := by
  unfold Sequences.staleness?
  have under := rows.base hs
  have walk : List.Forall₂ (w.Has .view) (q.lineage s.index) (q'.lineage s'.index) :=
    rows.lineage hs.rel
  generalize q.lineage s.index = l, q'.lineage s'.index = l' at walk
  dsimp only
  induction walk with
  | nil => rfl
  | cons h _ ih =>
    rw [List.findSome?_cons, List.findSome?_cons, ih]
    have same := (rows.viewAt h).staleness?_eq under
    unfold Sequences.viewAt Sequences.base at same
    rw [same]

theorem windowOf (hs : Alike w s s') : Alike w (q.windowOf s) (q'.windowOf s') :=
  have same := rows.view hs
  ⟨same.rel.store, congrArg Anchor.slot same.rel.anchor, same.rel.length⟩

/-- A window that is not stale is where it is on the other side. -/
theorem window (hs : Alike w s s') : Alike w (q.window s) (q'.window s') := by
  have same := rows.staleness?_eq hs
  have there := rows.windowOf hs
  cases fresh : q.staleness? s with
  | some why =>
    rw [window_of_stale fresh, window_of_stale (same ▸ fresh)]
    infer_instance
  | none =>
    rw [window_of_fresh fresh, window_of_fresh (same ▸ fresh)]
    infer_instance

theorem missing (hs : Alike w s s') (index : Int) :
    Alike w (q.missing s index) (q'.missing s' index) := by
  have := rows.window hs
  refine Sim.alike (e := e) (.andThen fun v ⟨x, y, same⟩ => ?_)
  rw [same.length]
  infer_instance

theorem length (hs : Alike w s s') : Alike w (q.length s) (q'.length s') :=
  (rows.window hs).mapExcept fun _ _ same => ⟨same.rel.length⟩

/-! ### Elements -/

omit rows in
/-- Slots behind the anchor of a view are not the sentinel. -/
theorem behind {front win back : List Nat} (span : q.Spans s front win back)
    (hi : i ∈ win ++ back) :
    i < (q.base s).slots.size ∧ i ≠ Store.sentinel := by
  refine ⟨span.ring.lt_size (by simp_all), ?_⟩
  rintro rfl
  exact List.disjoint_of_nodup_append span.ring.nodup_split.of_append_right hi List.mem_cons_self

variable (sound : q.Sound)

include sound

/-- The cells in slots that a window shows. -/
theorem shownCell (hs : Alike w s s') (fresh : q.staleness? s = none)
    (hi : i ∈ (q.base s).slotsAfter (q.view s).anchor.slot (q.view s).length) :
    Alike w ((q.base s).cell i) ((q'.base s').cell i) := by
  obtain ⟨front, win, back, span⟩ := sound.exists_spans (rows.has hs) fresh
  rw [← span.length, span.ring.slotsAfter_eq] at hi
  obtain ⟨inside, ne⟩ := behind span (List.mem_append_left back hi)
  exact (rows.base hs).cell inside ne

theorem snapshot (hs : Alike w s s') : Alike w (q.snapshot s) (q'.snapshot s') := by
  unfold Sequences.snapshot
  have same := rows.staleness?_eq hs
  have view := (rows.view hs).rel
  cases fresh : q.staleness? s with
  | some why =>
    rw [window_of_stale fresh, window_of_stale (same ▸ fresh)]
    exact inferInstanceAs (Alike w (Except.error _) (Except.error _))
  | none =>
    rw [window_of_fresh fresh, window_of_fresh (same ▸ fresh)]
    have shown : Alike w (q.cells (q.windowOf s)) (q'.cells (q'.windowOf s')) := by
      change Alike w (((q.base s).slotsAfter (q.view s).anchor.slot (q.view s).length).map
        (q.base s).cell)
        (((q'.base s').slotsAfter (q'.view s').anchor.slot (q'.view s').length).map
          (q'.base s').cell)
      rw [← view.anchor, ← view.length, ← (rows.base hs).slotsAfter_eq]
      exact ⟨List.forall₂_map_left_iff.mpr (List.forall₂_map_right_iff.mpr (List.forall₂_same.mpr
        fun i hi => (rows.shownCell sound hs fresh hi).rel))⟩
    exact inferInstanceAs (Alike w (Except.ok _) (Except.ok _))

/-- The cell at an index, which may be in a slot behind the window. -/
theorem cellAt (hs : Alike w s s') (fresh : q.staleness? s = none) {k : Nat}
    (hk : k < (q.view s).length) :
    Alike w ((q.base s).cell (slotAt (q.base s) (q.windowOf s) k))
      ((q'.base s').cell (slotAt (q'.base s') (q'.windowOf s') k)) := by
  obtain ⟨front, win, back, span⟩ := sound.exists_spans (rows.has hs) fresh
  have under := rows.base hs
  have same := (rows.windowOf hs).rel
  have slot : slotAt (q.base s) (q.windowOf s) k = slotAt (q'.base s') (q'.windowOf s') k := by
    unfold slotAt
    rw [same.slot, same.length, under.nthBefore_eq, under.nthAfter_eq]
  obtain ⟨inside, ne⟩ := behind span (List.mem_of_getElem? (getElem?_positionAt span hk))
  rw [← slot]
  exact under.cell inside ne

theorem find? (hs : Alike w s s') (index : Int) :
    Alike w (q.find? s index) (q'.find? s' index) := by
  unfold Sequences.find?
  have same := rows.staleness?_eq hs
  cases fresh : q.staleness? s with
  | some why =>
    rw [window_of_stale fresh, window_of_stale (same ▸ fresh)]
    exact inferInstanceAs (Alike w (Except.error _) (Except.error _))
  | none =>
    rw [window_of_fresh fresh, window_of_fresh (same ▸ fresh)]
    refine ⟨.ok ?_⟩
    have length := (rows.windowOf hs).rel.length
    dsimp only
    rw [← length]
    split
    · exact .none
    · split
      · rename_i inside
        exact .some (rows.cellAt sound hs fresh inside).rel
      · exact .none

/-! ### Changes -/

omit sound

theorem modifyStore (h : w.Has .store i j) {f g : Store → Store}
    (same : ∀ t t', Alike w t t' → Alike w (f t) (g t')) :
    Rows e w (q.modifyStore i f) (q'.modifyStore j g) where
  stores := rows.stores.modify h same
  views := rows.views
  older := rows.older

omit rows in
theorem parent_modify {f : View → View} (keeps : ∀ v, (f v).parent = v.parent) (views : Array View)
    (i k : Nat) :
    ((views.modify i f).getD k default).parent = (views.getD k default).parent := by
  rw [Array.getD_eq_getD_getElem?, Array.getD_eq_getD_getElem?, Array.getElem?_modify]
  split
  · cases views[k]? with
    | none => rfl
    | some v => exact keeps v
  · rfl

theorem modifyView (h : w.Has .view i j) {f : View → View} (keeps : ∀ v, (f v).parent = v.parent)
    (same : ∀ v v', Alike w v v' → Alike w (f v) (f v')) :
    Rows e w { q with views := q.views.modify i f } { q' with views := q'.views.modify j f } where
  stores := rows.stores
  views := rows.views.modify h same
  older h' := by
    unfold Sequences.viewAt
    simp only [parent_modify keeps]
    exact rows.older h'

theorem modifyLength (hs : Alike w s s') (f : Nat → Nat) :
    Rows e w (q.modifyLength s f) (q'.modifyLength s' f) := by
  unfold Sequences.modifyLength
  have walk : List.Forall₂ (w.Has .view) (q.lineage s.index) (q'.lineage s'.index) :=
    rows.lineage hs.rel
  generalize q.lineage s.index = l, q'.lineage s'.index = l' at walk
  induction walk generalizing q q' with
  | nil => exact rows
  | cons h _ ih =>
    exact ih (rows.modifyView (f := fun v => { v with length := f v.length }) h (fun _ => rfl)
      fun v v' same =>
      ⟨same.rel.store, same.rel.anchor, congrArg f same.rel.length, same.rel.parent⟩)

theorem pushStore (t t' : Store) [same : Alike w t t'] :
    Rows e rows.stores.grow.now { q with stores := q.stores.push t }
      { q' with stores := q'.stores.push t' } where
  stores := rows.stores.push inferInstance
  views := rows.views.beside rows.stores nofun
  older h := rows.older (rows.stores.has_other h nofun)

theorem pushView {v v' : View} (same : Alike rows.views.grow.now v v')
    (made : ∀ p, v.parent = some p → p.index < q.views.size)
    (made' : ∀ p, v'.parent = some p → p.index < q'.views.size) :
    Rows e rows.views.grow.now { q with views := q.views.push v }
      { q' with views := q'.views.push v' } where
  stores := rows.stores.beside rows.views nofun
  views := rows.views.push same
  older {i j} h := by
    have last (views : Array View) (x : View) : (views.push x).getD views.size default = x := by
      simp
    by_cases new : i = q.views.size
    · subst new
      obtain rfl := rows.views.has_grow.right_eq h
      unfold Sequences.viewAt
      dsimp only
      rw [last, last]
      exact ⟨made, made'⟩
    · have old := rows.views.more_older h new
      have hi := rows.views.lt_left old
      have hj := rows.views.lt_right old
      have kept {views : Array View} {x : View} {k : Nat} (hk : k < views.size) :
          (views.push x).getD k default = views.getD k default := by
        simp [Array.getD_eq_getD_getElem?, Array.getElem?_push, Nat.ne_of_lt hk]
      unfold Sequences.viewAt
      dsimp only
      rw [kept hi, kept hj]
      exact rows.older old

end Rows

/-! ## Operations -/

section Operations

variable {q q' : Sequences} {s s' : SequenceRef} [Paired α] [Paired β]

/-- Two edits have come to the same. Only stores and views were made. -/
structure Comes (e : Surroundings) (w : Links) (r r' : Except Fault α × Sequences) : Prop where
  later : ∃ v : w.Later, Rows e v.now r.2 r'.2 ∧ Alike v.now r.1 r'.1 ∧
    ∀ {kind i j}, kind ≠ .store → kind ≠ .view → v.now.Has kind i j → w.Has kind i j

/-- Two edits that come to the same, the first of which leaves sound sequences. -/
class Edits (e : Surroundings) (w : Links) (x y : Edit α) : Prop where
  comes : ∀ q q', Rows e w q q' → q.Sound → Comes e w (x q) (y q')
  sound : ∀ q q', Rows e w q q' → q.Sound → (x q).2.Sound

theorem Rows.comes (rows : Rows e w q q') {r r' : Except Fault α} (same : Alike w r r') :
    Comes e w (r, q) (r', q') :=
  ⟨w.here, rows, same, fun _ _ => id⟩

/-- An answer that is the same on both sides is used. -/
theorem Comes.ask {γ : Type} {f g : Sequences → Except Fault γ} {k k' : γ → Edit α} {a : γ}
    (hf : f q = .ok a) (hg : g q' = .ok a) (h : Comes e w (k a q) (k' a q')) :
    Comes e w ((Sequences.ask f >>= k) q) ((Sequences.ask g >>= k') q') := by
  rw [ask_bind_ok hf, ask_bind_ok hg]
  exact h

omit [Paired α] in
/-- What a request leaves is sound. -/
theorem sound_request {edit : Edit α} {f : α → SequenceReply} (request : SequenceRequest)
    (same : request.perform = HeapM.onSequences edit >>= fun a => pure (f a)) (sound : q.Sound)
    (known : ∀ t, request.target? = some t → q.Has t) : (edit q).2.Sound := by
  let h : Heap := { (default : Heap) with sequences := q }
  have after : (request.perform h).2.sequences = (edit q).2 := by
    cases run : edit q with
    | mk r rest =>
      have served := HeapM.onSequences_run (h := h) run
      rw [same]
      cases r with
      | ok a => rw [bind_ok served]; rfl
      | error f => rw [bind_error served]
  exact after ▸ (request.step (h := h) sound known).sound sound

omit [Paired α] in
theorem sound_edit {edit : Edit α} {f : α → SequenceReply} (rows : Rows e w q q')
    (hs : Alike w s s') (change : WindowEdit)
    (same : change.perform s = HeapM.onSequences edit >>= fun a => pure (f a)) (sound : q.Sound) :
    (edit q).2.Sound :=
  sound_request (.edit s change) same sound fun _ target => Option.some.inj target ▸ rows.has hs

/-- A window is asked for first, and nothing is done when it is stale. -/
theorem Rows.through (rows : Rows e w q q') (hs : Alike w s s') {f g : Window → Edit α}
    (h : q.staleness? s = none → Comes e w (f (q.windowOf s) q) (g (q'.windowOf s') q')) :
    Comes e w ((ask (·.window s) >>= f) q) ((ask (·.window s') >>= g) q') := by
  have same := rows.staleness?_eq hs
  cases fresh : q.staleness? s with
  | some why =>
    rw [ask_bind_error (window_of_stale fresh), ask_bind_error (window_of_stale (same ▸ fresh))]
    exact rows.comes inferInstance
  | none =>
    rw [ask_bind_ok (window_of_fresh fresh), ask_bind_ok (window_of_fresh (same ▸ fresh))]
    exact h fresh

/-- A position that an index stands for, or none on both sides. -/
theorem Rows.resolved (rows : Rows e w q q') (index : Int) (length : Nat) {k k' : Nat → Edit α}
    (h : ∀ i, Comes e w (k i q) (k' i q')) :
    Comes e w ((Sequences.ask (fun _ => resolveIndex index length) >>= k) q)
      ((Sequences.ask (fun _ => resolveIndex index length) >>= k') q') := by
  have same := alike_resolveIndex (w := w) index length
  cases found : resolveIndex index length with
  | error f =>
    rw [ask_bind_error rfl, ask_bind_error rfl]
    rw [found] at same
    obtain ⟨_, _, ⟨⟩, ⟨⟩, _⟩ | ⟨_, _, ⟨⟩, -⟩ := same.except
    exact rows.comes inferInstance
  | ok i => exact .ask rfl rfl (h i)

/-- A change of a store and of the lengths of views. -/
theorem Rows.change (rows : Rows e w q q') (hs : Alike w s s') {f g : Store → Store}
    (same : ∀ t t', Alike w t t' → Alike w (f t) (g t')) (n : Nat → Nat) :
    Rows e w ((q.modifyStore (q.windowOf s).store f).modifyLength s n)
      ((q'.modifyStore (q'.windowOf s').store g).modifyLength s' n) :=
  (rows.modifyStore (rows.view hs).rel.store same).modifyLength hs n

/-- Taking out a slot that the window shows. -/
theorem Rows.drop (rows : Rows e w q q') (sound : q.Sound) (hs : Alike w s s')
    (fresh : q.staleness? s = none) {x : Nat}
    (shown : x ∈ (q.base s).slotsAfter (q.view s).anchor.slot (q.view s).length) :
    Comes e w (Sequences.drop s (q.windowOf s) x q) (Sequences.drop s' (q'.windowOf s') x q') :=
  have dropped := rows.change hs (fun _ _ same => same.unlink x) (· - 1)
  dropped.comes ⟨.ok (rows.shownCell sound hs fresh shown).rel⟩

theorem Comes.map {x y : Edit α} {f g : α → β} (h : Comes e w (x q) (y q'))
    (same : ∀ (v : w.Later) a b, Alike v.now a b → Alike v.now (f a) (g b)) :
    Comes e w ((x >>= fun a => pure (f a)) q) ((y >>= fun b => pure (g b)) q') := by
  obtain ⟨v, rows, results, others⟩ := h
  cases hx : x q with
  | mk r q₁ =>
    cases hy : y q' with
    | mk r' q₁' =>
      rw [hx, hy] at rows results
      obtain ⟨c, d, rfl, rfl, failed⟩ | ⟨a, b, rfl, rfl, same'⟩ := results.except
      · rw [bind_error hx, bind_error hy]
        exact ⟨v, rows, ⟨.error failed.rel⟩, others⟩
      · rw [bind_ok hx, bind_ok hy]
        exact ⟨v, rows, ⟨.ok (same v a b same').rel⟩, others⟩

/-- One more store with its root. -/
theorem Rows.create (rows : Rows e w q q') (cells cells' : List CellRef)
    [same : Alike w cells cells'] :
    Comes e w (Sequences.create cells q) (Sequences.create cells' q') := by
  have stored := rows.pushStore (.ofCells cells) (.ofCells cells')
  have root :
      Alike stored.views.grow.now (View.mk q.stores.size ⟨Store.sentinel, 0⟩ cells.length none)
      (View.mk q'.stores.size ⟨Store.sentinel, 0⟩ cells'.length none) :=
    ⟨stored.views.grow.le _ _ _ rows.stores.has_grow, rfl, same.length_eq, inferInstance⟩
  exact ⟨rows.stores.grow.after stored.views.grow,
    stored.pushView root nofun nofun, ⟨.ok stored.views.has_grow⟩, fun ne ne' h =>
      rows.stores.has_other (stored.views.has_other h ne') ne⟩

theorem mem_slotsAfter (store : Store) (i : Nat) {n k : Nat} (positive : 0 < k) (h : k ≤ n) :
    store.nthAfter i k ∈ store.slotsAfter i n := by
  induction n generalizing i k with
  | zero => omega
  | succ n ih =>
    obtain ⟨k, rfl⟩ := Nat.exists_eq_succ_of_ne_zero (Nat.ne_of_gt positive)
    rw [Store.slotsAfter, Store.nthAfter]
    cases k with
    | zero => exact List.mem_cons_self
    | succ k => exact List.mem_cons_of_mem _ (ih _ (Nat.succ_pos k) (Nat.le_of_succ_le_succ h))

section Requests

variable (s s') [hs : Alike w s s']

instance (cells cells' : List CellRef) [same : Alike w cells cells'] :
    Edits e w (Sequences.create cells) (Sequences.create cells') :=
  ⟨fun _ _ rows _ => rows.create cells cells', fun _ _ _ sound =>
    sound_request (f := .sequence) (.create cells) rfl sound nofun⟩

instance : Edits e w (Sequences.pop s) (Sequences.pop s') := by
  refine ⟨fun q q' rows sound => rows.through hs fun fresh => ?_, fun q q' rows sound =>
    sound_edit (f := .cell?) rows hs .pop rfl sound⟩
  have length : (q.windowOf s).length = (q'.windowOf s').length := (rows.view hs).rel.length
  by_cases empty : (q.windowOf s).length = 0
  · rw [if_pos empty, if_pos (length ▸ empty)]
    exact rows.comes ⟨.ok .none⟩
  · rw [if_neg empty, if_neg (length ▸ empty)]
    have slot : (q'.base s').nthAfter (q'.view s').anchor.slot (q'.view s').length =
        (q.base s).nthAfter (q.view s).anchor.slot (q.view s).length := by
      rw [← (rows.view hs).rel.anchor, ← (rows.view hs).rel.length, (rows.base hs).nthAfter_eq]
    refine .ask rfl (congrArg Except.ok slot) ?_
    have shown :=
      mem_slotsAfter (q.base s) (q.view s).anchor.slot (Nat.pos_of_ne_zero empty) (Nat.le_refl _)
    exact (rows.drop sound hs fresh shown).map fun _ _ _ _ => inferInstance

instance : Edits e w (Sequences.shift s) (Sequences.shift s') := by
  refine ⟨fun q q' rows sound => rows.through hs fun fresh => ?_, fun q q' rows sound =>
    sound_edit (f := .cell?) rows hs .shift rfl sound⟩
  have length : (q.windowOf s).length = (q'.windowOf s').length := (rows.view hs).rel.length
  by_cases empty : (q.windowOf s).length = 0
  · rw [if_pos empty, if_pos (length ▸ empty)]
    exact rows.comes ⟨.ok .none⟩
  · rw [if_neg empty, if_neg (length ▸ empty)]
    have slot :
        (q'.base s').next (q'.view s').anchor.slot = (q.base s).next (q.view s).anchor.slot := by
      rw [← (rows.view hs).rel.anchor, (rows.base hs).next_eq]
    refine .ask rfl (congrArg Except.ok slot) ?_
    have shown :=
      mem_slotsAfter (q.base s) (q.view s).anchor.slot Nat.one_pos (Nat.pos_of_ne_zero empty)
    exact (rows.drop sound hs fresh shown).map fun _ _ _ _ => inferInstance

instance (cells cells' : List CellRef) [same : Alike w cells cells'] :
    Edits e w (Sequences.append s cells) (Sequences.append s' cells') := by
  refine ⟨fun q q' rows sound => rows.through hs fun fresh => ?_, fun q q' rows sound => ?_⟩
  · have window := (rows.windowOf hs).rel
    have linked (t t' : Store) (h : Alike w t t') :
        Alike w (t.insertAllAfter (t.nthAfter (q.windowOf s).slot (q.windowOf s).length) cells)
          (t'.insertAllAfter (t'.nthAfter (q'.windowOf s').slot (q'.windowOf s').length)
            cells') := by
      rw [window.slot, window.length, h.nthAfter_eq]
      exact h.insertAllAfter _ cells cells'
    have grown := rows.change hs linked (· + cells'.length)
    rw [same.length_eq]
    exact grown.comes (r := .ok ()) inferInstance
  · cases fresh : q.staleness? s with
    | some why =>
      rw [Sequences.append, ask_bind_error (window_of_stale fresh)]
      exact sound
    | none =>
      obtain ⟨front, win, back, span⟩ := sound.exists_spans (rows.has hs) fresh
      obtain ⟨q₁, run, _, rewrites, -⟩ := append_run sound (rows.has hs) fresh span cells
      rw [run]
      exact rewrites.sound sound (rows.has hs)

instance (cell cell' : CellRef) [Alike w cell cell'] :
    Edits e w (Sequences.push s cell) (Sequences.push s' cell') :=
  inferInstanceAs (Edits e w (Sequences.append s [cell]) (Sequences.append s' [cell']))

instance (index : Int) (cell cell' : CellRef) [Alike w cell cell'] :
    Edits e w (Sequences.insert s index cell) (Sequences.insert s' index cell') := by
  refine ⟨fun q q' rows sound => rows.through hs fun fresh => ?_, fun q q' rows sound =>
    sound_edit (f := fun _ => .done) rows hs (.insert index cell) rfl sound⟩
  have window := (rows.windowOf hs).rel
  rw [← window.length]
  refine rows.resolved index _ fun i => ?_
  by_cases far : (q.windowOf s).length < i
  · rw [if_pos far, if_pos far]
    exact rows.comes (r := .error (.badIndex (.insertion i (q.windowOf s).length))) inferInstance
  · have linked (t t' : Store) (h : Alike w t t') :
        Alike w (t.insertAfter (t.nthAfter (q.windowOf s).slot i) cell)
        (t'.insertAfter (t'.nthAfter (q'.windowOf s').slot i) cell') := by
      rw [window.slot, h.nthAfter_eq]
      exact h.insertAfter _ cell cell'
    rw [if_neg far, if_neg far]
    have grown := rows.change hs linked (· + 1)
    exact grown.comes (r := .ok ()) inferInstance

instance (cell cell' : CellRef) [Alike w cell cell'] :
    Edits e w (Sequences.unshift s cell) (Sequences.unshift s' cell') :=
  inferInstanceAs (Edits e w (Sequences.insert s 0 cell) (Sequences.insert s' 0 cell'))

theorem edits_removeWhere {p p' : CellRef → Bool} (same : ∀ c c', Alike w c c' → p c = p' c') :
    Edits e w (Sequences.removeWhere s p) (Sequences.removeWhere s' p') := by
  refine ⟨fun q q' rows sound => rows.through hs fun fresh => ?_, fun q q' rows sound => ?_⟩
  · have view := (rows.view hs).rel
    have doomed : ((q'.base s').slotsAfter (q'.view s').anchor.slot (q'.view s').length).filter
          (fun slot => p' ((q'.base s').cell slot)) =
        ((q.base s).slotsAfter (q.view s).anchor.slot (q.view s).length).filter
          fun slot => p ((q.base s).cell slot) := by
      rw [← view.anchor, ← view.length, ← (rows.base hs).slotsAfter_eq]
      exact List.filter_congr fun i hi => (same _ _ (rows.shownCell sound hs fresh hi)).symm
    refine .ask rfl (congrArg Except.ok doomed) ?_
    have shrunk (doomed : List Nat) :=
      rows.change hs (fun _ _ h => h.unlinkAll doomed) (· - doomed.length)
    exact (shrunk _).comes (r := .ok _) inferInstance
  · cases fresh : q.staleness? s with
    | some why =>
      rw [Sequences.removeWhere, ask_bind_error (window_of_stale fresh)]
      exact sound
    | none =>
      obtain ⟨front, win, back, span⟩ := sound.exists_spans (rows.has hs) fresh
      obtain ⟨q₁, run, _, rewrites, -⟩ := removeWhere_run sound (rows.has hs) fresh span p
      rw [run]
      exact rewrites.sound sound (rows.has hs)

instance (first last : Int) :
    Edits e w (Sequences.sublist s first last) (Sequences.sublist s' first last) := by
  refine ⟨fun q q' rows sound => rows.through hs fun fresh => ?_, fun q q' rows sound =>
    sound_request (f := .sequence) (.sublist s first last) rfl sound fun _ target =>
      Option.some.inj target ▸ rows.has hs⟩
  have window := (rows.windowOf hs).rel
  rw [← window.length]
  refine rows.resolved first _ fun i => rows.resolved last _ fun j => ?_
  by_cases far : j < i ∨ (q.windowOf s).length < j
  · rw [if_pos far, if_pos far]
    exact rows.comes (r := .error (.badIndex (.window i j (q.windowOf s).length))) inferInstance
  · rw [if_neg far, if_neg far]
    have anchor : (q'.base s').anchor ((q'.base s').nthAfter (q'.windowOf s').slot i) =
        (q.base s).anchor ((q.base s).nthAfter (q.windowOf s).slot i) := by
      rw [← window.slot, (rows.base hs).anchor_eq, (rows.base hs).nthAfter_eq]
    refine .ask rfl (congrArg Except.ok anchor) ?_
    have made : Alike rows.views.grow.now
        (View.mk (q.windowOf s).store
          ((q.base s).anchor ((q.base s).nthAfter (q.windowOf s).slot i)) (j - i) (some s))
        (View.mk (q'.windowOf s').store
          ((q.base s).anchor ((q.base s).nthAfter (q.windowOf s).slot i)) (j - i)
          (some s')) :=
      ⟨rows.views.grow.le _ _ _ window.store, rfl, rfl, inferInstance⟩
    have grown := rows.pushView made (fun _ parent => Option.some.inj parent ▸ rows.has hs)
      fun _ parent => Option.some.inj parent ▸ rows.views.lt_right hs.rel
    exact ⟨rows.views.grow, grown, ⟨.ok rows.views.has_grow⟩,
      fun _ ne h => rows.views.has_other h ne⟩

end Requests

end Operations

end CellScript.Mirror
