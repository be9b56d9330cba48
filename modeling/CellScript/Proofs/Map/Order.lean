import CellScript.Heap.Basic
import CellScript.Proofs.Map.Entries
import Mathlib.Data.List.Nodup
import Mathlib.Data.List.Perm.Basic

/-!
# Keys by stamp

A map keeps its entries and, by stamp, its keys. Both say the same: the stamp of every entry stands
for its key, every listed stamp is the one of the entry of its key, and no stamp is newer than the
last one that was given out. All steps of a map keep this, so what is read off either of the two is
what is read off the other.

## Main definitions

* `Table.Sound` — entries and listed keys belong together.
* `Heap.MapAgrees` — what a map answers to questions agrees.
* `Heap.MapsSound` — all maps of a heap are sound.

## Main statements

* `Table.Sound.append`, `remove`, `replace`, `touchIfAccessed`, `clear` — the steps keep a map
  sound.
* `Table.Sound.listing_append`, `listing_remove`, `listing_overwrite` — what they do to the list of
  keys and cells.
* `Heap.mapAgrees` — the answers of a sound map agree.
* `Heap.MapsSound.modifyTable`, `newTable` — a step of one map, and a new map.
-/

namespace CellScript

namespace Table

variable {t : Table} {key other : String} {cell : CellRef} {entry : Entry} {stamp : Nat}

/-- The entries of a map and its list of keys by stamp say the same. -/
structure Sound (t : Table) : Prop where
  sorted : t.entries.IsSorted
  increasing : t.order.Pairwise (·.1 < ·.1)
  bounded : ∀ listed ∈ t.order, listed.1 ≤ t.lastStamp
  indexed : ∀ stamp key, (stamp, key) ∈ t.order ↔ ∃ cell, t.entries.get? key = some ⟨cell, stamp⟩

theorem sound_empty (mode : MapOrder) : (empty mode).Sound where
  sorted := .empty
  increasing := .nil
  bounded _ h := nomatch h
  indexed _ _ := ⟨(nomatch ·), fun ⟨_, h⟩ => nomatch h⟩

namespace Sound

theorem mem_order (h : t.Sound) (found : t.entries.get? key = some entry) :
    (entry.stamp, key) ∈ t.order :=
  (h.indexed _ _).mpr ⟨entry.cell, found⟩

theorem get?_of_mem (h : t.Sound) (listed : (stamp, key) ∈ t.order) :
    ∃ cell, t.entries.get? key = some ⟨cell, stamp⟩ :=
  (h.indexed _ _).mp listed

theorem not_listed (h : t.Sound) (absent : t.entries.get? key = none) : (stamp, key) ∉ t.order := by
  intro listed
  obtain ⟨cell, found⟩ := h.get?_of_mem listed
  rw [absent] at found
  cases found

theorem stamp_eq (h : t.Sound) (found : t.entries.get? key = some entry)
    (listed : (stamp, key) ∈ t.order) :
    stamp = entry.stamp := by
  obtain ⟨cell, found'⟩ := h.get?_of_mem listed
  rw [found] at found'
  cases found'
  rfl

/-- A stamp was given to one key. -/
theorem key_eq (h : t.Sound) (listed : (stamp, key) ∈ t.order)
    (listed' : (stamp, other) ∈ t.order) : key = other := by
  have distinct : (t.order.map (·.1)).Nodup := List.pairwise_map.mpr (h.increasing.imp Nat.ne_of_lt)
  exact congrArg Prod.snd (List.inj_on_of_nodup_map distinct listed listed' rfl)

theorem nodup_keys (h : t.Sound) : (t.order.map (·.2)).Nodup := by
  refine List.pairwise_map.mpr (h.increasing.imp_of_mem fun {a b} ha hb before same => ?_)
  obtain ⟨stamp, key⟩ := a
  obtain ⟨stamp', key'⟩ := b
  change key = key' at same
  subst same
  obtain ⟨cell, found⟩ := h.get?_of_mem ha
  exact Nat.ne_of_gt before (h.stamp_eq found hb)

/-! ## Steps -/

theorem append (h : t.Sound) (absent : t.entries.get? key = none) (cell : CellRef) :
    (t.append key cell).Sound where
  sorted := h.sorted.insert _ _
  increasing :=
    List.pairwise_append.mpr ⟨h.increasing, List.pairwise_singleton _ _,
      fun listed old new hnew => by
        rw [List.mem_singleton.mp hnew]
        exact Nat.lt_succ_of_le (h.bounded listed old)⟩
  bounded listed hl := by
    rcases List.mem_append.mp hl with old | new
    · exact Nat.le_succ_of_le (h.bounded listed old)
    · rw [List.mem_singleton.mp new]
      exact Nat.le_refl _
  indexed stamp other := by
    change (stamp, other) ∈ t.order ++ [(t.lastStamp + 1, key)] ↔
      ∃ c, (t.entries.insert key ⟨cell, t.lastStamp + 1⟩).get? other = some ⟨c, stamp⟩
    rw [List.mem_append, List.mem_singleton, Prod.mk.injEq]
    by_cases same : other = key
    · subst same
      rw [Dictionary.get?_insert_self]
      constructor
      · rintro (old | ⟨rfl, -⟩)
        · exact absurd old (h.not_listed absent)
        · exact ⟨cell, rfl⟩
      · rintro ⟨c, ⟨⟩⟩
        exact .inr ⟨rfl, rfl⟩
    · rw [Dictionary.get?_insert_of_ne _ (Ne.symm same), ← h.indexed]
      exact or_iff_left fun new => same new.2

theorem remove (h : t.Sound) (key : String) : (t.remove key).Sound := by
  unfold Table.remove
  split
  case h_1 => exact h
  case h_2 entry found =>
    have place := h.mem_order found
    refine ⟨h.sorted.erase key, h.increasing.sublist List.filter_sublist,
      fun listed hl => h.bounded listed (List.mem_of_mem_filter hl), fun stamp other => ?_⟩
    rw [List.mem_filter, bne_iff_ne]
    by_cases same : other = key
    · subst same
      rw [h.sorted.get?_erase_self]
      constructor
      · rintro ⟨old, apart⟩
        exact absurd (h.stamp_eq found old) apart
      · rintro ⟨c, ⟨⟩⟩
    · rw [Dictionary.get?_erase_of_ne _ (Ne.symm same), ← h.indexed]
      refine and_iff_left_of_imp fun old apart => same ?_
      rw [show stamp = entry.stamp from apart] at old
      exact h.key_eq old place

/-- To give an entry a new stamp is to take it out and to add it at the young end. -/
theorem touch_eq (h : t.Sound) (found : t.entries.get? key = some entry) :
    t.touch key = (t.remove key).append key entry.cell := by
  simp only [Table.touch, Table.remove, Table.append, found, h.sorted.insert_erase]

theorem get?_remove_self (h : t.Sound) (key : String) : (t.remove key).entries.get? key = none := by
  unfold Table.remove
  split
  case h_1 absent => exact absent
  case h_2 => exact h.sorted.get?_erase_self key

theorem touch (h : t.Sound) (key : String) : (t.touch key).Sound := by
  cases found : t.entries.get? key with
  | none =>
    simp only [Table.touch, found]
    exact ⟨h.sorted, h.increasing, fun listed hl => Nat.le_succ_of_le (h.bounded listed hl),
      h.indexed⟩
  | some entry =>
    rw [h.touch_eq found]
    exact (h.remove key).append (h.get?_remove_self key) entry.cell

theorem touchIfAccessed (h : t.Sound) (key : String) : (t.touchIfAccessed key).Sound := by
  unfold Table.touchIfAccessed
  split
  · exact h
  · exact h.touch key

/-- Another cell in the place of the one of an entry. -/
theorem overwrite (h : t.Sound) (found : t.entries.get? key = some entry) (cell : CellRef) :
    ({ t with entries := t.entries.insert key { entry with cell } } : Table).Sound where
  sorted := h.sorted.insert _ _
  increasing := h.increasing
  bounded := h.bounded
  indexed stamp other := by
    change (stamp, other) ∈ t.order ↔
      ∃ c, (t.entries.insert key { entry with cell }).get? other = some ⟨c, stamp⟩
    rw [h.indexed]
    by_cases same : other = key
    · subst same
      rw [found, Dictionary.get?_insert_self]
      constructor
      · rintro ⟨c, ⟨⟩⟩
        exact ⟨cell, rfl⟩
      · rintro ⟨c, ⟨⟩⟩
        exact ⟨entry.cell, rfl⟩
    · rw [Dictionary.get?_insert_of_ne _ (Ne.symm same)]

theorem replace (h : t.Sound) (found : t.entries.get? key = some entry) (cell : CellRef) :
    (t.replace key entry cell).Sound :=
  (h.overwrite found cell).touchIfAccessed key

theorem clear : t.clear.Sound where
  sorted := .empty
  increasing := .nil
  bounded _ hl := nomatch hl
  indexed := (sound_empty t.mode).indexed

/-- Soundness does not depend on the policies. -/
theorem of_entries {t' : Table} (h : t.Sound) (entries : t'.entries = t.entries)
    (order : t'.order = t.order) (lastStamp : t'.lastStamp = t.lastStamp) : t'.Sound := by
  refine ⟨entries ▸ h.sorted, order ▸ h.increasing, ?_, ?_⟩
  · rw [order, lastStamp]
    exact h.bounded
  · rw [order, entries]
    exact h.indexed

/-! ## The list of keys and cells -/

theorem keys_listing (h : t.Sound) : t.listing.map (·.1) = t.order.map (·.2) := by
  rw [listing, List.map_filterMap, ← List.filterMap_eq_map]
  refine List.filterMap_congr fun ⟨stamp, key⟩ listed => ?_
  obtain ⟨cell, found⟩ := h.get?_of_mem listed
  simp [peek, found]

theorem nodup_keys_listing (h : t.Sound) : (t.listing.map (·.1)).Nodup :=
  h.keys_listing ▸ h.nodup_keys

theorem mem_listing (h : t.Sound) : (key, cell) ∈ t.listing ↔ t.peek key = some cell := by
  simp only [listing, List.mem_filterMap]
  constructor
  · rintro ⟨⟨stamp, other⟩, listed, made⟩
    obtain ⟨held, found, same⟩ := Option.map_eq_some_iff.mp made
    cases same
    exact found
  · intro found
    obtain ⟨entry, found', rfl⟩ := Option.map_eq_some_iff.mp found
    exact ⟨_, h.mem_order found', by simp [peek, found']⟩

/-- The list holds the entries, in another order. -/
theorem listing_perm (h : t.Sound) :
    t.listing.Perm (t.entries.entries.map fun (key, entry) => (key, entry.cell)) := by
  have distinct : (t.entries.entries.map fun (key, entry) => (key, entry.cell)).Nodup := by
    refine .of_map (·.1) ?_
    rw [List.map_map]
    exact Dictionary.AreSorted.nodup_names h.sorted
  refine (List.perm_ext_iff_of_nodup (h.nodup_keys_listing.of_map _) distinct).mpr
    fun ⟨key, cell⟩ => ?_
  rw [h.mem_listing, peek, Option.map_eq_some_iff, List.mem_map]
  constructor
  · rintro ⟨entry, found, rfl⟩
    exact ⟨(key, entry), h.sorted.get?_eq_some_iff.mp found, rfl⟩
  · rintro ⟨⟨key', entry⟩, held, ⟨⟩⟩
    exact ⟨entry, h.sorted.get?_eq_some_iff.mpr held, rfl⟩

theorem length_listing (h : t.Sound) : t.listing.length = t.entries.size := by
  rw [h.listing_perm.length_eq, List.length_map, Dictionary.size]

/-- A new key goes to the young end. -/
theorem listing_append (h : t.Sound) (absent : t.entries.get? key = none) (cell : CellRef) :
    (t.append key cell).listing = t.listing ++ [(key, cell)] := by
  have others : ∀ listed ∈ t.order, ((t.append key cell).peek listed.2).map (listed.2, ·) =
      (t.peek listed.2).map (listed.2, ·) := by
    rintro ⟨stamp, other⟩ old
    have ne : key ≠ other := fun same => h.not_listed absent (same ▸ old)
    simp only [peek, Table.append, Dictionary.get?_insert_of_ne _ ne]
  have own : (t.append key cell).peek key = some cell := by
    simp [peek, Table.append]
  have order : (t.append key cell).order = t.order ++ [(t.lastStamp + 1, key)] := rfl
  rw [listing, listing, order, List.filterMap_append, List.filterMap_congr others]
  simp [own]

theorem peek_remove_of_ne (t : Table) (ne : key ≠ other) :
    (t.remove key).peek other = t.peek other := by
  unfold Table.remove
  split
  · rfl
  · simp only [peek, Dictionary.get?_erase_of_ne _ ne]

theorem order_remove (h : t.Sound) (key : String) :
    (t.remove key).order = t.order.filter (·.2 != key) := by
  unfold Table.remove
  split
  case h_1 absent =>
    refine (List.filter_eq_self.mpr fun ⟨stamp, other⟩ old => bne_iff_ne.mpr ?_).symm
    rintro rfl
    exact h.not_listed absent old
  case h_2 entry found =>
    refine List.filter_congr fun ⟨stamp, other⟩ old => ?_
    rw [Bool.eq_iff_iff, bne_iff_ne, bne_iff_ne, not_iff_not]
    constructor
    · rintro rfl
      exact h.key_eq old (h.mem_order found)
    · rintro rfl
      exact h.stamp_eq found old

/-- The entries of all other keys stay where they are. -/
theorem listing_remove (h : t.Sound) (key : String) :
    (t.remove key).listing = t.listing.filter (·.1 != key) := by
  rw [listing, h.order_remove, listing, List.filter_filterMap, List.filterMap_filter]
  refine List.filterMap_congr fun ⟨stamp, other⟩ old => ?_
  dsimp only
  by_cases same : other = key
  · subst same
    cases t.peek other <;> simp [Option.filter]
  · rw [if_pos (bne_iff_ne.mpr same), peek_remove_of_ne t (Ne.symm same)]
    cases t.peek other <;> simp [Option.filter, same]

/-- Another cell in the place of the one of an entry: the list has it in the same place. -/
theorem listing_overwrite (t : Table) (found : t.entries.get? key = some entry) (cell : CellRef) :
    ({ t with entries := t.entries.insert key { entry with cell } } : Table).listing =
      t.listing.map fun held => if held.1 = key then (key, cell) else held := by
  rw [listing, listing, List.map_filterMap]
  refine List.filterMap_congr fun ⟨stamp, other⟩ _ => ?_
  by_cases same : other = key
  · subst same
    simp [peek, found]
  · simp [peek, Dictionary.get?_insert_of_ne _ (Ne.symm same), same, Function.comp_def]

end Sound

end Table

/-! ## Questions -/

namespace Heap

variable {h : Heap} {t : TableRef}

/-- What a map answers to questions agrees: its keys that hold something are listed, each of them
once, they are counted, and a key is one of them when the map says that it has the key. -/
structure MapAgrees (h : Heap) (t : TableRef) : Prop where
  sound : (h.table t).Sound
  listed : ∀ key cell, (key, cell) ∈ h.entries t ↔ (h.table t).peek key = some cell ∧
    h.isNull cell = false
  once : ((h.entries t).map (·.1)).Nodup
  counted : h.count t = ((h.entries t).map (·.1)).length
  contained : ∀ key, h.containsKey t key ↔ key ∈ (h.entries t).map (·.1)

theorem mapAgrees (sound : (h.table t).Sound) : h.MapAgrees t where
  sound
  listed key cell := by
    rw [entries, List.mem_filter, sound.mem_listing, Bool.not_eq_true']
  once := sound.nodup_keys_listing.sublist (List.filter_sublist.map _)
  counted := by
    have same : (h.entries t).length = _ :=
      (sound.listing_perm.filter fun held : String × CellRef => !h.isNull held.2).length_eq
    rw [List.length_map, same, count, Dictionary.values, List.filter_map, List.filter_map,
      List.length_map, List.length_map]
    rfl
  contained key := by
    rw [containsKey, Option.any_eq_true, List.mem_map]
    constructor
    · rintro ⟨cell, found, full⟩
      exact ⟨(key, cell), List.mem_filter.mpr ⟨sound.mem_listing.mpr found, full⟩, rfl⟩
    · rintro ⟨⟨_, cell⟩, held, rfl⟩
      obtain ⟨listed, full⟩ := List.mem_filter.mp held
      exact ⟨cell, sound.mem_listing.mp listed, full⟩

end Heap

/-! ## All maps of a heap -/

/-- A step that keeps maps sound, whatever map it is. -/
class Table.Keeps (step : Table → Table) : Prop where
  sound : ∀ t : Table, t.Sound → (step t).Sound

namespace Table

instance (key : String) : Keeps (·.remove key) := ⟨fun _ h => h.remove key⟩

instance (key : String) : Keeps (·.touchIfAccessed key) := ⟨fun _ h => h.touchIfAccessed key⟩

instance : Keeps (·.clear) := ⟨fun _ _ => .clear⟩

instance (miss : Option MissPolicy) : Keeps ({ · with miss }) :=
  ⟨fun _ h => h.of_entries rfl rfl rfl⟩

instance (removal : Option RemovalPolicy) : Keeps ({ · with removal }) :=
  ⟨fun _ h => h.of_entries rfl rfl rfl⟩

instance (capacity : Option Nat) : Keeps ({ · with capacity }) :=
  ⟨fun _ h => h.of_entries rfl rfl rfl⟩

end Table

namespace Heap

variable {h h' : Heap} {t : TableRef} {step : Table → Table}

/-- Every map of the heap is sound. -/
def MapsSound (h : Heap) : Prop :=
  ∀ t, (h.table t).Sound

theorem MapsSound.of_tables (h₀ : h.MapsSound) (same : h'.tables = h.tables) : h'.MapsSound := by
  intro t
  rw [table, same]
  exact h₀ t

theorem mapsSound_empty : Heap.empty.MapsSound := by
  intro t
  have none : Heap.empty.tables[t.index]? = none := Array.getElem?_eq_none (Nat.zero_le _)
  rw [table, Array.getD_eq_getD_getElem?, none]
  exact Table.sound_empty default

/-- A map of a heap in which one map was changed. -/
theorem table_modifyTable (h : Heap) (t u : TableRef) (step : Table → Table) :
    (h.modifyTable t step).table u = h.table u ∨
      u = t ∧ (h.modifyTable t step).table u = step (h.table u) := by
  simp only [table, modifyTable, Array.getD_eq_getD_getElem?, Array.getElem?_modify]
  by_cases same : t.index = u.index
  · obtain ⟨i⟩ := t
    obtain ⟨j⟩ := u
    cases same
    cases h.tables[i]? <;> simp
  · simp [same]

/-- A step that keeps the map sound that it is made in. -/
theorem MapsSound.modifyTable (h₀ : h.MapsSound) (kept : (step (h.table t)).Sound) :
    (h.modifyTable t step).MapsSound := by
  intro u
  rcases table_modifyTable h t u step with same | ⟨rfl, changed⟩
  · exact same ▸ h₀ u
  · exact changed ▸ kept

theorem MapsSound.newTable (h₀ : h.MapsSound) (mode : MapOrder) :
    ({ h with tables := h.tables.push (.empty mode) } : Heap).MapsSound := by
  intro u
  rw [table, Array.getD_eq_getD_getElem?, Array.getElem?_push]
  split
  · exact Table.sound_empty mode
  · rw [← Array.getD_eq_getD_getElem?]
    exact h₀ u

end Heap

end CellScript
