import CellScript.Proofs.Map.Request

/-!
# Maps as lists

To its users a map is a list of keys and cells, from the eldest to the youngest, with the policies
that make values and drop the eldest. Stamps are how a map stores the list: each of its steps is a
plain step of the list.

## Main definitions

* `AgedList` — such a list.
* `AgedList.add`, `without`, `use`, `write` — its steps.
* `AgedList.question?` — the eldest entry, when the removal policy has to be asked about it.
* `Table.aged` — the list of a map.

## Main statements

* `Table.Sound.aged_append`, `aged_remove`, `aged_touchIfAccessed`, `aged_replace` — steps of a map
  are steps of its list.
* `Table.Sound.candidate?_eq` — a map asks about the head of its list.
-/

namespace CellScript

/-- A map as its users see it. -/
structure AgedList where
  mode : MapOrder
  /-- from the eldest to the youngest -/
  items : List (String × CellRef)
  miss : Option MissPolicy
  removal : Option RemovalPolicy
  capacity : Option Nat

namespace AgedList

variable {l : AgedList} {key other : String} {cell : CellRef}

def keys (l : AgedList) : List String :=
  l.items.map (·.1)

def find? (l : AgedList) (key : String) : Option CellRef :=
  Dictionary.find? key l.items

/-- Add an entry at the young end. -/
def add (l : AgedList) (key : String) (cell : CellRef) : AgedList :=
  { l with items := l.items ++ [(key, cell)] }

def without (l : AgedList) (key : String) : AgedList :=
  { l with items := l.items.filter (·.1 != key) }

/-- A key that is used goes to the young end in access order, and stays in its place in insertion
order. -/
def use (l : AgedList) (key : String) : AgedList :=
  match l.mode, l.find? key with
  | .access, some cell => (l.without key).add key cell
  | _, _ => l

/-- Put another cell in the place of the one under a key. -/
def overwrite (l : AgedList) (key : String) (cell : CellRef) : AgedList :=
  { l with items := l.items.map fun item => if item.1 = key then (key, cell) else item }

/-- Put another cell under a key, which uses the key. -/
def write (l : AgedList) (key : String) (cell : CellRef) : AgedList :=
  (l.overwrite key cell).use key

/-- The eldest entry, when the removal policy has to be asked about it: always without a capacity,
and otherwise when there are more entries than that. -/
def question? (l : AgedList) : Option (RemovalPolicy × String × CellRef) :=
  match l.removal, l.items with
  | some policy, (key, cell) :: _ =>
    if l.capacity.any (l.items.length ≤ ·) then none else some (policy, key, cell)
  | _, _ => none

/-- The entries that hold something. -/
def filled (h : Heap) (l : AgedList) : List (String × CellRef) :=
  l.items.filter fun (_, cell) => !h.isNull cell

def answer (h : Heap) (l : AgedList) : MapQuestion → MapReply
  | .peek key => .cell? (l.find? key)
  | .contains key => .verdict ((l.find? key).any fun cell => !h.isNull cell)
  | .count => .count (l.filled h).length
  | .entries => .entries (l.filled h)
  | .keys => .keys ((l.filled h).map (·.1))
  | .values => .values ((l.filled h).map (·.2))

theorem use_of_insertion (h : l.mode = .insertion) (key : String) : l.use key = l := by
  simp only [use, h]

theorem use_of_access (h : l.mode = .access) (found : l.find? key = some cell) :
    l.use key = (l.without key).add key cell := by
  simp only [use, h, found]

theorem find?_overwrite_self (found : l.find? key = some cell) (new : CellRef) :
    (l.overwrite key new).find? key = some new := by
  obtain ⟨mode, items, miss, removal, capacity⟩ := l
  change Dictionary.find? key items = some cell at found
  change Dictionary.find? key (items.map fun item => if item.1 = key then (key, new) else item) =
    some new
  induction items with
  | nil => cases found
  | cons item items ih =>
    obtain ⟨other, old⟩ := item
    by_cases same : other = key
    · simp [Dictionary.find?_cons, same]
    · rw [Dictionary.find?_cons, if_neg same] at found
      rw [List.map_cons, if_neg same, Dictionary.find?_cons, if_neg same]
      exact ih found

end AgedList

namespace Table

variable {t : Table} {key : String} {cell : CellRef} {entry : Entry}

/-- The list of a map. -/
def aged (t : Table) : AgedList :=
  ⟨t.mode, t.listing, t.miss, t.removal, t.capacity⟩

theorem remove_eq (t : Table) (key : String) : t.remove key =
    { t with entries := (t.remove key).entries, order := (t.remove key).order } := by
  unfold remove
  split <;> rfl

namespace Sound

theorem find?_aged (h : t.Sound) (key : String) : t.aged.find? key = t.peek key := by
  refine Option.ext fun cell => ?_
  rw [← h.mem_listing]
  exact Dictionary.find?_eq_some_iff h.nodup_keys_listing

theorem get?_eq_none (h : t.Sound) (absent : t.aged.find? key = none) :
    t.entries.get? key = none := by
  rwa [h.find?_aged, peek, Option.map_eq_none_iff] at absent

theorem get?_eq_some (h : t.Sound) (held : t.aged.find? key = some cell) :
    ∃ entry, t.entries.get? key = some entry ∧ entry.cell = cell := by
  rwa [h.find?_aged, peek, Option.map_eq_some_iff] at held

theorem aged_append (h : t.Sound) (absent : t.entries.get? key = none) (cell : CellRef) :
    (t.append key cell).aged = t.aged.add key cell := by
  rw [aged, h.listing_append absent]
  rfl

theorem aged_remove (h : t.Sound) (key : String) : (t.remove key).aged = t.aged.without key := by
  rw [aged, h.listing_remove, remove_eq]
  rfl

theorem aged_touchIfAccessed (h : t.Sound) (found : t.entries.get? key = some entry) :
    (t.touchIfAccessed key).aged = t.aged.use key := by
  have held : t.aged.find? key = some entry.cell := by
    rw [h.find?_aged, peek, found, Option.map_some]
  unfold Table.touchIfAccessed
  split
  case h_1 mode => rw [AgedList.use_of_insertion mode]
  case h_2 mode =>
    rw [AgedList.use_of_access mode held, h.touch_eq found,
      (h.remove key).aged_append (h.get?_remove_self key), h.aged_remove]

theorem aged_replace (h : t.Sound) (found : t.entries.get? key = some entry) (cell : CellRef) :
    (t.replace key entry cell).aged = t.aged.write key cell := by
  rw [Table.replace, (h.overwrite found cell).aged_touchIfAccessed
    (Dictionary.get?_insert_self _ _ _), AgedList.write]
  congr 1
  rw [aged, listing_overwrite t found]
  rfl

/-- A map asks its removal policy about the head of its list. -/
theorem candidate?_eq (h : t.Sound) :
    t.candidate? = t.aged.question?.map fun (policy, key, cell) => (policy, key, some cell) := by
  obtain ⟨mode, entries, order, lastStamp, miss, removal, capacity⟩ := t
  cases removal with
  | none => rfl
  | some policy =>
    cases order with
    | nil => rfl
    | cons listed order =>
      obtain ⟨stamp, key⟩ := listed
      obtain ⟨cell, found⟩ := h.get?_of_mem List.mem_cons_self
      have size := h.length_listing
      simp only [candidate?, AgedList.question?, aged, listing, peek, found, List.filterMap_cons,
        Option.map_some]
        at size ⊢
      rw [size]
      split <;> rfl

end Sound

end Table

/-- A map answers questions as its list does. -/
theorem Table.Sound.answer_eq {h : Heap} {t : TableRef} (sound : (h.table t).Sound)
    (question : MapQuestion) :
    question.answer h t = (h.table t).aged.answer h question := by
  cases question with
  | peek key => rw [MapQuestion.answer, AgedList.answer, sound.find?_aged]
  | contains key => rw [MapQuestion.answer, AgedList.answer, sound.find?_aged, Heap.containsKey]
  | count =>
    rw [MapQuestion.answer, (Heap.mapAgrees sound).counted, List.length_map]
    rfl
  | entries | keys | values => rfl

end CellScript
