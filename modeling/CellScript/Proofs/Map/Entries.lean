import CellScript.Dictionary
import Mathlib.Data.List.Pairwise

/-!
# Dictionaries that are sorted

The entries of a dictionary stand in the order of their names, each name once, and every operation
keeps them so. A name is then found exactly when it has an entry.

## Main definitions

* `Dictionary.IsSorted` — the names increase.

## Main statements

* `Dictionary.IsSorted.insert`, `Dictionary.IsSorted.erase` — operations keep the order.
* `Dictionary.IsSorted.get?_eq_some_iff` — to look up a name is to look for an entry.
* `Dictionary.IsSorted.insert_erase` — an entry that is taken out and put back.
-/

namespace CellScript.Dictionary

variable {α : Type} {name key : String} {value : α} {es : List (String × α)} {d : Dictionary α}

/-- Every name comes before all later ones. -/
def AreSorted (es : List (String × α)) : Prop :=
  es.Pairwise (·.1 < ·.1)

/-- The names of the entries increase. -/
def IsSorted (d : Dictionary α) : Prop :=
  AreSorted d.entries

theorem find?_cons (key : String) (value : α) (es : List (String × α)) (name : String) :
    find? name ((key, value) :: es) = if key = name then some value else find? name es := rfl

theorem mem_of_find? (h : find? name es = some value) : (name, value) ∈ es := by
  induction es with
  | nil => cases h
  | cons entry rest ih =>
    obtain ⟨key, old⟩ := entry
    rw [find?_cons] at h
    split at h
    case isTrue same =>
      cases h
      exact same ▸ List.mem_cons_self
    case isFalse => exact List.mem_cons_of_mem _ (ih h)

theorem not_mem_of_find?_eq_none (h : find? name es = none) : (name, value) ∉ es := by
  induction es with
  | nil => exact List.not_mem_nil
  | cons entry rest ih =>
    obtain ⟨key, old⟩ := entry
    rw [find?_cons] at h
    split at h
    case isTrue => cases h
    case isFalse apart =>
      rw [List.mem_cons, Prod.mk.injEq]
      rintro (⟨same, -⟩ | later)
      · exact apart same.symm
      · exact ih h later

theorem find?_of_mem (distinct : (es.map (·.1)).Nodup) (h : (name, value) ∈ es) :
    find? name es = some value := by
  induction es with
  | nil => cases h
  | cons entry rest ih =>
    obtain ⟨key, old⟩ := entry
    obtain ⟨once, rest_distinct⟩ := List.nodup_cons.mp distinct
    rw [find?_cons]
    rcases List.mem_cons.mp h with same | later
    · cases same
      exact if_pos rfl
    · have apart : key ≠ name := by
        rintro rfl
        exact once (List.mem_map.mpr ⟨_, later, rfl⟩)
      rw [if_neg apart]
      exact ih rest_distinct later

theorem find?_eq_some_iff (distinct : (es.map (·.1)).Nodup) :
    find? name es = some value ↔ (name, value) ∈ es :=
  ⟨mem_of_find?, find?_of_mem distinct⟩

/-- The names under which there is something. -/
theorem mem_keys_iff : name ∈ d.keys ↔ (d.get? name).isSome := by
  unfold keys get?
  rw [List.mem_map]
  cases found : find? name d.entries with
  | some value => exact iff_of_true ⟨_, mem_of_find? found, rfl⟩ rfl
  | none =>
    refine iff_of_false ?_ Bool.false_ne_true
    rintro ⟨⟨key, value⟩, listed, rfl⟩
    exact not_mem_of_find?_eq_none found listed

theorem AreSorted.nodup_names (sorted : AreSorted es) : (es.map (·.1)).Nodup :=
  List.pairwise_map.mpr (List.Pairwise.imp (fun before => String.ne_of_lt before) sorted)

theorem find?_eq_none_of_forall (h : ∀ entry ∈ es, entry.1 ≠ name) : find? name es = none := by
  cases found : find? name es with
  | none => rfl
  | some value => exact absurd rfl (h _ (mem_of_find? found))

theorem mem_insertInto {entry : String × α} (h : entry ∈ insertInto name value es) :
    entry = (name, value) ∨ entry ∈ es := by
  induction es with
  | nil => exact .inl (List.mem_singleton.mp h)
  | cons first rest ih =>
    obtain ⟨key, old⟩ := first
    rw [insertInto] at h
    split at h
    · exact (List.mem_cons.mp h).imp_right (List.mem_cons_of_mem _)
    split at h
    · exact List.mem_cons.mp h
    · rcases List.mem_cons.mp h with same | later
      · exact .inr (same ▸ List.mem_cons_self)
      · exact (ih later).imp_right (List.mem_cons_of_mem _)

theorem AreSorted.insertInto (sorted : AreSorted es) (name : String) (value : α) :
    AreSorted (insertInto name value es) := by
  induction es with
  | nil => exact List.pairwise_singleton _ _
  | cons entry rest ih =>
    obtain ⟨key, old⟩ := entry
    obtain ⟨first, rest_sorted⟩ := List.pairwise_cons.mp sorted
    rw [Dictionary.insertInto]
    split
    case isTrue same =>
      subst same
      exact List.pairwise_cons.mpr ⟨first, rest_sorted⟩
    case isFalse apart =>
      split
      case isTrue before =>
        refine List.pairwise_cons.mpr ⟨fun entry h => ?_, sorted⟩
        rcases List.mem_cons.mp h with same | later
        · exact same ▸ before
        · exact String.lt_trans before (first _ later)
      case isFalse notBefore =>
        refine List.pairwise_cons.mpr ⟨fun entry h => ?_, ih rest_sorted⟩
        rcases mem_insertInto h with same | later
        · exact same ▸ Std.lt_of_le_of_ne (String.not_lt.mp notBefore) apart
        · exact first _ later

theorem eraseFrom_sublist (name : String) (es : List (String × α)) :
    (eraseFrom name es).Sublist es := by
  induction es with
  | nil => exact .slnil
  | cons entry rest ih =>
    obtain ⟨key, old⟩ := entry
    rw [eraseFrom]
    split
    · exact List.sublist_cons_self _ _
    · exact ih.cons_cons _

theorem eraseFrom_of_forall (h : ∀ entry ∈ es, entry.1 ≠ name) : eraseFrom name es = es := by
  induction es with
  | nil => rfl
  | cons entry rest ih =>
    rw [eraseFrom, if_neg (h entry List.mem_cons_self), ih
      fun other later => h other (List.mem_cons_of_mem _ later)]

theorem AreSorted.eraseFrom (sorted : AreSorted es) (name : String) :
    AreSorted (eraseFrom name es) :=
  sorted.sublist (eraseFrom_sublist name es)

theorem find?_eraseFrom_self (sorted : AreSorted es) (name : String) :
    find? name (eraseFrom name es) = none := by
  induction es with
  | nil => rfl
  | cons entry rest ih =>
    obtain ⟨key, old⟩ := entry
    obtain ⟨first, rest_sorted⟩ := List.pairwise_cons.mp sorted
    rw [eraseFrom]
    split
    case isTrue same => exact find?_eq_none_of_forall fun entry h =>
      same ▸ (String.ne_of_lt (first entry h)).symm
    case isFalse apart =>
      rw [find?_cons, if_neg apart]
      exact ih rest_sorted

theorem find?_eraseFrom_of_ne (ne : name ≠ key) (es : List (String × α)) :
    find? key (eraseFrom name es) = find? key es := by
  induction es with
  | nil => rfl
  | cons entry rest ih =>
    obtain ⟨other, old⟩ := entry
    rw [eraseFrom]
    split
    case isTrue same => rw [find?_cons, if_neg (same ▸ ne)]
    case isFalse => rw [find?_cons, find?_cons, ih]

theorem insertInto_eraseFrom (sorted : AreSorted es) (name : String) (value : α) :
    insertInto name value (eraseFrom name es) = insertInto name value es := by
  induction es with
  | nil => rfl
  | cons entry rest ih =>
    obtain ⟨key, old⟩ := entry
    obtain ⟨first, rest_sorted⟩ := List.pairwise_cons.mp sorted
    by_cases same : key = name
    · rw [eraseFrom, if_pos same, insertInto, if_pos same]
      -- all that is left comes after the name
      cases rest with
      | nil => rfl
      | cons next rest =>
        have later : name < next.1 := same ▸ first next List.mem_cons_self
        rw [insertInto, if_neg (String.ne_of_lt later).symm, if_pos later]
    · rw [eraseFrom, if_neg same, insertInto, insertInto, if_neg same, if_neg same]
      split
      case isTrue before =>
        rw [eraseFrom_of_forall fun entry h =>
          (String.ne_of_lt (String.lt_trans before (first entry h))).symm]
      case isFalse => rw [ih rest_sorted]

namespace IsSorted

theorem empty : (Dictionary.empty (α := α)).IsSorted :=
  List.Pairwise.nil

theorem insert (h : d.IsSorted) (name : String) (value : α) : (d.insert name value).IsSorted :=
  AreSorted.insertInto h name value

theorem erase (h : d.IsSorted) (name : String) : (d.erase name).IsSorted :=
  AreSorted.eraseFrom h name

theorem get?_eq_some_iff (h : d.IsSorted) : d.get? name = some value ↔ (name, value) ∈ d.entries :=
  find?_eq_some_iff h.nodup_names

theorem get?_erase_self (h : d.IsSorted) (name : String) : (d.erase name).get? name = none :=
  find?_eraseFrom_self h name

theorem insert_erase (h : d.IsSorted) (name : String) (value : α) :
    (d.erase name).insert name value = d.insert name value :=
  congrArg Dictionary.mk (insertInto_eraseFrom h name value)

end IsSorted

theorem get?_erase_of_ne (d : Dictionary α) (ne : name ≠ key) :
    (d.erase name).get? key = d.get? key :=
  find?_eraseFrom_of_ne ne d.entries

end CellScript.Dictionary
