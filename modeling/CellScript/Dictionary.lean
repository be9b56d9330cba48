/-!
# Dictionaries

A dictionary holds values under distinct names, in the order of the names.

## Main definitions

* `Dictionary` — the entries, sorted by name.
* `get?`, `insert`, `erase`, `keys` — look up, put, remove and list.
-/

namespace CellScript

/-- Values under names. -/
structure Dictionary (α : Type) where
  entries : List (String × α)
  deriving Repr

namespace Dictionary

variable {α : Type}

def empty : Dictionary α := ⟨[]⟩

instance : Inhabited (Dictionary α) := ⟨empty⟩

def find? (name : String) : List (String × α) → Option α
  | [] => none
  | (key, value) :: rest => if key = name then some value else find? name rest

def get? (d : Dictionary α) (name : String) : Option α :=
  find? name d.entries

def contains (d : Dictionary α) (name : String) : Bool :=
  (d.get? name).isSome

/-- Put a value in its place among sorted entries; it replaces the one of the same name. -/
def insertInto (name : String) (value : α) : List (String × α) → List (String × α)
  | [] => [(name, value)]
  | (key, old) :: rest =>
    if key = name then (name, value) :: rest
    else if name < key then (name, value) :: (key, old) :: rest
    else (key, old) :: insertInto name value rest

def insert (d : Dictionary α) (name : String) (value : α) : Dictionary α :=
  ⟨insertInto name value d.entries⟩

def eraseFrom (name : String) : List (String × α) → List (String × α)
  | [] => []
  | (key, value) :: rest => if key = name then rest else (key, value) :: eraseFrom name rest

def erase (d : Dictionary α) (name : String) : Dictionary α :=
  ⟨eraseFrom name d.entries⟩

/-- The names in order. -/
def keys (d : Dictionary α) : List String :=
  d.entries.map (·.1)

def values (d : Dictionary α) : List α :=
  d.entries.map (·.2)

def size (d : Dictionary α) : Nat :=
  d.entries.length

def isEmpty (d : Dictionary α) : Bool :=
  d.entries.isEmpty

def ofList (entries : List (String × α)) : Dictionary α :=
  entries.foldl (fun d (name, value) => d.insert name value) empty

/-- The entries of both, those of the second where they share a name. -/
def extend (d other : Dictionary α) : Dictionary α :=
  other.entries.foldl (fun d (name, value) => d.insert name value) d

theorem find?_insertInto_self (name : String) (value : α) (entries : List (String × α)) :
    find? name (insertInto name value entries) = some value := by
  induction entries with
  | nil => simp [insertInto, find?]
  | cons entry rest ih =>
    obtain ⟨key, old⟩ := entry
    by_cases same : key = name
    · simp [insertInto, find?, same]
    · by_cases before : name < key
      · simp [insertInto, find?, same, before]
      · simp [insertInto, find?, same, before, ih]

theorem find?_insertInto_of_ne {name other : String} (ne : name ≠ other) (value : α)
    (entries : List (String × α)) :
    find? other (insertInto name value entries) = find? other entries := by
  induction entries with
  | nil => simp [insertInto, find?, ne]
  | cons entry rest ih =>
    obtain ⟨key, old⟩ := entry
    by_cases same : key = name
    · subst same
      simp [insertInto, find?, ne]
    · by_cases before : name < key
      · simp [insertInto, find?, same, before, ne]
      · simp [insertInto, find?, same, before, ih]

@[simp] theorem get?_insert_self (d : Dictionary α) (name : String) (value : α) :
    (d.insert name value).get? name = some value :=
  find?_insertInto_self name value d.entries

theorem get?_insert_of_ne (d : Dictionary α) {name other : String} (ne : name ≠ other) (value : α) :
    (d.insert name value).get? other = d.get? other :=
  find?_insertInto_of_ne ne value d.entries

end Dictionary

end CellScript
