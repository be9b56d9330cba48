/-!
# TOML documents

The values of a configuration text, and the tables that its lines build up. A table remembers how it
came about, because that decides what later lines may still add to it: a header names a table once,
dotted keys extend only tables that dotted keys have made, and a table that is written as a value is
complete.

## Main definitions

* `Toml` — values; `Toml.Line` — what a line of a text says.
* `Toml.assign?`, `Toml.declare?`, `Toml.append?` — an entry, a header and a header of a list of
  tables.
* `Toml.ofLines?` — the table that the lines of a text build up.
-/

namespace CellScript

/-- How a table came about. -/
inductive Toml.Origin where
  /-- by a header of its own -/
  | header
  /-- by the header of a table inside it -/
  | implied
  /-- by a dotted key -/
  | dotted
  /-- written as a value -/
  | inline
  deriving DecidableEq, Repr

/-- A value in a document. -/
inductive Toml where
  | text (s : String)
  | integer (n : Int)
  | float (x : Float)
  | boolean (b : Bool)
  /-- a date, a time or both -/
  | moment
  | list (items : List Toml)
  | table (origin : Toml.Origin) (entries : List (String × Toml))
  /-- a list of tables with headers of their own, of which the last one is open -/
  | tables (earlier : List Toml) (last : List (String × Toml))
  deriving Inhabited

namespace Toml

/-- The contents of a table in the order of the text. -/
abbrev Entries := List (String × Toml)

/-- What a line of a text says. -/
inductive Line where
  | header (path : List String) (key : String)
  /-- the header of a further table of a list -/
  | element (path : List String) (key : String)
  | entry (path : List String) (key : String) (value : Toml)

/-- Change what stands under a key, or what is to stand there. -/
def alter? (key : String) (change : Option Toml → Option Toml) : Entries → Option Entries
  | [] => (change none).map fun value => [(key, value)]
  | (name, value) :: rest =>
    if name = key then (change (some value)).map fun value => (name, value) :: rest
    else (alter? key change rest).map ((name, value) :: ·)

/-- Change the table that a header names by its path. A table on the way that is missing is implied,
and of a list of tables the last one is meant. -/
def within? (change : Entries → Option Entries) : List String → Entries → Option Entries
  | [], entries => change entries
  | key :: path, entries =>
    alter? key (fun
      | none => (within? change path []).map (.table .implied)
      | some (.table .inline _) => none
      | some (.table origin inner) => (within? change path inner).map (.table origin)
      | some (.tables earlier last) => (within? change path last).map (.tables earlier)
      | some _ => none) entries

/-- Set a key that is not there yet, in the table that a dotted key names by its path. That table is
made by dotted keys only. -/
def assign? (key : String) (value : Toml) : List String → Entries → Option Entries
  | [], entries => alter? key (fun old => if old.isSome then none else some value) entries
  | step :: path, entries =>
    alter? step (fun
      | none => (assign? key value path []).map (.table .dotted)
      | some (.table .dotted inner) => (assign? key value path inner).map (.table .dotted)
      | some (.table .implied inner) =>
        if path.isEmpty then none else (assign? key value path inner).map (.table .implied)
      | some (.tables earlier last) =>
        if path.isEmpty then none else (assign? key value path last).map (.tables earlier)
      | some _ => none) entries

/-- Open the table that a header names, which is new or only implied so far. -/
def declare? (path : List String) (key : String) : Entries → Option Entries :=
  within? (alter? key fun
    | none => some (.table .header [])
    | some (.table .implied inner) => some (.table .header inner)
    | some _ => none) path

/-- Open a further table of a list of tables, which may be new. -/
def append? (path : List String) (key : String) : Entries → Option Entries :=
  within? (alter? key fun
    | none => some (.tables [] [])
    | some (.tables earlier last) => some (.tables (earlier ++ [.table .header last]) [])
    | some _ => none) path

/-- Follow the lines of a text; entries go into the table of the last header. -/
def addLines? : List Line → List String → Entries → Option Entries
  | [], _, entries => some entries
  | .header path key :: rest, _, entries =>
    (declare? path key entries).bind (addLines? rest (path ++ [key]))
  | .element path key :: rest, _, entries =>
    (append? path key entries).bind (addLines? rest (path ++ [key]))
  | .entry path key value :: rest, current, entries =>
    (within? (assign? key value path) current entries).bind (addLines? rest current)

/-- The table that the lines of a text build up. -/
def ofLines? (lines : List Line) : Option Toml :=
  (addLines? lines [] []).map (.table .header)

/-- The table of the entries between braces. -/
def ofPairs? (pairs : List (List String × String × Toml)) : Option Toml :=
  (pairs.foldlM (fun entries (path, key, value) => assign? key value path entries) []).map
  (.table .inline)

/-- The fields of a record in the order of `names`, none for a missing one. A list holds them in
order, and what stands in it after them is ignored. -/
def fields? (names : List String) : Toml → Option (List (Option Toml))
  | .table _ entries => some (names.map (List.lookup · entries))
  | .list items => some ((List.range names.length).map (items[·]?))
  | .tables earlier last =>
    some ((List.range names.length).map ((earlier ++ [.table .header last])[·]?))
  | .moment => some (names.map fun _ => none)
  | _ => none

def text? : Toml → Option String
  | .text s => some s
  | _ => none

def boolean? : Toml → Option Bool
  | .boolean b => some b
  | _ => none

/-- A natural number below a limit. -/
def natBelow? (limit : Nat) : Toml → Option Nat
  | .integer (.ofNat n) => if n < limit then some n else none
  | _ => none

end Toml

end CellScript
