import CellScript.Host.Builtin
import CellScript.Library.Function
import CellScript.Proofs.Host.Assignable
import CellScript.Proofs.Run.Agrees

/-!
# Imports of host classes

A name is looked up through at most one alias. An import looks the full name up in this way to see
that there is a class, and then lets the short name stand for the full name itself. So the short
name reaches the class that is registered under the full name, which is another class, or none,
where the full name is an alias.

## Main definitions

* `HostRegistry.imported` — the registry after an import.
* `Library.importNames` — the full and the short name that arguments of an import give.

## Main statements

* `HostRegistry.lookup?_imported` — what names stand for after an import.
* `Library.import_reaches_iff` — when the short name reaches the class that the full name was looked
  up to.
-/

namespace CellScript

namespace HostRegistry

/-- The registry after an import. A class that is imported under its full name is there already. -/
def imported (r : HostRegistry) (full short : String) : HostRegistry :=
  if short = full then r else r.addAlias short full

variable {r : HostRegistry} {full short : String} {c : HostClass}

theorem Reached.imported (reached : r.Reached) (full short : String) :
    (r.imported full short).Reached := by
  unfold HostRegistry.imported
  split
  · exact reached
  · exact reached.addAlias short full

/-- The short name stands for what is registered under the full name, and all other names for what
they did. -/
theorem lookup?_imported (r : HostRegistry) (full short name : String) :
    (r.imported full short).lookup? name =
      if name = short ∧ short ≠ full then r.classes.get? full else r.lookup? name := by
  unfold HostRegistry.imported
  by_cases same : short = full
  · simp [same]
  · by_cases own : name = short
    · subst own
      simp [same, addAlias, lookup?]
    · simp [same, own, addAlias, lookup?, Dictionary.get?_insert_of_ne _ (Ne.symm own)]

/-- A class that a name is looked up to is registered under that name if the name is its own. -/
theorem Reached.get?_eq_some_iff (reached : r.Reached) (found : r.lookup? full = some c) :
    r.classes.get? full = some c ↔ c.name = full := by
  constructor
  · exact reached.name_eq
  · intro own
    have target : c.name = (r.aliases.get? full).getD full := reached.name_eq found
    rw [lookup?, ← target, own] at found
    exact found

end HostRegistry

namespace Library

/-- The full and the short name that arguments of an import give. Without a second one the short
name is the part of the full name after its last dot. -/
def importNames (h : Heap) (args : List CellRef) : String × String :=
  let full := (args[0]?).elim "" h.text
  (full, (args[1]?).elim (afterLastDot full) h.text)

/-- The last steps of an import, after the full name has been looked up. -/
theorem imported_run (full short : String) (m : Machine) :
    (if short ≠ full then do
        Run.changeMachine fun m => { m with hosts := m.hosts.addAlias short full }
        liftM (HeapM.text short)
      else liftM (HeapM.text short) : Run CellRef) m =
      (.ok ⟨m.heap.cells.size⟩,
        { m with hosts := m.hosts.imported full short, heap :=
          (m.heap.alloc (.clean (.text short))).2 }) := by
  unfold HostRegistry.imported
  by_cases same : short = full
  · rw [if_neg (not_not.mpr same), if_pos same]
    rfl
  · rw [if_pos same, if_neg same]
    rfl

/-- Where the full name is looked up to a class, an import comes to a new cell with the short name,
and the classes are those after the import. -/
theorem importClass_run (args : List CellRef) (m : Machine) {full short : String}
    (names : importNames m.heap args = (full, short)) (known : (m.hosts.lookup? full).isSome) :
    importClass args m = (.ok ⟨m.heap.cells.size⟩,
      { m with
        hosts := m.hosts.imported full short
        heap := (m.heap.alloc (.clean (.text short))).2 }) := by
  obtain ⟨first, second⟩ := Prod.mk.inj names
  have there : (m.hosts.lookup? full).isNone = false := by simpa using known
  have read : textArgument args 0 m = (.ok full, m) := by
    rw [← first]
    unfold textArgument
    cases args[0]? <;> rfl
  unfold importClass
  rw [Run.bind_of_ok read]
  cases given : args[1]? with
  | none =>
    have name : afterLastDot full = short := by simpa [given, first] using second
    simp only [pure_bind, name]
    rw [Run.bind_of_ok (Run.ask_run _ m), there, if_neg Bool.false_ne_true]
    exact imported_run full short m
  | some cell =>
    have name : m.heap.text cell = short := by simpa [given] using second
    change (Run.askHeap (·.text cell) >>= _) m = _
    rw [Run.bind_of_ok (Run.askHeap_run _ m), name]
    beta_reduce
    rw [Run.bind_of_ok (Run.ask_run _ m), there, if_neg Bool.false_ne_true]
    exact imported_run full short m

/-- In every registry that registrations, aliases and imports have led to, an import of a name that
is looked up to a class succeeds and answers the short name. Afterwards the short name is looked up
to the very same class if it is the full name itself, or if the full name is the class's own; a
class that the full name was an alias of is not reached. All other names are looked up to what they
were before. -/
theorem import_reaches_iff (args : List CellRef) (m : Machine) {full short : String} {c : HostClass}
    (names : importNames m.heap args = (full, short)) (reached : m.hosts.Reached)
    (found : m.hosts.lookup? full = some c) :
    ∃ cell m', importClass args m = (.ok cell, m') ∧ m'.heap.text cell = short ∧ m'.hosts.Reached ∧
      (m'.hosts.lookup? short = some c ↔ short = full ∨ c.name = full) ∧
      ∀ name ≠ short, m'.hosts.lookup? name = m.hosts.lookup? name := by
  have run := importClass_run args m names (by rw [found]; rfl)
  refine ⟨_, _, run, ?_, reached.imported full short, ?_, ?_⟩
  · simp [Heap.text, Heap.content, Heap.get, Heap.alloc, Heap.contentText, Heap.render, Value.clean]
  · rw [HostRegistry.lookup?_imported]
    by_cases same : short = full
    · simp [same, found]
    · simp [same, reached.get?_eq_some_iff found]
  · intro name other
    rw [HostRegistry.lookup?_imported, if_neg (fun both => other both.1)]

/-- A machine with the standard classes, among which `Math` goes by `M` as well, and with the
arguments of two imports: that of `Math` as `N`, and that of `M` as `N`. -/
def mathImported : Machine :=
  let text (s : String) : Value := .clean (.text s)
  { (default : Machine) with
    hosts := HostRegistry.standard.imported "Math" "M"
    heap := { Heap.empty with cells := #[text "Math", text "M", text "N"] } }

theorem reached_mathImported : mathImported.hosts.Reached :=
  .imported (List.foldlRecOn _ HostRegistry.register .empty fun _ before _ _ => before.register _)
    "Math" "M"

/-- By its own name the class is reached. -/
theorem import_reaches_iff_math :
    importNames mathImported.heap [⟨0⟩, ⟨2⟩] = ("Math", "N") ∧ mathImported.hosts.Reached ∧
      mathImported.hosts.lookup? "Math" = some .math ∧
      ∃ cell m', importClass [⟨0⟩, ⟨2⟩] mathImported = (.ok cell, m') ∧
        m'.hosts.lookup? "N" = some .math := by
  have names : importNames mathImported.heap [⟨0⟩, ⟨2⟩] = ("Math", "N") := rfl
  have found : mathImported.hosts.lookup? "Math" = some .math := rfl
  obtain ⟨cell, m', run, -, -, reaches, -⟩ :=
      import_reaches_iff _ _ names reached_mathImported found
  exact ⟨names, reached_mathImported, found, cell, m', run, reaches.mpr (.inr rfl)⟩

/-- By the name of an import before, the import succeeds all the same, and the short name is looked
up to nothing. -/
theorem import_of_alias_unreached :
    mathImported.hosts.Reached ∧ mathImported.hosts.lookup? "M" = some .math ∧
      ∃ cell m', importClass [⟨1⟩, ⟨2⟩] mathImported = (.ok cell, m') ∧ m'.heap.text cell = "N" ∧
        m'.hosts.lookup? "N" = none := by
  have known : mathImported.hosts.lookup? "M" = some .math := rfl
  have names : importNames mathImported.heap [⟨1⟩, ⟨2⟩] = ("M", "N") := rfl
  have run := importClass_run [⟨1⟩, ⟨2⟩] mathImported names (by rw [known]; rfl)
  exact ⟨reached_mathImported, known, _, _, run, rfl, rfl⟩

end Library

end CellScript
