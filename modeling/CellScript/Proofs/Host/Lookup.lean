import CellScript.Proofs.Depth
import CellScript.Proofs.Host.Assignable

/-!
# Members are looked up along the superclasses

Three searches follow the superclasses of a class. The search for a class that can stand for another
one and the search for methods remember the names that they have followed, and end in every
registry. The search for a field remembers nothing. It stops at a class that extends itself, but two
classes that extend each other keep it going: it never ends when it comes into a cycle of classes
before it comes to one that declares the field.

## Main definitions

* `HostRegistry.Stops`, `HostRegistry.Passes` — where the search for a field ends, and where it goes
  on.
* `HostRegistry.Finds` — the search for a field, without a bound.

## Main statements

* `HostRegistry.finds_iff`, `HostRegistry.field_eq_endless_iff` — what the search with a bound comes
  to.
* `HostRegistry.member_lookup_ends` — when lookups end.
-/

namespace CellScript

open Relation

/-- The outcome of a search that ends. -/
def FieldSearch.ofResult : Option HostField → FieldSearch
  | some field => .found field
  | none => .missing

namespace HostRegistry

variable {r : HostRegistry} {name : String} {c parent : HostClass} {result : Option HostField}
  {n : ℕ}

/-- The search for a field ends at a class that declares it, at one without a superclass, and at one
that extends itself. -/
inductive Stops (r : HostRegistry) (name : String) (c : HostClass) : Option HostField → Prop
  | own {field : HostField} (declared : c.fieldNamed? name = some field) :
    Stops r name c (some field)
  | top (lacks : c.fieldNamed? name = none) (last : c.superclass.bind r.lookup? = none) :
    Stops r name c none
  | itself {parent : HostClass} (lacks : c.fieldNamed? name = none)
    (above : c.superclass.bind r.lookup? = some parent)
    (same : parent.name = c.name) : Stops r name c none

/-- The search for a field goes on from a class to its superclass. -/
structure Passes (r : HostRegistry) (name : String) (c parent : HostClass) : Prop where
  lacks : c.fieldNamed? name = none
  above : c.superclass.bind r.lookup? = some parent
  apart : parent.name ≠ c.name

/-- What a search for a field finds when it ends. -/
inductive Finds (r : HostRegistry) (name : String) : HostClass → Option HostField → Prop
  | stop {c : HostClass} {result : Option HostField} (stops : r.Stops name c result) :
    Finds r name c result
  | pass {c parent : HostClass} {result : Option HostField} (passes : r.Passes name c parent)
    (rest : Finds r name parent result) : Finds r name c result

theorem stops_or_passes (r : HostRegistry) (name : String) (c : HostClass) :
    (∃ result, r.Stops name c result) ∨ ∃ parent, r.Passes name c parent := by
  cases own : c.fieldNamed? name with
  | some field => exact .inl ⟨_, .own own⟩
  | none =>
    cases above : c.superclass.bind r.lookup? with
    | none => exact .inl ⟨_, .top own above⟩
    | some parent =>
      by_cases same : parent.name = c.name
      · exact .inl ⟨_, .itself own above same⟩
      · exact .inr ⟨parent, own, above, same⟩

theorem Stops.not_passes (stops : r.Stops name c result) (parent : HostClass) :
    ¬ r.Passes name c parent := by
  intro passes
  cases stops with
  | own declared => exact nomatch declared.symm.trans passes.lacks
  | top lacks last => exact nomatch last.symm.trans passes.above
  | itself lacks above same =>
    cases above.symm.trans passes.above
    exact passes.apart same

theorem Passes.unique {parent' : HostClass} (passes : r.Passes name c parent)
    (passes' : r.Passes name c parent') :
    parent = parent' :=
  Option.some.inj (passes.above.symm.trans passes'.above)

/-! ## The search with a bound -/

theorem Stops.searchField_eq (stops : r.Stops name c result) (n : ℕ) :
    r.searchField name (n + 1) c = .ofResult result := by
  cases stops with
  | own declared => simp [searchField, declared, FieldSearch.ofResult]
  | top lacks last => simp [searchField, lacks, last, FieldSearch.ofResult]
  | itself lacks above same => simp [searchField, lacks, above, same, FieldSearch.ofResult]

theorem Passes.searchField_eq (passes : r.Passes name c parent) (n : ℕ) :
    r.searchField name (n + 1) c = r.searchField name n parent := by
  simp [searchField, passes.lacks, passes.above, passes.apart]

theorem ofResult_ne_endless (result : Option HostField) :
    FieldSearch.ofResult result ≠ .endless := by
  cases result <;> nofun

theorem ofResult_injective : Function.Injective FieldSearch.ofResult := by
  intro a b same
  cases a <;> cases b <;> cases same <;> rfl

/-- A search comes to its bound when it passes that many classes. -/
theorem searchField_eq_endless_iff :
    r.searchField name n c = .endless ↔ ¬ Within (r.Passes name) n c := by
  induction n generalizing c with
  | zero => exact iff_of_true rfl id
  | succ n ih =>
    rcases r.stops_or_passes name c with ⟨result, stops⟩ | ⟨parent, passes⟩
    · rw [stops.searchField_eq]
      exact iff_of_false (ofResult_ne_endless _)
        (not_not_intro fun parent passes => absurd passes (stops.not_passes _))
    · rw [passes.searchField_eq, ih]
      exact not_congr ⟨fun within parent' passes' => passes.unique passes' ▸ within,
        fun within => within parent passes⟩

theorem finds_of_searchField (ends : r.searchField name n c = .ofResult result) :
    r.Finds name c result := by
  induction n generalizing c with
  | zero => exact absurd ends.symm (ofResult_ne_endless _)
  | succ n ih =>
    rcases r.stops_or_passes name c with ⟨result', stops⟩ | ⟨parent, passes⟩
    · exact ofResult_injective ((stops.searchField_eq n).symm.trans ends) ▸ .stop stops
    · exact .pass passes (ih (passes.searchField_eq n ▸ ends))

theorem Finds.exists_within (finds : r.Finds name c result) : ∃ n, Within (r.Passes name) n c := by
  induction finds with
  | stop stops => exact ⟨1, fun parent passes => absurd passes (stops.not_passes parent)⟩
  | pass passes rest ih =>
    obtain ⟨n, within⟩ := ih
    exact ⟨n + 1, fun parent' passes' => passes.unique passes' ▸ within⟩

theorem Finds.searchField_eq (finds : r.Finds name c result) (within : Within (r.Passes name) n c) :
    r.searchField name n c = .ofResult result := by
  induction finds generalizing n with
  | stop stops =>
    cases n with
    | zero => exact within.elim
    | succ n => exact stops.searchField_eq n
  | pass passes rest ih =>
    cases n with
    | zero => exact within.elim
    | succ n => exact (passes.searchField_eq n).trans (ih (within _ passes))

/-! ## The bound is enough -/

/-- All classes that a search passes are registered, but for the first. -/
theorem within_bound_iff : Within (r.Passes name) (r.nameBound + 1) c ↔
    ∀ d, ReflTransGen (r.Passes name) c d → ¬ TransGen (r.Passes name) d d := by
  refine within_iff (c :: r.classes.values) (fun d parent reach passes => ?_)
    (Nat.succ_lt_succ r.length_values_lt)
  rcases reach.cases_tail with rfl | ⟨below, -, passes⟩
  · exact List.mem_cons_self
  · obtain ⟨key, -, found⟩ := Option.bind_eq_some_iff.mp passes.above
    exact List.mem_cons_of_mem _ (List.mem_map_of_mem (Dictionary.mem_of_find? found))

theorem finds_iff : r.Finds name c result ↔ r.field c name = .ofResult result := by
  refine ⟨fun finds => finds.searchField_eq (within_bound_iff.mpr fun d reach cycle => ?_),
    finds_of_searchField⟩
  obtain ⟨n, within⟩ := finds.exists_within
  exact not_within_of_cycle reach cycle within

theorem field_eq_endless_iff : r.field c name = .endless ↔
    ∃ d, ReflTransGen (r.Passes name) c d ∧ TransGen (r.Passes name) d d := by
  rw [HostRegistry.field, searchField_eq_endless_iff, within_bound_iff]
  simp only [not_forall, not_not, exists_prop]

/-- In every registry the search for a class that can stand for another one ends, and so does the
search for methods. The search for a field ends, with what it finds on the way, unless it comes into
a cycle of superclasses. -/
theorem member_lookup_ends (r : HostRegistry) :
    (∀ source target, r.Search (r.canonical target) [] [source] (r.isAssignable source target)) ∧
    (∀ c name arity isStatic, ∃ chain, r.Climbs [c.name] c.superclass chain ∧
      r.methods c name arity isStatic = (c :: chain).flatMap (·.methodsNamed name arity isStatic)) ∧
    ∀ c name, (∀ result, r.Finds name c result ↔ r.field c name = .ofResult result) ∧
      (r.field c name = .endless ↔
        ∃ d, ReflTransGen (r.Passes name) c d ∧ TransGen (r.Passes name) d d) :=
  ⟨r.search_isAssignable, r.methods_eq, fun _ _ => ⟨fun _ => finds_iff, field_eq_endless_iff⟩⟩

/-- Two classes that extend each other. -/
def twins : HostRegistry :=
  (empty.register { HostClass.ofName "A" with superclass := some "B" }).register
    { HostClass.ofName "B" with superclass := some "A" }

/-- Classes that extend each other are looked through for a field without end, while their methods
are found. -/
theorem field_endless_twins :
    twins.Reached ∧ ∃ c, twins.lookup? "A" = some c ∧ twins.field c "x" = .endless ∧
    (∀ result, ¬ twins.Finds "x" c result) ∧ twins.methods c "x" 0 false = [] := by
  have endless : twins.field { HostClass.ofName "A" with superclass := some "B" } "x" = .endless :=
    rfl
  exact ⟨(Reached.empty.register _).register _, _, rfl, endless,
    fun result finds => ofResult_ne_endless _ ((finds_iff.mp finds).symm.trans endless), rfl⟩

end HostRegistry

end CellScript
