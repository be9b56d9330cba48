import CellScript.Proofs.Host.Ancestry
import Mathlib.Data.Option.Basic
import Mathlib.Logic.Relation

/-!
# Classes that stand for others

A class can stand where another is declared when a chain of names leads from the one to the other:
from a name to the superclass and the interfaces of the class that it resolves to. The search for
such a chain follows each name once and gives up when there is no name left. `Search` is this search
without a bound: what it has found when it ends. It ends in every registry, whatever cycles, missing
classes and aliases there are, and the bound that the program searches with cuts nothing off.

## Main definitions

* `HostRegistry.Declares`, `Meets` — a step of a chain, and where a chain may end.
* `HostRegistry.Search` — the search, without a bound.
* `HostRegistry.Reached` — the registries that registering classes and giving aliases leads to.

## Main statements

* `HostRegistry.search_isAssignable` — the search ends with the answer of the program.
* `HostRegistry.isAssignable_iff` — it finds the chains that there are.
* `HostRegistry.assignable_along_chains` — that, and the laws for registries without aliases.
-/

namespace CellScript

/-- The names that a class declares itself to stand for, in the order in which they are searched. -/
def HostClass.parents (c : HostClass) : List String :=
  c.superclass.toList ++ c.interfaces

/-- Two classes say the same about what they stand for, but for the order of their interfaces. -/
structure HostClass.Alike (c d : HostClass) : Prop where
  name : c.name = d.name
  superclass : c.superclass = d.superclass
  interfaces : c.interfaces.Perm d.interfaces

theorem HostClass.Alike.mem_parents {c d : HostClass} {parent : String} (alike : c.Alike d) :
    parent ∈ c.parents ↔ parent ∈ d.parents := by
  rw [HostClass.parents, HostClass.parents, List.mem_append, List.mem_append, alike.superclass,
    alike.interfaces.mem_iff]

namespace HostRegistry

variable {r r' : HostRegistry} {c : HostClass} {name parent source middle target : String}
  {seen pending names : List String} {n : Nat}

/-- A name resolves to a class that declares a superclass or an interface. -/
def Declares (r : HostRegistry) (name parent : String) : Prop :=
  ∃ c, r.lookup? name = some c ∧ parent ∈ c.parents

/-- The name of the class that a name resolves to; a name that resolves to none stands for
itself. -/
def canonical (r : HostRegistry) (name : String) : String :=
  (r.lookup? name).elim name (·.name)

/-- A name is the target, or resolves to the class of that name. -/
def Meets (r : HostRegistry) (target name : String) : Prop :=
  name = target ∨ ∃ c, r.lookup? name = some c ∧ c.name = target

/-- A search for the target from pending names, when the names in `seen` have been followed, and
what it has found. -/
inductive Search (r : HostRegistry) (target : String) : List String → List String → Bool → Prop
  | out (seen : List String) : Search r target seen [] false
  | here (seen rest : List String) : Search r target seen (target :: rest) true
  | again {seen rest : List String} {name : String} {found : Bool} (other : name ≠ target)
    (followed : name ∈ seen)
    (later : Search r target seen rest found) : Search r target seen (name :: rest) found
  | unknown {seen rest : List String} {name : String} {found : Bool} (other : name ≠ target)
    (new : name ∉ seen) (missing : r.lookup? name = none)
    (later : Search r target (name :: seen) rest found) :
    Search r target seen (name :: rest) found
  | named {seen rest : List String} {name : String} {c : HostClass} (other : name ≠ target)
    (new : name ∉ seen) (resolved : r.lookup? name = some c) (same : c.name = target) :
    Search r target seen (name :: rest) true
  | follow {seen rest : List String} {name : String} {c : HostClass} {found : Bool}
    (other : name ≠ target) (new : name ∉ seen) (resolved : r.lookup? name = some c)
    (apart : c.name ≠ target) (later : Search r target (name :: seen) (rest ++ c.parents) found) :
    Search r target seen (name :: rest) found

/-! ## The search ends -/

/-- The names that registered classes declare. -/
def declared (r : HostRegistry) : List String :=
  r.classes.values.flatMap (·.parents)

theorem parents_sublist_declared (resolved : r.lookup? name = some c) :
    c.parents.Sublist r.declared :=
  List.sublist_flatten_of_mem
    (List.mem_map_of_mem (List.mem_map_of_mem (Dictionary.mem_of_find? resolved)))

theorem length_declared_lt (r : HostRegistry) : r.declared.length < r.nameBound := by
  refine r.length_flatMap_lt fun c => ?_
  have one : c.superclass.toList.length ≤ 1 := by cases c.superclass <;> simp
  rw [HostClass.parents, List.length_append]
  omega

/-- With a bound above the names that are pending, and those that may become so, the search comes to
its end. Each name that is followed is one less of those that are left, and makes less than
`nameBound` names pending. -/
theorem search_leadsTo (names : List String) (closed : r.declared ⊆ names) (held : pending ⊆ names)
    (bound : pending.length + (names.filter (· ∉ seen)).length * r.nameBound < n) :
    r.Search target seen pending (r.leadsTo target n seen pending) := by
  induction n generalizing seen pending with
  | zero => exact absurd bound (Nat.not_lt_zero _)
  | succ n ih =>
    cases pending with
    | nil => exact .out seen
    | cons name rest =>
      obtain ⟨first, held⟩ := List.cons_subset.mp held
      rw [List.length_cons] at bound
      rw [leadsTo]
      simp only [beq_iff_eq, List.contains_iff_mem]
      by_cases same : name = target
      · subst same
        rw [if_pos rfl]
        exact .here seen rest
      rw [if_neg same]
      by_cases followed : name ∈ seen
      · rw [if_pos followed]
        exact .again same followed (ih held (by omega))
      rw [if_neg followed]
      have fewer :=
        Nat.mul_le_mul_right r.nameBound (Nat.succ_le_of_lt (length_left_lt first followed))
      rw [Nat.succ_mul] at fewer
      cases resolved : r.lookup? name with
      | none => exact .unknown same followed resolved (ih held (by omega))
      | some c =>
        dsimp only
        by_cases meets : c.name = target
        · rw [if_pos meets]
          exact .named same followed resolved meets
        · rw [if_neg meets, List.append_assoc]
          have sub := parents_sublist_declared resolved
          have few : c.parents.length < r.nameBound := sub.length_le.trans_lt r.length_declared_lt
          refine .follow same followed resolved meets (ih ?_ ?_)
          · exact List.append_subset_of_subset_of_subset held (List.Subset.trans sub.subset closed)
          · rw [List.length_append]
            omega

/-- The search of the program ends with the answer of the program. -/
theorem search_isAssignable (r : HostRegistry) (source target : String) :
    r.Search (r.canonical target) [] [source] (r.isAssignable source target) := by
  refine search_leadsTo (source :: r.declared) (List.subset_cons_self _ _)
    (List.cons_subset.mpr ⟨List.mem_cons_self, List.nil_subset _⟩) ?_
  have few : ((source :: r.declared).filter (· ∉ [])).length ≤ r.nameBound :=
    (List.length_filter_le _ _).trans r.length_declared_lt
  have enough := Nat.mul_le_mul_right r.nameBound few
  have positive := (Nat.zero_le _).trans_lt r.length_declared_lt
  rw [List.length_singleton, Nat.succ_mul, Nat.mul_succ]
  omega

/-! ## The search finds the chains that there are -/

/-- What is found is at the end of a chain from a pending name. -/
theorem Search.exists_chain (search : r.Search target seen pending true) :
    ∃ name ∈ pending, ∃ last, Relation.ReflTransGen r.Declares name last ∧ r.Meets target last := by
  generalize found : true = answer at search
  induction search with
  | out => cases found
  | here seen rest => exact ⟨target, List.mem_cons_self, target, .refl, .inl rfl⟩
  | again other followed later ih | unknown other new missing later ih =>
    obtain ⟨name, held, chain⟩ := ih found
    exact ⟨name, List.mem_cons_of_mem _ held, chain⟩
  | named other new resolved same =>
    exact ⟨_, List.mem_cons_self, _, .refl, .inr ⟨_, resolved, same⟩⟩
  | follow other new resolved apart later ih =>
    obtain ⟨name, held, last, chain, meets⟩ := ih found
    rcases List.mem_append.mp held with held | declared
    · exact ⟨name, List.mem_cons_of_mem _ held, last, chain, meets⟩
    · exact ⟨_, List.mem_cons_self, last, .head ⟨_, resolved, declared⟩ chain, meets⟩

/-- The names in `seen` have been followed in vain: chains from them lead to no other names but the
pending ones. -/
structure Followed (r : HostRegistry) (target : String) (seen pending : List String) : Prop where
  missed : ∀ name ∈ seen, ¬ r.Meets target name
  queued : ∀ name ∈ seen, ∀ parent, r.Declares name parent → parent ∈ seen ∨ parent ∈ pending

namespace Followed

theorem again (followed : r.Followed target seen (name :: pending)) (held : name ∈ seen) :
    r.Followed target seen pending where
  missed := followed.missed
  queued o seen parent declares := by
    rcases followed.queued o seen parent declares with early | late
    · exact .inl early
    rcases List.mem_cons.mp late with rfl | late
    · exact .inl held
    · exact .inr late

theorem next {more : List String} (followed : r.Followed target seen (name :: pending))
    (misses : ¬ r.Meets target name) (queued : ∀ parent, r.Declares name parent → parent ∈ more) :
    r.Followed target (name :: seen) (pending ++ more) where
  missed := List.forall_mem_cons.mpr ⟨misses, followed.missed⟩
  queued := by
    refine List.forall_mem_cons.mpr ⟨fun parent declares => ?_, fun o held parent declares => ?_⟩
    · exact .inr (List.mem_append_right _ (queued parent declares))
    rcases followed.queued o held parent declares with early | late
    · exact .inl (List.mem_cons_of_mem _ early)
    rcases List.mem_cons.mp late with rfl | late
    · exact .inl List.mem_cons_self
    · exact .inr (List.mem_append_left _ late)

/-- A chain does not lead out of names that have all been followed. -/
theorem mem_of_chain (followed : r.Followed target names []) (held : name ∈ names)
    (chain : Relation.ReflTransGen r.Declares name parent) : parent ∈ names := by
  induction chain with
  | refl => exact held
  | tail _ declares ih => exact (followed.queued _ ih _ declares).resolve_right List.not_mem_nil

end Followed

/-- A search that finds nothing ends when all names that it could come to have been followed in
vain. -/
theorem Search.exists_followed (search : r.Search target seen pending false)
    (followed : r.Followed target seen pending) :
    ∃ names, seen ⊆ names ∧ pending ⊆ names ∧ r.Followed target names [] := by
  generalize found : false = answer at search
  induction search with
  | out seen => exact ⟨seen, List.Subset.refl _, List.nil_subset _, followed⟩
  | here => cases found
  | named => cases found
  | again other held later ih =>
    obtain ⟨names, old, new, all⟩ := ih (followed.again held) found
    exact ⟨names, old, List.cons_subset.mpr ⟨old held, new⟩, all⟩
  | @unknown seen rest name _ other new missing later ih =>
    have misses : ¬ r.Meets target name := by
      rintro (same | ⟨c, resolved, -⟩)
      · exact other same
      · exact nomatch missing.symm.trans resolved
    have queued (parent : String) : r.Declares name parent → parent ∈ [] := by
      rintro ⟨c, resolved, -⟩
      exact nomatch missing.symm.trans resolved
    obtain ⟨names, old, new, all⟩ := ih (List.append_nil rest ▸ followed.next misses queued) found
    obtain ⟨held, old⟩ := List.cons_subset.mp old
    exact ⟨names, old, List.cons_subset.mpr ⟨held, new⟩, all⟩
  | @follow seen rest name c _ other new resolved apart later ih =>
    have misses : ¬ r.Meets target name := by
      rintro (same | ⟨d, resolved', same⟩)
      · exact other same
      · cases resolved.symm.trans resolved'
        exact apart same
    have queued (parent : String) : r.Declares name parent → parent ∈ c.parents := by
      rintro ⟨d, resolved', declared⟩
      cases resolved.symm.trans resolved'
      exact declared
    obtain ⟨names, old, new, all⟩ := ih (followed.next misses queued) found
    obtain ⟨held, old⟩ := List.cons_subset.mp old
    exact ⟨names, old, List.cons_subset.mpr ⟨held, (List.append_subset.mp new).1⟩, all⟩

/-- A class can stand for another one when a chain of declared names leads from it to that one. -/
theorem isAssignable_iff : r.isAssignable source target ↔
    ∃ last, Relation.ReflTransGen r.Declares source last ∧ r.Meets (r.canonical target) last := by
  have search := r.search_isAssignable source target
  cases found : r.isAssignable source target with
  | true =>
    obtain ⟨name, held, chain⟩ := (found ▸ search).exists_chain
    obtain rfl := List.mem_singleton.mp held
    exact iff_of_true rfl chain
  | false =>
    obtain ⟨names, -, pending, followed⟩ := (found ▸ search).exists_followed ⟨nofun, nofun⟩
    refine iff_of_false Bool.false_ne_true ?_
    rintro ⟨last, chain, meets⟩
    exact followed.missed last
      (followed.mem_of_chain (pending (List.mem_singleton_self source)) chain) meets

/-! ## Laws -/

theorem meets_canonical (r : HostRegistry) (name : String) : r.Meets (r.canonical name) name := by
  unfold Meets canonical
  cases r.lookup? name with
  | none => exact .inl rfl
  | some c => exact .inr ⟨c, rfl, rfl⟩

theorem isAssignable_refl (r : HostRegistry) (name : String) : r.isAssignable name name :=
  isAssignable_iff.mpr ⟨name, .refl, r.meets_canonical name⟩

/-- The registries that registering classes and giving aliases leads to. -/
inductive Reached : HostRegistry → Prop
  | empty : Reached .empty
  | register {r : HostRegistry} (before : Reached r) (c : HostClass) : Reached (r.register c)
  | addAlias {r : HostRegistry} (before : Reached r) (short full : String) :
    Reached (r.addAlias short full)

/-- Classes are known by their own names. -/
theorem Reached.name_eq (reached : r.Reached) (known : r.classes.get? name = some c) :
    c.name = name := by
  induction reached with
  | empty => cases known
  | @register r before d ih =>
    by_cases same : d.name = name
    · subst same
      rw [HostRegistry.register, Dictionary.get?_insert_self] at known
      cases known
      rfl
    · rw [HostRegistry.register, Dictionary.get?_insert_of_ne _ same] at known
      exact ih known
  | addAlias before short full ih => exact ih known

theorem lookup?_of_noAlias (noAlias : ∀ name, r.aliases.get? name = none) (name : String) :
    r.lookup? name = r.classes.get? name := by
  rw [lookup?, noAlias]
  rfl

/-- Without aliases a name meets no target but itself. -/
theorem Reached.meets_iff (reached : r.Reached) (noAlias : ∀ name, r.aliases.get? name = none) :
    r.Meets (r.canonical target) name ↔ name = target := by
  have own (name : String) {c : HostClass} (resolved : r.lookup? name = some c) : c.name = name :=
    reached.name_eq (lookup?_of_noAlias noAlias name ▸ resolved)
  have canonical : r.canonical target = target := by
    unfold HostRegistry.canonical
    cases resolved : r.lookup? target with
    | none => rfl
    | some c => exact own target resolved
  rw [canonical]
  refine ⟨?_, .inl⟩
  rintro (same | ⟨c, resolved, rfl⟩)
  · exact same
  · exact (own name resolved).symm

theorem Reached.isAssignable_iff (reached : r.Reached)
    (noAlias : ∀ name, r.aliases.get? name = none) :
    r.isAssignable source target ↔ Relation.ReflTransGen r.Declares source target := by
  rw [HostRegistry.isAssignable_iff]
  simp only [reached.meets_iff noAlias, exists_eq_right]

/-- The order in which classes declare their interfaces does not matter. -/
theorem isAssignable_eq
    (alike : ∀ name, Option.Rel HostClass.Alike (r.lookup? name) (r'.lookup? name))
    (source target : String) : r.isAssignable source target = r'.isAssignable source target := by
  have canonical : r.canonical target = r'.canonical target := by
    have rel := alike target
    unfold HostRegistry.canonical
    generalize r.lookup? target = found, r'.lookup? target = found' at rel
    cases rel with
    | some alike => exact alike.name
    | none => rfl
  have declares : r.Declares = r'.Declares := by
    funext name parent
    have rel := alike name
    unfold Declares
    generalize r.lookup? name = found, r'.lookup? name = found' at rel
    cases rel with
    | some alike => simp [alike.mem_parents]
    | none => simp
  have meets : r.Meets (r.canonical target) = r'.Meets (r'.canonical target) := by
    funext name
    have rel := alike name
    rw [canonical]
    unfold Meets
    generalize r.lookup? name = found, r'.lookup? name = found' at rel
    cases rel with
    | some alike => simp [alike.name]
    | none => simp
  rw [Bool.eq_iff_iff, isAssignable_iff, isAssignable_iff, declares, meets]

/-- A class can stand for another one exactly when a finite chain of declared names leads from the
one to a name that is the canonical name of the other, or resolves to the class of that name.
Without aliases this is a preorder. It does not hang on the order in which classes declare their
interfaces. -/
theorem assignable_along_chains (r : HostRegistry) :
    (∀ source target, r.isAssignable source target ↔
      ∃ last, Relation.ReflTransGen r.Declares source last ∧ r.Meets (r.canonical target) last) ∧
    (r.Reached → (∀ name, r.aliases.get? name = none) →
      (∀ name, r.isAssignable name name) ∧
        ∀ source middle target, r.isAssignable source middle → r.isAssignable middle target →
          r.isAssignable source target) ∧
    ∀ r' : HostRegistry, (∀ name, Option.Rel HostClass.Alike (r.lookup? name) (r'.lookup? name)) →
      ∀ source target, r.isAssignable source target = r'.isAssignable source target := by
  refine ⟨fun _ _ => isAssignable_iff, fun reached noAlias => ⟨r.isAssignable_refl, ?_⟩,
    fun _ => isAssignable_eq⟩
  intro source middle target first next
  rw [reached.isAssignable_iff noAlias] at first next ⊢
  exact first.trans next

/-- Two classes that extend each other. One implements an interface, and another one that is not
registered. -/
def squares (interfaces : List String) : HostRegistry :=
  ((empty.register { HostClass.ofName "Square" with
    superclass := some "Base", interfaces }).register
    { HostClass.ofName "Base" with superclass := some "Square" }).register (.interface "Shape")

theorem reached_squares (interfaces : List String) : (squares interfaces).Reached :=
  ((Reached.empty.register _).register _).register _

theorem alike_squares (name : String) :
    Option.Rel HostClass.Alike ((squares ["Shape", "Named"]).lookup? name)
      ((squares ["Named", "Shape"]).lookup? name) := by
  change Option.Rel _ (Dictionary.find? name [("Base", _), ("Shape", _), ("Square", _)])
    (Dictionary.find? name [("Base", _), ("Shape", _), ("Square", _)])
  simp only [Dictionary.find?_cons]
  split
  · exact .some ⟨rfl, rfl, .nil⟩
  split
  · exact .some ⟨rfl, rfl, .nil⟩
  split
  · exact .some ⟨rfl, rfl, .swap _ _ _⟩
  · exact .none

theorem assignable_along_chains_squares :
    (squares ["Shape", "Named"]).Reached ∧ (∀ name, (squares ["Shape", "Named"]).aliases.get?
      name = none) ∧
      (∀ name, Option.Rel HostClass.Alike ((squares ["Shape", "Named"]).lookup? name)
        ((squares ["Named", "Shape"]).lookup? name)) ∧
      (squares ["Shape", "Named"]).isAssignable "Base" "Square" ∧
      (squares ["Shape", "Named"]).isAssignable "Square" "Named" ∧
      (squares ["Shape", "Named"]).isAssignable "Base" "Named" ∧
      (squares ["Named", "Shape"]).isAssignable "Base" "Named" := by
  obtain ⟨-, laws, reordered⟩ := assignable_along_chains (squares ["Shape", "Named"])
  have toSquare : (squares ["Shape", "Named"]).isAssignable "Base" "Square" := by decide
  have toNamed : (squares ["Shape", "Named"]).isAssignable "Square" "Named" := by decide
  have along := (laws (reached_squares _) fun _ => rfl).2 "Base" "Square" "Named" toSquare toNamed
  exact ⟨reached_squares _, fun _ => rfl, alike_squares, toSquare, toNamed, along,
    reordered _ alike_squares "Base" "Named" ▸ along⟩

end HostRegistry

end CellScript
