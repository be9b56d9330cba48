import CellScript.Proofs.Host.Overload
import CellScript.Proofs.Map.Entries

/-!
# Methods along the superclasses

A class has the methods that it declares itself and then those of each superclass in turn. The
superclasses are found by name, one after the other, until a class names none, names one that is not
registered, or names one for the second time. Every other name is followed, so that a bound on the
search cuts nothing off.

## Main definitions

* `HostRegistry.Climbs` — the superclasses that a search comes to.

## Main statements

* `HostRegistry.methods_eq` — the methods of a class are those of the classes on its way up.
* `HostRegistry.resolve_nearest` — the choice is never inherited past a class that declares the same
  parameters.
* `HostRegistry.resolution_optimal` — what is chosen among overloads.
-/

namespace CellScript.HostRegistry

variable {h : Heap} {r : HostRegistry} {args : List Content} {c : HostClass} {m : HostMethod}
  {name : String} {arity n : Nat} {isStatic : Bool} {seen : List String} {parent : Option String}

/-- The superclasses that a search climbs through from the name of one, with the names that it has
followed before. -/
inductive Climbs (r : HostRegistry) : List String → Option String → List HostClass → Prop
  | top (seen : List String) : Climbs r seen none []
  | again {seen : List String} {parent : String} (followed : parent ∈ seen) :
    Climbs r seen (some parent) []
  | unknown {seen : List String} {parent : String} (new : parent ∉ seen)
    (missing : r.lookup? parent = none) :
    Climbs r seen (some parent) []
  | up {seen : List String} {parent : String} {c : HostClass} {chain : List HostClass}
    (new : parent ∉ seen) (found : r.lookup? parent = some c)
    (rest : Climbs r (parent :: seen) c.superclass chain) :
    Climbs r seen (some parent) (c :: chain)

/-- The names that registered classes extend. -/
def extended (r : HostRegistry) : List String :=
  r.classes.values.filterMap (·.superclass)

theorem mem_extended {key : String} (found : r.lookup? key = some c) {parent : String}
    (named : c.superclass = some parent) : parent ∈ r.extended :=
  List.mem_filterMap.mpr ⟨c, List.mem_map_of_mem (Dictionary.mem_of_find? found), named⟩

/-- The bound of a search is greater than the number of all that classes give rise to, when none
gives rise to more than its interfaces and one thing else. -/
theorem length_flatMap_lt {β : Type} (r : HostRegistry) {f : HostClass → List β}
    (few : ∀ c, (f c).length ≤ c.interfaces.length + 1) :
    (r.classes.values.flatMap f).length < r.nameBound := by
  have summed (classes : List HostClass) (n : Nat) :
      n + (classes.flatMap f).length ≤ classes.foldl (fun n c => n + c.interfaces.length + 1)
        n := by
    induction classes generalizing n with
    | nil => exact le_rfl
    | cons c classes ih =>
      have later := ih (n + c.interfaces.length + 1)
      have here := few c
      rw [List.flatMap_cons, List.foldl_cons, List.length_append]
      omega
  have bound := summed r.classes.values 1
  unfold nameBound
  omega

theorem length_values_lt (r : HostRegistry) : r.classes.values.length < r.nameBound := by
  have bound := r.length_flatMap_lt (f := fun c => [c]) fun c => Nat.le_add_left 1 _
  rwa [List.flatMap_singleton'] at bound

theorem length_extended_lt (r : HostRegistry) : r.extended.length < r.nameBound :=
  (List.length_filterMap_le _ _).trans_lt r.length_values_lt

/-- A name that is followed is no longer among those that are left. -/
theorem length_left_lt {names : List String} {parent : String} (held : parent ∈ names)
    (new : parent ∉ seen) :
    (names.filter (· ∉ parent :: seen)).length < (names.filter (· ∉ seen)).length := by
  have fewer :
      names.filter (· ∉ parent :: seen) = (names.filter (· ∉ seen)).filter (· ≠ parent) := by
    rw [List.filter_filter]
    exact List.filter_congr fun other _ => by simp
  rw [fewer]
  refine List.length_filter_lt_length_iff_exists.mpr
    ⟨parent, List.mem_filter.mpr ⟨held, by simpa using new⟩, by simp⟩

/-- A search with a bound above the number of names that are left goes all the way up. -/
theorem inheritedMethods_eq (names : List String) (closed : ∀ key c parent, r.lookup? key = some c →
      c.superclass = some parent → parent ∈ names)
    (start : ∀ p, parent = some p → p ∈ names) (bound : (names.filter (· ∉ seen)).length < n) :
    ∃ chain, r.Climbs seen parent chain ∧
      r.inheritedMethods name arity isStatic n seen parent =
        chain.flatMap (·.methodsNamed name arity isStatic) := by
  induction n generalizing seen parent with
  | zero => exact absurd bound (Nat.not_lt_zero _)
  | succ n ih =>
    cases parent with
    | none => exact ⟨[], .top seen, rfl⟩
    | some key =>
      rw [inheritedMethods]
      by_cases followed : key ∈ seen
      · exact ⟨[], .again followed, if_pos (List.contains_iff_mem.mpr followed)⟩
      rw [if_neg (mt List.contains_iff_mem.mp followed)]
      cases found : r.lookup? key with
      | none => exact ⟨[], .unknown followed found, rfl⟩
      | some c =>
        have less := length_left_lt (start key rfl) followed
        obtain ⟨chain, climbs, methods⟩ :=
            ih (closed key c · found) (Nat.lt_of_lt_of_le less (Nat.le_of_lt_succ bound))
        refine ⟨c :: chain, .up followed found climbs, ?_⟩
        rw [List.flatMap_cons, ← methods]

/-- The methods of a class are those that it declares, and then those of the classes above it. -/
theorem methods_eq (r : HostRegistry) (c : HostClass) (name : String) (arity : Nat)
    (isStatic : Bool) :
    ∃ chain, r.Climbs [c.name] c.superclass chain ∧
      r.methods c name arity isStatic = (c :: chain).flatMap
        (·.methodsNamed name arity isStatic) := by
  have length : (c.superclass.toList ++ r.extended).length ≤ r.nameBound := by
    have few := r.length_extended_lt
    cases c.superclass <;> simp <;> omega
  obtain ⟨chain, climbs, methods⟩ := inheritedMethods_eq (c.superclass.toList ++ r.extended)
    (fun key c parent found named => List.mem_append_right _ (mem_extended found named))
    (fun p named => List.mem_append_left _ (Option.mem_toList.mpr named))
    (Nat.lt_succ_of_le ((List.length_filter_le _ _).trans length))
  refine ⟨chain, climbs, ?_⟩
  rw [HostRegistry.methods, methods, List.flatMap_cons]

/-- A place in a list of lists is a place in one of them. -/
theorem exists_of_flatMap_eq {α β : Type} {f : α → List β} {b : β} {before after : List β}
    (as : List α) (place : as.flatMap f = before ++ b :: after) :
    ∃ nearer a farther, as = nearer ++ a :: farther ∧ b ∈ f a ∧ ∀ near ∈ nearer,
    f near ⊆ before := by
  induction as generalizing before with
  | nil => exact absurd place (by simp)
  | cons first as ih =>
    rw [List.flatMap_cons] at place
    rcases List.append_eq_append_iff.mp place with ⟨middle, rfl, rest⟩ | ⟨middle, own, rest⟩
    · obtain ⟨nearer, a, farther, rfl, held, early⟩ := ih rest
      refine ⟨first :: nearer, a, farther, rfl, held, fun near among => ?_⟩
      rcases List.mem_cons.mp among with rfl | among
      · exact List.subset_append_left _ _
      · exact List.Subset.trans (early near among) (List.subset_append_right _ _)
    · cases middle with
      | nil =>
        have later : as.flatMap f = [] ++ b :: after := rest.symm
        obtain ⟨nearer, a, farther, rfl, held, early⟩ := ih later
        refine ⟨first :: nearer, a, farther, rfl, held, fun near among => ?_⟩
        rcases List.mem_cons.mp among with rfl | among
        · exact own ▸ by simp
        · exact List.Subset.trans (early near among) (List.nil_subset _)
      | cons head middle =>
        obtain ⟨rfl, -⟩ := List.cons.inj rest
        exact ⟨[], first, as, rfl, own ▸ by simp, nofun⟩

/-- The choice among the methods of classes in a row is not one of a class that stands behind
another one with a method of the same parameters. -/
theorem resolve_nearest {classes : List HostClass}
    (chosen : resolve h r (classes.flatMap (·.methodsNamed name arity isStatic)) args = some m) :
    ∃ nearer d farther, classes = nearer ++ d :: farther ∧ m ∈ d.methodsNamed name arity isStatic ∧
      ∀ e ∈ nearer, ∀ o ∈ e.methodsNamed name arity isStatic, o.params ≠ m.params := by
  obtain ⟨before, after, place, other⟩ := (chosen_of_resolve chosen).exists_place
  obtain ⟨nearer, d, farther, rfl, held, early⟩ := exists_of_flatMap_eq classes place
  exact ⟨nearer, d, farther, rfl, held, fun e near o declared => other o (early e near declared)⟩

/-- Nothing is chosen when each candidate takes another number of arguments or refuses one; what is
chosen is the first candidate that fits exactly, and else the first of the best. Without ties the
order of the declarations does not matter, and among the methods of a class the choice is never
inherited past a class that declares the same parameters. -/
theorem resolution_optimal (h : Heap) (r : HostRegistry) (args : List Content) :
    (∀ candidates, resolve h r candidates args = none ↔
      ∀ m ∈ candidates, m.params.length ≠ args.length ∨ .no ∈ m.fit h r args) ∧
    (∀ candidates m, resolve h r candidates args = some m ↔ Chosen h r args candidates m) ∧
    (∀ candidates candidates', candidates.Perm candidates' →
      (candidates.Pairwise fun a b => ¬ (a.FitsExactly h r args ∧ b.FitsExactly h r args)) →
      (candidates.Pairwise fun a b => a.Fits h r args → b.Fits h r args →
        a.rank h r args ≠ b.rank h r args) →
      resolve h r candidates args = resolve h r candidates' args) ∧
    ∀ c name arity isStatic, ∃ chain, r.Climbs [c.name] c.superclass chain ∧
      r.methods c name arity isStatic = (c :: chain).flatMap (·.methodsNamed name arity isStatic) ∧
      ∀ m, resolve h r (r.methods c name arity isStatic) args = some m →
        ∃ nearer d farther, c :: chain = nearer ++ d :: farther ∧
          m ∈ d.methodsNamed name arity isStatic ∧
          ∀ e ∈ nearer, ∀ o ∈ e.methodsNamed name arity isStatic, o.params ≠ m.params := by
  refine ⟨fun candidates => ?_, fun _ _ => resolve_eq_some_iff, fun _ _ => resolve_perm,
    fun c name arity isStatic => ?_⟩
  · rw [resolve_eq_none_iff]
    refine forall₂_congr fun m _ => ?_
    rw [HostMethod.Fits, not_and_or, not_not]
  · obtain ⟨chain, climbs, methods⟩ := r.methods_eq c name arity isStatic
    exact ⟨chain, climbs, methods, fun m chosen => resolve_nearest (methods ▸ chosen)⟩

def pickObject : HostMethod :=
  ⟨"pick", [.object], .text, true, .label "object"⟩

def pickText : HostMethod :=
  ⟨"pick", [.text], .text, true, .label "string"⟩

/-- A text calls the overload that takes a text, in either order of declaration. -/
theorem resolution_optimal_text :
    resolve default .empty [pickObject, pickText] [.text "x"] = some pickText ∧
      resolve default .empty [pickText, pickObject] [.text "x"] = some pickText := by
  obtain ⟨-, chosen, reordered, -⟩ := resolution_optimal default .empty [.text "x"]
  have place : [pickObject, pickText] = [pickObject] ++ pickText :: [] := rfl
  have last := (chosen _ _).mpr (.exact place (by decide) (by decide))
  refine ⟨last, (reordered _ _ (List.Perm.swap _ _ []) ?_ ?_).symm.trans last⟩
  · decide
  · decide

end CellScript.HostRegistry
