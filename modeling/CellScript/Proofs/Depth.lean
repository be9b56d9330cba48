import Mathlib.Data.List.Chain
import Mathlib.Data.List.Nodup
import Mathlib.Data.List.Perm.Subperm
import Mathlib.Logic.Relation

/-!
# How deep a relation goes

A relation that never comes back to where it was goes no deeper than there are places from which it
goes on. One that comes back goes deeper than any bound.

## Main definitions

* `Within` — there are less than `n` steps from a place.

## Main statements

* `within_iff` — when the number of places bounds the steps.
-/

namespace CellScript

open Relation

variable {α : Type} {R : α → α → Prop} {a b : α} {n : ℕ}

/-- No path from a place has `n` steps. -/
def Within (R : α → α → Prop) : ℕ → α → Prop
  | 0, _ => False
  | n + 1, a => ∀ b, R a b → Within R n b

theorem Within.mono {m : ℕ} (within : Within R n a) (le : n ≤ m) : Within R m a := by
  induction n generalizing a m with
  | zero => exact within.elim
  | succ n ih =>
    obtain ⟨m, rfl⟩ := Nat.exists_eq_add_of_le' (Nat.one_le_of_lt le)
    exact fun b step => ih (within b step) (Nat.le_of_succ_le_succ le)

/-- Where there is a longer path, it can be listed. -/
theorem exists_path (deep : ¬ Within R n a) :
    ∃ path : List α, path.length = n ∧ (a :: path).IsChain R := by
  induction n generalizing a with
  | zero => exact ⟨[], rfl, .singleton a⟩
  | succ n ih =>
    obtain ⟨b, step, deeper⟩ := by simpa only [Within, not_forall] using deep
    obtain ⟨path, length, chain⟩ := ih deeper
    exact ⟨b :: path, congrArg (· + 1) length, .cons_cons step chain⟩

/-- All places of a path but the last have a step that leads on. -/
theorem exists_step_of_mem_dropLast {path : List α} (chain : path.IsChain R)
    (held : b ∈ path.dropLast) :
    ∃ c, R b c := by
  induction path with
  | nil => cases held
  | cons first path ih =>
    cases path with
    | nil => cases held
    | cons next path =>
      rw [List.isChain_cons_cons] at chain
      rcases List.mem_cons.mp held with rfl | held
      · exact ⟨next, chain.1⟩
      · exact ih chain.2 held

/-- A path along which nothing comes back takes a step from each place once. -/
theorem within_of_acyclic (all : List α) (inside : ∀ b c, ReflTransGen R a b → R b c → b ∈ all)
    (acyclic : ∀ b, ReflTransGen R a b → ¬ TransGen R b b) (bound : all.length < n) :
    Within R n a := by
  by_contra deep
  obtain ⟨path, length, chain⟩ := exists_path deep
  have pairs : (a :: path).Pairwise (TransGen R) := (chain.imp fun _ _ => TransGen.single).pairwise
  have reached : ∀ b ∈ a :: path, ReflTransGen R a b :=
    List.forall_mem_cons.mpr
      ⟨.refl, fun b held => (List.rel_of_pairwise_cons pairs held).to_reflTransGen⟩
  have nodup : (a :: path).Nodup :=
    pairs.imp_of_mem fun {b c} held _ leads same =>
      acyclic b (reached b held) (by rwa [← same] at leads)
  have places : (a :: path).dropLast ⊆ all := fun b held => by
    obtain ⟨c, step⟩ := exists_step_of_mem_dropLast chain held
    exact inside b c (reached b (List.dropLast_subset _ held)) step
  have few := ((nodup.sublist (List.dropLast_sublist _)).subperm places).length_le
  rw [List.length_dropLast, List.length_cons, length] at few
  omega

/-- Where a path comes back, it goes on without end. -/
theorem not_within_of_cycle (reach : ReflTransGen R a b) (cycle : TransGen R b b) :
    ¬ Within R n a := by
  induction n generalizing a with
  | zero => exact id
  | succ n ih =>
    intro within
    rcases reach.cases_head with rfl | ⟨c, step, rest⟩
    · obtain ⟨c, step, rest⟩ := TransGen.head'_iff.mp cycle
      exact ih rest (within c step)
    · exact ih rest (within c step)

/-- With a bound above the number of places that have a step, a path is shorter unless it comes back
to a place. -/
theorem within_iff (all : List α) (inside : ∀ b c, ReflTransGen R a b → R b c → b ∈ all)
    (bound : all.length < n) :
    Within R n a ↔ ∀ b, ReflTransGen R a b → ¬ TransGen R b b :=
  ⟨fun within _ reach cycle => not_within_of_cycle reach cycle within,
    fun acyclic => within_of_acyclic all inside acyclic bound⟩

end CellScript
