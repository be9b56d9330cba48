import CellScript.Host.Registry
import Mathlib.Data.List.Pairwise
import Mathlib.Data.List.Perm.Basic
import Mathlib.Data.Prod.Lex

/-!
# The choice between overloads

Arguments call the first candidate that fits them exactly. Where there is none they call the
greatest of those that fit at all: by the number of arguments that fit exactly, then by how specific
the parameters are, then by the place among the declarations. Only the last of these is a matter of
order.

## Main definitions

* `HostMethod.Fits`, `FitsExactly` — whether arguments fit a method.
* `HostMethod.rank` — how well they do, greater for better.
* `Chosen` — what the choice among candidates is.

## Main statements

* `resolve_eq_none_iff`, `resolve_eq_some_iff` — when there is a choice, and that it is the one
  described.
* `resolve_perm` — without ties the order of the declarations does not matter.
-/

namespace CellScript

namespace HostMethod

variable (h : Heap) (r : HostRegistry) (args : List Content) (m : HostMethod)

/-- How well each argument fits the parameter in its place. -/
def fit : List Match :=
  (args.zip m.params).map fun (arg, type) => score h r arg type

/-- There is a parameter for each argument, and the argument can stand for it. -/
def Fits : Prop :=
  m.params.length = args.length ∧ .no ∉ m.fit h r args

def FitsExactly : Prop :=
  m.params.length = args.length ∧ ∀ s ∈ m.fit h r args, s = .yes

/-- The number of exact scores and, among methods that have as many, how specific the parameters
are. -/
def rank : ℕ ×ₗ ℕ :=
  toLex ((m.fit h r args).count .yes, m.params.foldl (fun n type => n + type.specificity) 0)

instance : DecidablePred (Fits h r args) := fun _ => inferInstanceAs (Decidable (_ ∧ _))

instance : DecidablePred (FitsExactly h r args) := fun _ => inferInstanceAs (Decidable (_ ∧ _))

variable {h r args m}

theorem FitsExactly.fits (exact : m.FitsExactly h r args) : m.Fits h r args :=
  ⟨exact.1, fun refused => nomatch exact.2 _ refused⟩

theorem scores?_eq :
    m.scores? h r args = if m.Fits h r args then some (m.fit h r args) else none := by
  unfold scores? Fits
  change (if _ then if (m.fit h r args).contains .no then none else some (m.fit h r args)
    else none) = _
  by_cases arity : m.params.length = args.length <;> by_cases refused : .no ∈ m.fit h r args <;>
    simp [arity, refused]

/-- An exact fit is one in which no score is less than that. -/
theorem all_fit_iff (fits : m.Fits h r args) :
    (m.fit h r args).all (· == .yes) ↔ m.FitsExactly h r args := by
  simp [FitsExactly, fits.1]

end HostMethod

open HostMethod

variable {h : Heap} {r : HostRegistry} {args : List Content}
  {candidates candidates' : List HostMethod} {m m' : HostMethod}

/-- What the choice among candidates is. -/
inductive Chosen (h : Heap) (r : HostRegistry) (args : List Content) (candidates : List HostMethod)
    (m : HostMethod) :
    Prop
  /-- the first that fits exactly -/
  | exact {before after : List HostMethod} (place : candidates = before ++ m :: after)
    (fits : m.FitsExactly h r args) (first : ∀ o ∈ before, ¬ o.FitsExactly h r args)
  /-- when none fits exactly, the first of those that fit best -/
  | best {before after : List HostMethod} (place : candidates = before ++ m :: after)
    (inexact : ∀ o ∈ candidates, ¬ o.FitsExactly h r args) (fits : m.Fits h r args)
    (above : ∀ o ∈ before, o.Fits h r args → o.rank h r args < m.rank h r args)
    (greatest : ∀ o ∈ after, o.Fits h r args → o.rank h r args ≤ m.rank h r args)

/-! ## The best of ranked methods -/

theorem betterThan_iff (a b : ℕ × ℕ) : betterThan a b ↔ toLex b < toLex a := by
  rw [Prod.Lex.toLex_lt_toLex]
  simp [betterThan]

/-- The first of the greatest: what is before it is less, and what is after it is not greater. -/
def IsFirstGreatest (ranked : List ((ℕ × ℕ) × HostMethod)) (best : (ℕ × ℕ) × HostMethod) : Prop :=
  ∃ before after, ranked = before ++ best :: after ∧ (∀ o ∈ before, toLex o.1 < toLex best.1) ∧
    ∀ o ∈ after, toLex o.1 ≤ toLex best.1

namespace IsFirstGreatest

variable {ranked : List ((ℕ × ℕ) × HostMethod)} {best first next : (ℕ × ℕ) × HostMethod}

theorem le (greatest : IsFirstGreatest ranked best) : ∀ o ∈ ranked, toLex o.1 ≤ toLex best.1 := by
  obtain ⟨before, after, rfl, above, below⟩ := greatest
  intro o held
  rcases List.mem_append.mp held with early | late
  · exact (above o early).le
  · rcases List.mem_cons.mp late with rfl | late
    · exact le_rfl
    · exact below o late

/-- What is less than the best may stand in front of it. -/
theorem cons (greatest : IsFirstGreatest ranked best) (less : toLex first.1 < toLex best.1) :
    IsFirstGreatest (first :: ranked) best := by
  obtain ⟨before, after, rfl, above, below⟩ := greatest
  refine ⟨first :: before, after, rfl, fun o held => ?_, below⟩
  rcases List.mem_cons.mp held with rfl | held
  · exact less
  · exact above o held

/-- What is not greater than the head may be put behind it. -/
theorem insert (greatest : IsFirstGreatest (first :: ranked) best)
    (notGreater : toLex next.1 ≤ toLex first.1) :
    IsFirstGreatest (first :: next :: ranked) best := by
  obtain ⟨before, after, place, above, below⟩ := greatest
  cases before with
  | nil =>
    obtain ⟨rfl, rfl⟩ := List.cons.inj place
    refine ⟨[], next :: ranked, rfl, nofun, fun o held => ?_⟩
    rcases List.mem_cons.mp held with rfl | held
    · exact notGreater
    · exact below o held
  | cons head before =>
    obtain ⟨rfl, rfl⟩ := List.cons.inj place
    have less : toLex first.1 < toLex best.1 := above first List.mem_cons_self
    refine ⟨first :: next :: before, after, rfl, fun o held => ?_, below⟩
    rcases List.mem_cons.mp held with rfl | held
    · exact less
    rcases List.mem_cons.mp held with rfl | held
    · exact notGreater.trans_lt less
    · exact above o (List.mem_cons_of_mem _ held)

end IsFirstGreatest

/-- Going over a list and keeping what is better leads to the first of the greatest. -/
theorem isFirstGreatest_foldl (rest : List ((ℕ × ℕ) × HostMethod)) (first : (ℕ × ℕ) × HostMethod) :
    IsFirstGreatest (first :: rest)
      (rest.foldl (fun best next => if betterThan next.1 best.1 then next else best) first) := by
  induction rest generalizing first with
  | nil => exact ⟨[], [], rfl, nofun, nofun⟩
  | cons next rest ih =>
    rw [List.foldl_cons]
    split
    case isTrue better =>
      have less : toLex first.1 < toLex next.1 := (betterThan_iff _ _).mp better
      exact (ih next).cons (less.trans_le ((ih next).le next List.mem_cons_self))
    case isFalse notBetter =>
      rw [betterThan_iff, not_lt] at notBetter
      exact (ih first).insert notBetter

theorem best?_eq_none_iff {ranked : List ((ℕ × ℕ) × HostMethod)} :
    best? ranked = none ↔ ranked = [] := by
  cases ranked <;> simp [best?]

theorem isFirstGreatest_of_best? {ranked : List ((ℕ × ℕ) × HostMethod)}
    (found : best? ranked = some m) :
    ∃ rank, IsFirstGreatest ranked (rank, m) := by
  cases ranked with
  | nil => cases found
  | cons first rest =>
    obtain rfl := Option.some_inj.mp found
    exact ⟨_, isFirstGreatest_foldl rest first⟩

/-! ## The choice -/

/-- The candidates that arguments fit, with their ranks. -/
def rankedFits (h : Heap) (r : HostRegistry) (args : List Content) (candidates : List HostMethod) :
    List ((ℕ × ℕ) × HostMethod) :=
  (candidates.filter (·.Fits h r args)).map fun m => (ofLex (m.rank h r args), m)

theorem filterMap_scores? (candidates : List HostMethod) :
    candidates.filterMap (fun m => (m.scores? h r args).map (m, ·)) =
      (candidates.filter (·.Fits h r args)).map fun m => (m, m.fit h r args) := by
  induction candidates with
  | nil => rfl
  | cons m rest ih =>
    rw [List.filterMap_cons, scores?_eq]
    by_cases fits : m.Fits h r args <;> simp [fits, ih]

/-- A first choice for exact fits, and another one for the rest. -/
theorem resolve_eq (candidates : List HostMethod) :
    resolve h r candidates args =
      (candidates.find? (·.FitsExactly h r args)).or (best? (rankedFits h r args candidates)) := by
  have exact :
      (candidates.filter (·.Fits h r args)).find? (fun m => (m.fit h r args).all (· == .yes)) =
      candidates.find? (·.FitsExactly h r args) := by
    rw [List.find?_filter]
    refine congrArg (candidates.find? ·) (funext fun m => ?_)
    by_cases fits : m.Fits h r args
    · simp [fits, ← all_fit_iff fits]
    · simp [fits, mt FitsExactly.fits fits]
  have ranked : rankedFits h r args candidates = ((candidates.filter (·.Fits h r args)).map fun m =>
      (m, m.fit h r args)).map fun (m, scores) =>
        ((scores.count .yes, m.params.foldl (fun n type => n + type.specificity) 0), m) := by
    rw [List.map_map]
    rfl
  unfold resolve
  dsimp only
  rw [ranked, filterMap_scores?, List.find?_map, ← exact]
  simp only [Function.comp_def]
  cases (candidates.filter (·.Fits h r args)).find? fun m => (m.fit h r args).all (· == .yes) <;>
    rfl

/-- There is no choice when the arguments fit no candidate. -/
theorem resolve_eq_none_iff :
    resolve h r candidates args = none ↔ ∀ m ∈ candidates, ¬ m.Fits h r args := by
  rw [resolve_eq, Option.or_eq_none_iff, best?_eq_none_iff, rankedFits, List.map_eq_nil_iff,
    List.filter_eq_nil_iff, List.find?_eq_none]
  simp only [decide_eq_true_eq]
  exact and_iff_right_of_imp fun none m held exact => none m held exact.fits

theorem chosen_of_resolve (found : resolve h r candidates args = some m) :
    Chosen h r args candidates m := by
  rw [resolve_eq, Option.or_eq_some_iff] at found
  rcases found with first | ⟨inexact, best⟩
  · obtain ⟨fits, before, after, place, first⟩ := List.find?_eq_some_iff_append.mp first
    exact .exact place (of_decide_eq_true fits) (by simpa using first)
  · obtain ⟨rank, rankedBefore, rankedAfter, place, above, below⟩ := isFirstGreatest_of_best? best
    obtain ⟨before', rest, split, rfl, rest_eq⟩ := List.map_eq_append_iff.mp place
    obtain ⟨m', after', rfl, same, rfl⟩ := List.map_eq_cons_iff.mp rest_eq
    obtain ⟨rfl, rfl⟩ := Prod.mk.inj same
    obtain ⟨before, rest, rfl, rfl, rest_eq⟩ := List.filter_eq_append_iff.mp split
    obtain ⟨skipped, after, rfl, unfit, fits, rfl⟩ := List.filter_eq_cons_iff.mp rest_eq
    have place : before ++ (skipped ++ m' :: after) = (before ++ skipped) ++ m' :: after := by simp
    refine .best place (by simpa using List.find?_eq_none.mp inexact) (of_decide_eq_true fits)
      (fun o held fitsToo => ?_) fun o held fitsToo => ?_
    · rcases List.mem_append.mp held with early | late
      · exact above _ (List.mem_map_of_mem (List.mem_filter.mpr ⟨early, decide_eq_true fitsToo⟩))
      · exact absurd (decide_eq_true fitsToo) (unfit o late)
    · exact below _ (List.mem_map_of_mem (List.mem_filter.mpr ⟨held, decide_eq_true fitsToo⟩))

/-- Two places in a list are the same, or one is before the other. -/
theorem place_cases {α : Type} {a b : α} {before after before' after' : List α}
    (same : before ++ a :: after = before' ++ b :: after') :
    a = b ∨ (a ∈ before' ∧ b ∈ after) ∨ (b ∈ before ∧ a ∈ after') := by
  rcases List.append_eq_append_iff.mp same with ⟨middle, rfl, rest⟩ | ⟨middle, rfl, rest⟩
  all_goals
    cases middle with
    | nil => exact .inl (by simp_all)
    | cons first middle =>
      obtain ⟨rfl, rfl⟩ := List.cons.inj rest
      simp

namespace Chosen

theorem fits (chosen : Chosen h r args candidates m) : m.Fits h r args := by
  cases chosen with
  | exact place exact first => exact exact.fits
  | best place inexact fits => exact fits

theorem mem (chosen : Chosen h r args candidates m) : m ∈ candidates := by
  cases chosen with
  | exact place | best place => exact place ▸ List.mem_append_right _ List.mem_cons_self

/-- There is one choice. -/
theorem unique (chosen : Chosen h r args candidates m) (chosen' : Chosen h r args candidates m') :
    m = m' := by
  have held := chosen.mem
  have held' := chosen'.mem
  cases chosen with
  | exact place exact first =>
    cases chosen' with
    | exact place' exact' first' =>
      rcases place_cases (place.symm.trans place') with same | ⟨early, -⟩ | ⟨early, -⟩
      · exact same
      · exact absurd exact (first' m early)
      · exact absurd exact' (first m' early)
    | best place' inexact => exact absurd exact (inexact m held)
  | best place inexact fits above greatest =>
    cases chosen' with
    | exact place' exact' first' => exact absurd exact' (inexact m' held')
    | best place' inexact' fits' above' greatest' =>
      rcases place_cases (place.symm.trans place') with same | ⟨early, late⟩ | ⟨early, late⟩
      · exact same
      · exact absurd (greatest m' late fits') (above' m early fits).not_ge
      · exact absurd (greatest' m late fits) (above m' early fits').not_ge

/-- A choice that is not exact is of a greatest rank. -/
theorem rank_le (chosen : Chosen h r args candidates m) (inexact : ¬ m.FitsExactly h r args) :
    ∀ o ∈ candidates, o.Fits h r args → o.rank h r args ≤ m.rank h r args := by
  cases chosen with
  | exact place exact first => exact absurd exact inexact
  | best place none fits above greatest =>
    intro o held fitsToo
    rcases List.mem_append.mp (place ▸ held) with early | late
    · exact (above o early fitsToo).le
    · rcases List.mem_cons.mp late with rfl | late
      · exact le_rfl
      · exact greatest o late fitsToo

/-- Where a candidate fits exactly, so does the choice. -/
theorem fitsExactly (chosen : Chosen h r args candidates m) (held : m' ∈ candidates)
    (exact : m'.FitsExactly h r args) : m.FitsExactly h r args := by
  cases chosen with
  | exact place exact first => exact exact
  | best place inexact => exact absurd exact (inexact m' held)

/-- What is declared before the choice has other parameters. -/
theorem exists_place (chosen : Chosen h r args candidates m) :
    ∃ before after, candidates = before ++ m :: after ∧ ∀ o ∈ before, o.params ≠ m.params := by
  cases chosen with
  | @exact before after place exact first =>
    refine ⟨before, after, place, fun o early same => first o early ?_⟩
    unfold FitsExactly fit
    rwa [same]
  | @best before after place inexact fits above greatest =>
    refine ⟨before, after, place, fun o early same => ?_⟩
    have fitsToo : o.Fits h r args := by
      unfold Fits fit
      rwa [same]
    have tie : o.rank h r args = m.rank h r args := by
      unfold rank fit
      rw [same]
    exact (above o early fitsToo).ne tie

end Chosen

theorem resolve_eq_some_iff :
    resolve h r candidates args = some m ↔ Chosen h r args candidates m := by
  refine ⟨chosen_of_resolve, fun chosen => ?_⟩
  cases found : resolve h r candidates args with
  | none => exact absurd chosen.fits (resolve_eq_none_iff.mp found m chosen.mem)
  | some m' => rw [(chosen_of_resolve found).unique chosen]

/-- Where at most one candidate fits exactly and no two that fit are of one rank, the order of the
declarations does not matter. -/
theorem resolve_perm (reordered : candidates.Perm candidates')
    (oneExact : candidates.Pairwise fun a b => ¬ (a.FitsExactly h r args ∧ b.FitsExactly h r args))
    (noTie : candidates.Pairwise fun a b => a.Fits h r args → b.Fits h r args →
      a.rank h r args ≠ b.rank h r args) :
    resolve h r candidates args = resolve h r candidates' args := by
  cases found' : resolve h r candidates' args with
  | none =>
    rw [resolve_eq_none_iff] at found' ⊢
    exact fun m held => found' m (reordered.subset held)
  | some m' =>
    have chosen' := chosen_of_resolve found'
    have held' : m' ∈ candidates := reordered.symm.subset chosen'.mem
    cases found : resolve h r candidates args with
    | none => exact absurd chosen'.fits (resolve_eq_none_iff.mp found m' held')
    | some m =>
      have chosen := chosen_of_resolve found
      have held : m ∈ candidates' := reordered.subset chosen.mem
      by_contra apart
      replace apart : m ≠ m' := fun same => apart (same ▸ rfl)
      by_cases exact : m.FitsExactly h r args
      · have symm :
            Std.Symm fun a b : HostMethod => ¬ (a.FitsExactly h r args ∧ b.FitsExactly h r args) :=
          ⟨fun a b none both => none both.symm⟩
        exact oneExact.forall chosen.mem held' apart ⟨exact, chosen'.fitsExactly held exact⟩
      · have inexact' : ¬ m'.FitsExactly h r args := mt (chosen.fitsExactly held') exact
        have symm : Std.Symm fun a b : HostMethod =>
            a.Fits h r args → b.Fits h r args → a.rank h r args ≠ b.rank h r args :=
          ⟨fun a b apart fits fits' => (apart fits' fits).symm⟩
        exact noTie.forall chosen.mem held' apart chosen.fits chosen'.fits
          (le_antisymm (chosen'.rank_le inexact' m held chosen.fits)
            (chosen.rank_le exact m' held' chosen'.fits))

end CellScript
