import CellScript.Sort
import Mathlib.Data.List.Forall2
import Mathlib.Data.List.Perm.Basic
import Mathlib.Data.Nat.Basic
import Mathlib.Data.Ordering.Basic
import Mathlib.Order.Compare

/-!
# Sorting by comparisons that may fail

A comparison changes the state, may answer differently from one time to the next and may fail. What
a sort makes of its elements is said by the answers it got: whatever they are, the result has the
same elements, and if they are those of an order, the result is in that order, with equal elements
as they were. The sort ends with the first comparison that fails.

## Main definitions

* `Execution` — how computations run: from a state, to a value or a failure and another state.
* `Asked` — comparisons that were made one after the other.
* `Arranged` — what a sort makes of its elements.
* `Ends`, `Sorts` — how computations that compare elements end, and sorts among them.
* `Inquires` — a computation that does nothing but compare.

## Main statements

* `mergeSorted_inquires`, `sortBy_inquires` — merging and sorting.
* `sortBy_sorts` — how a sort ends.
-/

namespace CellScript

variable {m : Type → Type} [Monad m] {σ ε α β γ : Type}

/-- How computations run. The second of two is run from where the first ends, unless that has
failed. -/
structure Execution (m : Type → Type) [Monad m] (σ ε : Type) where
  run {β : Type} : m β → σ → Except ε β × σ
  run_pure {β : Type} (b : β) (s : σ) : run (pure b) s = (.ok b, s)
  run_bind {β γ : Type} (x : m β) (f : β → m γ) (s : σ) : run (x >>= f) s =
    match run x s with
    | (.ok b, s') => run (f b) s'
    | (.error why, s') => (.error why, s')

/-- A comparison and its verdict: whether the first element goes before the second. -/
structure Verdict (α : Type) where
  first : α
  second : α
  before : Bool

/-- The verdict is that of an order. -/
def Verdict.Agrees (c : Verdict α) (order : α → α → Ordering) : Prop :=
  c.before = (order c.first c.second == .lt)

/-- A total preorder of some elements. -/
structure Orders (order : α → α → Ordering) (items : List α) : Prop where
  swap : ∀ a ∈ items, ∀ b ∈ items, order b a = (order a b).swap
  trans : ∀ a ∈ items, ∀ b ∈ items, ∀ c ∈ items, order a b ≠ .gt → order b c ≠ .gt → order a c ≠ .gt

theorem cmp_ne_gt_iff {k n : Nat} : cmp k n ≠ .gt ↔ k ≤ n := by
  rw [ne_eq, cmp_eq_gt_iff, not_lt]

namespace Orders

variable {order : α → α → Ordering} {items : List α} (h : Orders order items) {a b c : α}
  (ha : a ∈ items) (hb : b ∈ items) (hc : c ∈ items)

include h

theorem subset {more : List α} (sub : more ⊆ items) : Orders order more :=
  ⟨fun a ha b hb => h.swap a (sub ha) b (sub hb),
    fun a ha b hb c hc => h.trans a (sub ha) b (sub hb) c (sub hc)⟩

include ha

theorem self : order a a = .eq := by
  have same := h.swap a ha a ha
  cases value : order a a <;> simp [value] at same ⊢

include hb

theorem eq_symm (eq : order a b = .eq) : order b a = .eq := by
  rw [h.swap a ha b hb, eq, Ordering.swap_eq]

/-- Of two elements of which the second is not before the first, the first is not after the
second. -/
theorem ne_gt_of_not_lt (not : order b a ≠ .lt) : order a b ≠ .gt := by
  rw [h.swap a ha b hb] at not
  exact fun gt => not (by rw [gt, Ordering.swap_gt])

include hc

theorem lt_of_le_of_lt (le : order a b ≠ .gt) (lt : order b c = .lt) : order a c = .lt := by
  by_contra not
  have back : order c a ≠ .gt := h.ne_gt_of_not_lt hc ha not
  exact h.trans c hc a ha b hb back le (by rw [h.swap b hb c hc, lt, Ordering.swap_lt])

theorem lt_of_lt_of_le (lt : order a b = .lt) (le : order b c ≠ .gt) : order a c = .lt := by
  by_contra not
  have back : order c a ≠ .gt := h.ne_gt_of_not_lt hc ha not
  exact h.trans b hb c hc a ha le back (by rw [h.swap a ha b hb, lt, Ordering.swap_lt])

omit ha hb hc

/-- Counting the elements before another one gives it a key. -/
theorem exists_key :
    ∃ key : α → Nat, ∀ a ∈ items, ∀ b ∈ items, order a b = cmp (key a) (key b) := by
  have more : ∀ a ∈ items, ∀ b ∈ items, order a b = .lt →
      items.countP (order · a = .lt) < items.countP (order · b = .lt) := by
    intro a ha b hb less
    obtain ⟨front, back, split⟩ := List.append_of_mem ha
    have rest (part : List α) (sub : part ⊆ items) :
        part.countP (order · a = .lt) ≤ part.countP (order · b = .lt) := by
      refine List.countP_mono_left fun c hc before => ?_
      rw [decide_eq_true_iff] at before ⊢
      exact h.lt_of_lt_of_le (sub hc) ha hb before (less ▸ nofun)
    have one := rest front (by simp [split])
    have two := rest back (by simp [split])
    rw [split, List.countP_append, List.countP_append,
      List.countP_cons_of_neg (by simp [h.self ha]), List.countP_cons_of_pos (by simp [less])]
    omega
  have fewer {a b : α} (ha : a ∈ items) (hb : b ∈ items) (same : order a b = .eq) :
      ∀ c ∈ items, order c a = .lt → order c b = .lt :=
    fun c hc before => h.lt_of_lt_of_le hc ha hb before (same ▸ nofun)
  refine ⟨fun x => items.countP (order · x = .lt), fun a ha b hb => ?_⟩
  cases value : order a b with
  | lt => exact ((cmp_eq_lt_iff _ _).mpr (more a ha b hb value)).symm
  | gt =>
    have back : order b a = .lt := by rw [h.swap a ha b hb, value, Ordering.swap_gt]
    exact ((cmp_eq_gt_iff _ _).mpr (more b hb a ha back)).symm
  | eq =>
    refine ((cmp_eq_eq_iff _ _).mpr (List.countP_congr fun c hc => ?_)).symm
    rw [decide_eq_true_iff, decide_eq_true_iff]
    exact ⟨fewer ha hb value c hc, fewer hb ha (h.eq_symm ha hb value) c hc⟩

/-- Two lists of the same elements in order have equal elements at the same places. -/
theorem forall₂_of_perm {l l' : List α} (inside : l ⊆ items) (perm : l.Perm l')
    (sorted : l.Pairwise (order · · ≠ .gt)) (sorted' : l'.Pairwise (order · · ≠ .gt)) :
    List.Forall₂ (order · · = .eq) l l' := by
  obtain ⟨key, keyed⟩ := h.exists_key
  have inside' : l' ⊆ items := fun a ha => inside (perm.symm.subset ha)
  have line {l : List α} (inside : l ⊆ items) (sorted : l.Pairwise (order · · ≠ .gt)) :
      (l.map key).Pairwise (· ≤ ·) := by
    refine List.pairwise_map.mpr (sorted.imp_of_mem fun {a b} ha hb le => ?_)
    rw [keyed a (inside ha) b (inside hb)] at le
    exact cmp_ne_gt_iff.mp le
  have same : l.map key = l'.map key :=
    (perm.map key).eq_of_pairwise (fun _ _ _ _ => le_antisymm) (line inside sorted)
    (line inside' sorted')
  have keys : List.Forall₂ (fun a b => key a = key b) l l' := by
    rw [← List.forall₂_map_right_iff, ← List.forall₂_map_left_iff (f := key) (R := Eq),
      List.forall₂_eq_eq_eq]
    exact same
  obtain ⟨length, equal⟩ := List.forall₂_iff_zip.mp keys
  refine List.forall₂_iff_zip.mpr ⟨length, fun {a b} pair => ?_⟩
  obtain ⟨ha, hb⟩ := List.of_mem_zip pair
  exact (keyed a (inside ha) b (inside' hb)).trans ((cmp_eq_eq_iff _ _).mpr (equal pair))

end Orders

/-- The order of a key. -/
theorem Orders.of_key (key : α → Nat) (items : List α) :
    Orders (fun a b => cmp (key a) (key b)) items where
  swap a _ b _ := (cmp_swap (key a) (key b)).symm
  trans _ _ _ _ _ _ first next :=
    cmp_ne_gt_iff.mpr ((cmp_ne_gt_iff.mp first).trans (cmp_ne_gt_iff.mp next))

/-! ## What a sort makes of its elements -/

/-- A list is made of the elements of another one. If the verdicts that were asked for are those of
an order of all elements, it is in that order, and elements that are equal in it stand as they
stood. -/
structure Arranged (all : List α) (asked : List (Verdict α)) (items result : List α) : Prop where
  perm : result.Perm items
  ordered : ∀ order, Orders order all → (∀ c ∈ asked, c.Agrees order) →
    result.Pairwise (order · · ≠ .gt)
  stable : ∀ order, Orders order all → (∀ c ∈ asked, c.Agrees order) → ∀ x ∈ all,
    result.filter (order x · = .eq) = items.filter (order x · = .eq)

/-- The same for a list that is merged from two, if these are in order. -/
structure Merged (all : List α) (asked : List (Verdict α)) (xs ys result : List α) : Prop where
  perm : result.Perm (xs ++ ys)
  ordered : ∀ order, Orders order all → (∀ c ∈ asked, c.Agrees order) →
    xs.Pairwise (order · · ≠ .gt) → ys.Pairwise (order · · ≠ .gt) →
    result.Pairwise (order · · ≠ .gt)
  stable : ∀ order, Orders order all → (∀ c ∈ asked, c.Agrees order) →
    xs.Pairwise (order · · ≠ .gt) → ys.Pairwise (order · · ≠ .gt) →
    ∀ x ∈ all, result.filter (order x · = .eq) = (xs ++ ys).filter (order x · = .eq)

section

variable {all xs ys items left right result : List α} {asked asked' asked'' : List (Verdict α)}
  {x y : α}

namespace Merged

theorem nil_left (all ys : List α) : Merged all [] [] ys ys :=
  ⟨.refl ys, fun _ _ _ _ ordered => ordered, fun _ _ _ _ _ _ _ => rfl⟩

theorem nil_right (all xs : List α) : Merged all [] xs [] xs :=
  ⟨by rw [List.append_nil], fun _ _ _ ordered _ => ordered, fun _ _ _ _ _ _ _ => by
    rw [List.append_nil]⟩

/-- The first element of the second list goes first where it is before that of the first list. -/
theorem second (inside : x :: xs ⊆ all) (inside' : y :: ys ⊆ all)
    (rest : Merged all asked (x :: xs) ys result) :
    Merged all (⟨y, x, true⟩ :: asked) (x :: xs) (y :: ys) (y :: result) := by
  have hx : x ∈ all := inside List.mem_cons_self
  have hy : y ∈ all := inside' List.mem_cons_self
  have before : ∀ order, Orders order all → (⟨y, x, true⟩ : Verdict α).Agrees order →
      (x :: xs).Pairwise (order · · ≠ .gt) → ∀ z ∈ x :: xs, order y z = .lt := by
    intro order orders agrees sorted z hz
    have first : order y x = .lt := by simpa [Verdict.Agrees] using agrees
    rcases List.mem_cons.mp hz with rfl | hz'
    · exact first
    · exact orders.lt_of_lt_of_le hy hx (inside hz) first (List.rel_of_pairwise_cons sorted hz')
  refine ⟨?_, fun order orders agree sorted sorted' => ?_,
    fun order orders agree sorted sorted' z hz => ?_⟩
  · exact (rest.perm.cons y).trans List.perm_middle.symm
  · obtain ⟨agrees, agree⟩ := List.forall_mem_cons.mp agree
    refine List.pairwise_cons.mpr
      ⟨fun z hz => ?_, rest.ordered order orders agree sorted sorted'.of_cons⟩
    rcases List.mem_append.mp (rest.perm.subset hz) with hz | hz
    · rw [before order orders agrees sorted z hz]
      exact Ordering.noConfusion
    · exact List.rel_of_pairwise_cons sorted' hz
  · obtain ⟨agrees, agree⟩ := List.forall_mem_cons.mp agree
    have same := rest.stable order orders agree sorted sorted'.of_cons z hz
    by_cases equal : order z y = .eq
    · -- what is equal to the first element of the second list is before the first list
      have none : (x :: xs).filter (order z · = .eq) = [] := by
        refine List.filter_eq_nil_iff.mpr fun w hw => ?_
        have less : order z w = .lt :=
          orders.lt_of_le_of_lt hz hy (inside hw) (equal ▸ Ordering.noConfusion)
            (before order orders agrees sorted w hw)
        simp [less]
      rw [List.filter_append, none, List.nil_append] at same ⊢
      rw [List.filter_cons_of_pos (by simpa using equal),
        List.filter_cons_of_pos (by simpa using equal), same]
    · have skip (zs : List α) : (y :: zs).filter (order z · = .eq) = zs.filter (order z · = .eq) :=
        List.filter_cons_of_neg (by simpa using equal)
      rw [skip, same, List.filter_append, List.filter_append, skip]

/-- Otherwise the first element of the first list does. -/
theorem first (inside : x :: xs ⊆ all) (inside' : y :: ys ⊆ all)
    (rest : Merged all asked xs (y :: ys) result) :
    Merged all (⟨y, x, false⟩ :: asked) (x :: xs) (y :: ys) (x :: result) := by
  have hx : x ∈ all := inside List.mem_cons_self
  have hy : y ∈ all := inside' List.mem_cons_self
  refine ⟨rest.perm.cons x, fun order orders agree sorted sorted' => ?_,
    fun order orders agree sorted sorted' z hz => ?_⟩
  · obtain ⟨agrees, agree⟩ := List.forall_mem_cons.mp agree
    have le : order x y ≠ .gt :=
      orders.ne_gt_of_not_lt hx hy (by simpa [Verdict.Agrees] using agrees)
    refine List.pairwise_cons.mpr
      ⟨fun z hz => ?_, rest.ordered order orders agree sorted.of_cons sorted'⟩
    rcases List.mem_append.mp (rest.perm.subset hz) with hz | hz
    · exact List.rel_of_pairwise_cons sorted hz
    · rcases List.mem_cons.mp hz with rfl | hz'
      · exact le
      · exact orders.trans x hx y hy z (inside' hz) le (List.rel_of_pairwise_cons sorted' hz')
  · obtain ⟨-, agree⟩ := List.forall_mem_cons.mp agree
    rw [List.cons_append, List.filter_cons, List.filter_cons,
      rest.stable order orders agree sorted.of_cons sorted' z hz]

end Merged

namespace Arranged

/-- A list of one element, or of none, is in order. -/
theorem short (few : items.length ≤ 1) : Arranged all [] items items := by
  refine ⟨.refl items, fun _ _ _ => ?_, fun _ _ _ _ _ => rfl⟩
  match items, few with
  | [], _ => exact .nil
  | [a], _ => exact List.pairwise_singleton _ a

/-- Two parts of a list are sorted and then merged. -/
theorem merge (one : Arranged all asked xs left) (two : Arranged all asked' ys right)
    (merged : Merged all asked'' left right result) :
    Arranged all (asked ++ asked' ++ asked'') (xs ++ ys) result := by
  refine ⟨merged.perm.trans (one.perm.append two.perm), fun order orders agree => ?_,
    fun order orders agree z hz => ?_⟩
  all_goals
    obtain ⟨agree, agree''⟩ := List.forall_mem_append.mp agree
    obtain ⟨agree, agree'⟩ := List.forall_mem_append.mp agree
    have sorted := one.ordered order orders agree
    have sorted' := two.ordered order orders agree'
  · exact merged.ordered order orders agree'' sorted sorted'
  · rw [merged.stable order orders agree'' sorted sorted' z hz, List.filter_append,
      List.filter_append, one.stable order orders agree z hz, two.stable order orders agree' z hz]

/-- To sort two elements takes a comparison: no list is in every order of them. -/
theorem asked_of_two {a b : α} (ne : a ≠ b) : ¬Arranged [a, b] [] [a, b] result := by
  classical
  intro arranged
  obtain ⟨c, d, rfl⟩ := List.length_eq_two.mp arranged.perm.length_eq
  have apart : c ≠ d := by simpa using arranged.perm.nodup_iff.mpr (by simpa using ne)
  have line (key : α → Nat) : key c ≤ key d := by
    have sorted := arranged.ordered _ (.of_key key _) fun _ none => absurd none List.not_mem_nil
    exact cmp_ne_gt_iff.mp (List.rel_of_pairwise_cons sorted List.mem_cons_self)
  have up := line fun x => if x = a then 0 else 1
  have down := line fun x => if x = a then 1 else 0
  have ha : a ∈ [c, d] := arranged.perm.symm.subset List.mem_cons_self
  rcases List.mem_pair.mp ha with rfl | rfl
  · simp [apart.symm] at down
  · simp [apart] at up

end Arranged

end

/-! ## Comparisons one after the other -/

section

variable (e : Execution m σ ε) (before : α → α → m Bool) (all : List α)
  {asked asked' : List (Verdict α)} {s s' s'' : σ} {x y : α}

/-- Comparisons of elements that were made one after the other, and the states before and after. -/
inductive Asked : σ → List (Verdict α) → σ → Prop where
  | none (s : σ) : Asked s [] s
  | more {a b : α} {verdict : Bool} {s s' s'' : σ} {asked : List (Verdict α)} (ha : a ∈ all)
      (hb : b ∈ all) (answer : e.run (before a b) s = (.ok verdict, s'))
      (asks : Asked s' asked s'') :
      Asked s (⟨a, b, verdict⟩ :: asked) s''

/-- How a computation ends that compares elements: after the comparisons that it made, with a result
that has to do with their verdicts, or with the first comparison that failed. -/
inductive Ends (post : List (Verdict α) → β → Prop) (s : σ) : Except ε β → σ → Prop where
  | done {asked : List (Verdict α)} {b : β} {s' : σ} (asks : Asked e before all s asked s')
      (result : post asked b) :
      Ends post s (.ok b) s'
  | failed {asked : List (Verdict α)} {a b : α} {why : ε} {s' s'' : σ}
      (asks : Asked e before all s asked s') (ha : a ∈ all) (hb : b ∈ all)
      (failure : e.run (before a b) s' = (.error why, s'')) :
      Ends post s (.error why) s''

/-- How a sort ends. -/
abbrev Sorts (s : σ) (outcome : Except ε (List α)) (s' : σ) : Prop :=
  Ends e before all (fun asked => Arranged all asked all) s outcome s'

/-- A computation that does nothing but compare elements. -/
def Inquires (x : m β) (post : List (Verdict α) → β → Prop) : Prop :=
  ∀ s, Ends e before all post s (e.run x s).1 (e.run x s).2

variable {e before all} {post : List (Verdict α) → β → Prop} {post' : List (Verdict α) → γ → Prop}

theorem Asked.append (first : Asked e before all s asked s')
    (next : Asked e before all s' asked' s'') :
    Asked e before all s (asked ++ asked') s'' := by
  induction first with
  | none => exact next
  | more ha hb answer _ ih => exact .more ha hb answer (ih next)

/-- What comparisons keep stays through all of them. -/
theorem Asked.keeps (asks : Asked e before all s asked s') {P : σ → Prop}
    (keeps : ∀ a ∈ all, ∀ b ∈ all, ∀ s, P s → P (e.run (before a b) s).2) (h : P s) : P s' := by
  induction asks with
  | none => exact h
  | more ha hb answer _ ih =>
    apply ih
    have kept := keeps _ ha _ hb _ h
    rwa [answer] at kept

namespace Ends

variable {outcome : Except ε β}

/-- More comparisons are made before. -/
theorem after (asks : Asked e before all s asked s')
    (ends : Ends e before all (fun next => post (asked ++ next)) s' outcome s'') :
    Ends e before all post s outcome s'' := by
  cases ends with
  | done asks' result => exact .done (asks.append asks') result
  | failed asks' ha hb failure => exact .failed (asks.append asks') ha hb failure

/-- What comparisons keep stays to the end. -/
theorem keeps (ends : Ends e before all post s outcome s') {P : σ → Prop}
    (keeps : ∀ a ∈ all, ∀ b ∈ all, ∀ s, P s → P (e.run (before a b) s).2) (h : P s) : P s' := by
  cases ends with
  | done asks _ => exact asks.keeps keeps h
  | failed asks ha hb failure =>
    have kept := keeps _ ha _ hb _ (asks.keeps keeps h)
    rwa [failure] at kept

/-- A sort of two elements fails if every comparison of them does at the start. -/
theorem refused {a b : α} {outcome : Except ε (List α)} {why : ε}
    (sorts : Sorts e before [a, b] s outcome s') (ne : a ≠ b)
    (refuses : ∀ c ∈ [a, b], ∀ d ∈ [a, b], (e.run (before c d) s).1 = .error why) :
    outcome = .error why := by
  have never {asked s'} (asks : Asked e before [a, b] s asked s') : asked = [] ∧ s' = s := by
    cases asks with
    | none => exact ⟨rfl, rfl⟩
    | more ha hb answer _ => cases (refuses _ ha _ hb).symm.trans (congrArg Prod.fst answer)
  cases sorts with
  | done asks arranged =>
    obtain ⟨rfl, -⟩ := never asks
    exact absurd arranged (Arranged.asked_of_two ne)
  | failed asks ha hb failure =>
    obtain ⟨-, rfl⟩ := never asks
    have same := (refuses _ ha _ hb).symm.trans (congrArg Prod.fst failure)
    exact congrArg Except.error (Except.error.inj same).symm

end Ends

namespace Inquires

theorem pure {b : β} (h : post [] b) : Inquires e before all (pure b : m β) post := by
  intro s
  rw [e.run_pure]
  exact .done (.none s) h

theorem bind {x : m β} {f : β → m γ} (first : Inquires e before all x post)
    (next : ∀ asked b, post asked b → Inquires e before all (f b)
      fun asked' => post' (asked ++ asked')) :
    Inquires e before all (x >>= f) post' := by
  intro s
  have ends := first s
  rw [e.run_bind]
  rcases run : e.run x s with ⟨outcome, s'⟩
  rw [run] at ends
  cases ends with
  | done asks h => exact (next _ _ h s').after asks
  | failed asks ha hb failure => exact .failed asks ha hb failure

theorem ask (hx : x ∈ all) (hy : y ∈ all) :
    Inquires e before all (before x y) fun asked verdict => asked = [⟨x, y, verdict⟩] := by
  intro s
  rcases answer : e.run (before x y) s with ⟨why | verdict, s'⟩
  · exact .failed (.none s) hx hy answer
  · exact .done (.more hx hy answer (.none s')) rfl

theorem mono {post' : List (Verdict α) → β → Prop} {x : m β} (h : Inquires e before all x post)
    (weaker : ∀ asked b, post asked b → post' asked b) : Inquires e before all x post' := by
  intro s
  have ends := h s
  rcases run : e.run x s with ⟨outcome, s'⟩
  rw [run] at ends
  cases ends with
  | done asks result => exact .done asks (weaker _ _ result)
  | failed asks ha hb failure => exact .failed asks ha hb failure

end Inquires

/-! ## Merging and sorting -/

variable (e before all)

theorem mergeSorted_inquires (xs ys : List α) (inside : xs ⊆ all) (inside' : ys ⊆ all) :
    Inquires e before all (mergeSorted before xs ys) fun asked => Merged all asked xs ys := by
  fun_induction mergeSorted before xs ys with
  | case1 ys => exact .pure (.nil_left all ys)
  | case2 xs => exact .pure (.nil_right all xs)
  | case3 x xs y ys later earlier =>
    refine .bind (.ask (inside' List.mem_cons_self) (inside List.mem_cons_self))
      fun asked verdict only => ?_
    subst only
    cases verdict with
    | true =>
      exact .bind (later inside (List.subset_of_cons_subset inside')) fun asked rest merged =>
        .pure (by simpa using merged.second inside inside')
    | false =>
      exact .bind (earlier (List.subset_of_cons_subset inside) inside') fun asked rest merged =>
        .pure (by simpa using merged.first inside inside')

theorem sortBy_inquires (items : List α) (inside : items ⊆ all) :
    Inquires e before all (sortBy before items) fun asked => Arranged all asked items := by
  induction items using sortBy.induct with
  | case1 items few =>
    unfold sortBy
    rw [dif_pos few]
    exact .pure (.short few)
  | case2 items long left right =>
    unfold sortBy
    rw [dif_neg long]
    refine .bind (left fun a ha => inside (List.mem_of_mem_take ha)) fun asked l one => ?_
    refine .bind (right fun a ha => inside (List.mem_of_mem_drop ha)) fun asked' r two => ?_
    have within : l ⊆ all := fun a ha => inside (List.mem_of_mem_take (one.perm.subset ha))
    have within' : r ⊆ all := fun a ha => inside (List.mem_of_mem_drop (two.perm.subset ha))
    refine (mergeSorted_inquires e before all l r within within').mono
      fun asked'' result merged => ?_
    have whole := one.merge two merged
    rwa [List.take_append_drop, List.append_assoc] at whole

/-- A sort makes comparisons and then gives the elements in the order of the verdicts, or it ends
with the first comparison that fails. -/
theorem sortBy_sorts (items : List α) (s : σ) :
    Sorts e before items s (e.run (sortBy before items) s).1 (e.run (sortBy before items) s).2 :=
  sortBy_inquires e before items items (List.Subset.refl items) s

end

end CellScript
