import CellScript.Text.Search
import Mathlib.Data.List.Forall2

/-!
# Wildcard patterns and cuts of a text

A pattern fits a text if the text can be cut into consecutive pieces, one for each character of the
pattern in turn. Going back to the last star only loses none of these cuts: whatever follows a star
can be found further on from wherever the earlier stars have taken the least.

## Main definitions

* `Wildcard.Stands` — the pieces of a text that a character of a pattern stands for.
* `Wildcard.Cuts` — a text can be cut into pieces as a pattern says.

## Main statements

* `Wildcard.ends_attempt`, `Wildcard.ends_seek` — what the outcome of an attempt says about the cuts
  of a text.
* `Wildcard.fits_iff_cuts` — a pattern fits exactly the texts that can be cut as it says.
-/

namespace CellScript.Text.Wildcard

variable {p c : Char} {pattern text text' piece : List Char}

/-- A character of a pattern stands for a piece of a text: a star for any run of characters, a
question mark for any one character, all else for itself. -/
def Stands (p : Char) (piece : List Char) : Prop :=
  p = '*' ∨ ∃ c, piece = [c] ∧ (p = '?' ∨ p = c)

/-- A text can be cut into consecutive pieces for which the characters of a pattern stand in
turn. -/
def Cuts (pattern text : List Char) : Prop :=
  ∃ pieces, List.Forall₂ Stands pattern pieces ∧ pieces.flatten = text

/-! ## Cuts by the first character of the pattern -/

theorem cuts_nil_iff : Cuts [] text ↔ text = [] := by
  simp [Cuts, List.forall₂_nil_left_iff, eq_comm]

theorem cuts_cons_iff : Cuts (p :: pattern) text ↔
    ∃ piece rest, text = piece ++ rest ∧ Stands p piece ∧ Cuts pattern rest := by
  simp only [Cuts, List.forall₂_cons_left_iff]
  constructor
  · rintro ⟨_, ⟨piece, pieces, first, others, rfl⟩, rfl⟩
    exact ⟨piece, pieces.flatten, rfl, first, pieces, others, rfl⟩
  · rintro ⟨piece, _, rfl, first, pieces, others, rfl⟩
    exact ⟨piece :: pieces, ⟨piece, pieces, first, others, rfl⟩, rfl⟩

/-- A star takes any run of characters, so what follows it has to be found at some place further
on. -/
theorem cuts_star_iff : Cuts ('*' :: pattern) text ↔ ∃ rest, rest <:+ text ∧ Cuts pattern rest := by
  rw [cuts_cons_iff]
  constructor
  · rintro ⟨piece, rest, rfl, -, cut⟩
    exact ⟨rest, List.suffix_append piece rest, cut⟩
  · rintro ⟨rest, ⟨piece, rfl⟩, cut⟩
    exact ⟨piece, rest, rfl, .inl rfl, cut⟩

theorem cuts_cons_of_ne (h : p ≠ '*') : Cuts (p :: pattern) text ↔
    ∃ c rest, text = c :: rest ∧ (p = '?' ∨ p = c) ∧ Cuts pattern rest := by
  rw [cuts_cons_iff]
  constructor
  · rintro ⟨piece, rest, rfl, star | ⟨c, rfl, same⟩, cut⟩
    · exact absurd star h
    · exact ⟨c, rest, rfl, same, cut⟩
  · rintro ⟨c, rest, rfl, same, cut⟩
    exact ⟨[c], rest, rfl, .inr ⟨c, rfl, same⟩, cut⟩

/-- Only stars stand for nothing. -/
theorem cuts_empty_iff : Cuts pattern [] ↔ pattern.all (· = '*') := by
  induction pattern with
  | nil => simp [cuts_nil_iff]
  | cons p pattern ih =>
    by_cases star : p = '*'
    · subst star
      simp [cuts_star_iff, ih]
    · simp [cuts_cons_of_ne star, star]

/-! ## Outcomes -/

/-- What the outcome of an attempt says about the cuts of a text. A hopeless one says that there is
none further on either. -/
def Attempt.Means (pattern text : List Char) : Attempt → Prop
  | .fits => Cuts pattern text
  | .differs => ¬Cuts pattern text
  | .hopeless => ∀ rest, rest <:+ text → ¬Cuts pattern rest

theorem Attempt.Means.cuts_iff {outcome : Attempt} (h : outcome.Means pattern text) :
    Cuts pattern text ↔ outcome = .fits := by
  cases outcome with
  | fits => exact iff_of_true h rfl
  | differs => exact iff_of_false h Attempt.noConfusion
  | hopeless => exact iff_of_false (h text List.suffix_rfl) Attempt.noConfusion

/-- The first character of a text is what the pattern asks for, so the outcome for the rest
decides. -/
theorem Attempt.Means.cons {outcome : Attempt} (h : outcome.Means pattern text) (star : p ≠ '*')
    (same : p = '?' ∨ p = c) : outcome.Means (p :: pattern) (c :: text) := by
  cases outcome with
  | fits => exact (cuts_cons_of_ne star).mpr ⟨c, text, rfl, same, h⟩
  | differs =>
    intro cut
    obtain ⟨_, _, ⟨⟩, -, cut⟩ := (cuts_cons_of_ne star).mp cut
    exact h cut
  | hopeless =>
    intro rest further cut
    obtain ⟨d, rest, rfl, -, cut⟩ := (cuts_cons_of_ne star).mp cut
    refine h rest ?_ cut
    rcases List.suffix_cons_iff.mp further with here | later
    · exact (List.cons.inj here).2 ▸ List.suffix_rfl
    · exact (List.suffix_cons d rest).trans later

mutual

/-- An attempt says whether there is a cut, and whether there is none further on. -/
theorem ends_attempt (pattern text : List Char) : (attempt pattern text).Means pattern text := by
  unfold attempt
  split
  case h_1 pattern =>
    split
    · rename_i stars
      exact cuts_empty_iff.mpr stars
    · rename_i stars
      intro rest further cut
      obtain rfl := List.suffix_nil.mp further
      exact stars (cuts_empty_iff.mp cut)
  case h_2 pattern _ => exact (ends_seek pattern text).1
  case h_3 => exact fun cut => List.cons_ne_nil _ _ (cuts_nil_iff.mp cut)
  case h_4 p pattern c text star =>
    simp only [Bool.or_eq_true, decide_eq_true_eq]
    split
    · rename_i same
      exact (ends_attempt pattern text).cons star same
    · rename_i differs
      intro cut
      obtain ⟨_, _, ⟨⟩, same, -⟩ := (cuts_cons_of_ne star).mp cut
      exact differs same
termination_by (pattern.length, 0, text.length)

/-- The search behind a star comes to an end that leaves nothing open. -/
theorem ends_seek (pattern text : List Char) :
    (seek pattern text).Means ('*' :: pattern) text ∧ seek pattern text ≠ .differs := by
  have here := ends_attempt pattern text
  unfold seek
  split
  case h_1 differs =>
    rw [differs] at here
    split
    case h_1 =>
      refine ⟨fun rest further cut => ?_, Attempt.noConfusion⟩
      obtain rfl := List.suffix_nil.mp further
      obtain ⟨rest, further, cut⟩ := cuts_star_iff.mp cut
      exact here (List.suffix_nil.mp further ▸ cut)
    case h_2 c text =>
      obtain ⟨means, settled⟩ := ends_seek pattern text
      refine ⟨?_, settled⟩
      -- what does not fit here is found further on or not at all
      have onward : Cuts ('*' :: pattern) (c :: text) → Cuts ('*' :: pattern) text := fun cut => by
        obtain ⟨rest, further, cut⟩ := cuts_star_iff.mp cut
        rcases List.suffix_cons_iff.mp further with rfl | later
        · exact absurd cut here
        · exact cuts_star_iff.mpr ⟨rest, later, cut⟩
      cases outcome : seek pattern text with
      | fits =>
        rw [outcome] at means
        obtain ⟨rest, further, cut⟩ := cuts_star_iff.mp means
        exact cuts_star_iff.mpr ⟨rest, further.trans (List.suffix_cons c text), cut⟩
      | differs => exact absurd outcome settled
      | hopeless =>
        rw [outcome] at means
        intro rest further cut
        rcases List.suffix_cons_iff.mp further with rfl | later
        · exact means text List.suffix_rfl (onward cut)
        · exact means rest later cut
  case h_2 settled =>
    refine ⟨?_, settled⟩
    cases outcome : attempt pattern text with
    | fits =>
      rw [outcome] at here
      exact cuts_star_iff.mpr ⟨text, List.suffix_rfl, here⟩
    | differs => exact absurd outcome settled
    | hopeless =>
      rw [outcome] at here
      intro rest further cut
      obtain ⟨rest', further', cut⟩ := cuts_star_iff.mp cut
      exact here rest' (further'.trans further) cut
termination_by (pattern.length, 1, text.length)

end

/-- A pattern fits exactly the texts that can be cut into consecutive pieces for which its
characters stand in turn. -/
theorem fits_iff_cuts (pattern text : String) :
    fits pattern text = true ↔ Cuts pattern.toList text.toList := by
  rw [(ends_attempt pattern.toList text.toList).cuts_iff, fits, decide_eq_true_iff]

end CellScript.Text.Wildcard
