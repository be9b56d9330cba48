import CellScript.Heap.Text
import Mathlib.Data.Prod.Lex
import Mathlib.Data.String.Basic
import Mathlib.Order.Compare

/-!
# The orders of numbers and of texts

Floats that are numbers are compared by sign, exponent and mantissa, so that they stand in a line;
the float of an integer is always a number. Texts stand in a line as well.

## Main definitions

* `UnpackedFloat.rank` — where a float stands.

## Main statements

* `nearestFloat_ne_nan` — the float of an integer is a number.
* `compareFloats_eq`, `compareTexts_eq` — the comparisons are those of linear orders.
-/

namespace CellScript

open Float.Model (UnpackedFloat Format)

namespace UnpackedFloat

open Float.Model.UnpackedFloat

/-- Where a float stands that is a number: by its sign, then by its exponent and mantissa, those of
negative floats the other way round. -/
def rank : UnpackedFloat → Lex (Int × Lex (Int × Int))
  | .infinity .negative => toLex (-2, toLex (0, 0))
  | .finite .negative m e _ => toLex (-1, toLex (-e, -m))
  | .zero _ | .notANumber => toLex (0, toLex (0, 0))
  | .finite .positive m e _ => toLex (1, toLex (e, m))
  | .infinity .positive => toLex (2, toLex (0, 0))

theorem then_eq_lt_iff (e e' : Int) (m m' : Nat) :
    (compare e e').then (compare m m') = .lt ↔ e < e' ∨ e = e' ∧ (m : Int) < m' := by
  rw [Ordering.then_eq_lt, compare_lt_iff_lt, compare_lt_iff_lt, compare_eq_iff_eq, Int.ofNat_lt]

theorem then_eq_gt_iff (e e' : Int) (m m' : Nat) :
    (compare e e').then (compare m m') = .gt ↔ e' < e ∨ e = e' ∧ (m' : Int) < m := by
  rw [Ordering.then_eq_gt, compare_gt_iff_gt, compare_gt_iff_gt, compare_eq_iff_eq, Int.ofNat_lt]

/-- Floats that are numbers are in the order of their ranks. -/
theorem lt_iff_rank {x y : UnpackedFloat} (hx : x ≠ .notANumber) (hy : y ≠ .notANumber) :
    x.lt y = true ↔ rank x < rank y := by
  have signs : compare Sign.negative Sign.positive = .lt := rfl
  rw [UnpackedFloat.lt, beq_iff_eq]
  rcases x with (_ | _) | - | (_ | _) | ⟨_ | _, m, e, _⟩ <;> try contradiction
  all_goals
    rcases y with (_ | _) | - | (_ | _) | ⟨_ | _, m', e', _⟩ <;> try contradiction
  all_goals
    dsimp only [UnpackedFloat.compare, rank]
    simp [Prod.Lex.toLex_lt_toLex, then_eq_lt_iff, then_eq_gt_iff, signs]

variable {spec : Format}

/-- Only the largest exponent is that of something that is not a number. -/
theorem unpack_eq_nan {b : BitVec spec.numBits} (nan : unpack spec b = .notANumber) :
    unpackExponent b = -1#_ ∧ unpackMantissa b ≠ 0#_ := by
  unfold unpack at nan
  dsimp only at nan
  by_cases largest : unpackExponent b = -1#_
  · rw [if_pos largest] at nan
    refine ⟨largest, fun none => ?_⟩
    rw [if_pos none] at nan
    cases nan
  · rw [if_neg largest] at nan
    by_cases least : unpackExponent b = 0#_
    · rw [if_pos least] at nan
      by_cases none : unpackMantissa b = 0#_
      · rw [dif_pos none] at nan
        cases nan
      · rw [dif_neg none] at nan
        cases nan
    · rw [if_neg least] at nan
      cases nan

theorem unpack_packComponents_ne {sign : Sign} {exponent : BitVec spec.exponentBits}
    {mantissa : BitVec spec.mantissaBitsWithoutImplicit}
    (small : exponent ≠ -1#_ ∨ mantissa = 0#_) :
    unpack spec (packComponents spec sign exponent mantissa) ≠ .notANumber := by
  intro nan
  obtain ⟨largest, more⟩ := unpack_eq_nan nan
  rw [unpackExponent_packComponents] at largest
  rw [unpackMantissa_packComponents] at more
  exact small.elim (· largest) more

theorem ofNat_ne_largest {e : Nat} (small : e + 1 < 2 ^ spec.exponentBits) :
    BitVec.ofNat spec.exponentBits e ≠ -1#_ := by
  intro same
  have values := congrArg BitVec.toNat same
  rw [BitVec.toNat_ofNat, Nat.mod_eq_of_lt (by omega), BitVec.neg_one_eq_allOnes,
    BitVec.toNat_allOnes] at values
  omega

/-- Packing makes a number of a number. -/
theorem unpack_pack_ne {x : UnpackedFloat} (hx : x ≠ .notANumber) :
    unpack spec (pack spec x) ≠ .notANumber := by
  have one : 0 + 1 < 2 ^ spec.exponentBits := Nat.one_lt_two_pow spec.he.ne'
  fun_cases pack spec x with
  | case1 => exact absurd rfl hx
  | case2 | case3 | case4 => exact unpack_packComponents_ne (.inr rfl)
  | case5 sign m e _ bits biased fits normal =>
    exact unpack_packComponents_ne (.inl (ofNat_ne_largest (Nat.lt_of_not_le fits)))
  | case6 => exact unpack_packComponents_ne (.inl (ofNat_ne_largest one))

theorem roundWithAccuracy_ne (sign : Sign) (m : Nat) (e : Int) (accuracy : Accuracy) :
    roundWithAccuracy spec sign m e accuracy ≠ .notANumber := by
  unfold roundWithAccuracy
  obtain ⟨rounded, e₁⟩ := shiftToTargetExponent spec m e accuracy
  dsimp only
  obtain ⟨final, e₂⟩ := shiftToTargetExponent spec rounded.roundedMantissa e₁ .exact
  intro nan
  by_cases none : final.mantissa = 0
  · rw [dif_pos none] at nan
    cases nan
  · rw [dif_neg none] at nan
    cases nan

theorem round_ne (sign : Sign) (m : Nat) (e : Int) :
    UnpackedFloat.round spec sign m e ≠ .notANumber :=
  roundWithAccuracy_ne sign _ _ _

end UnpackedFloat

/-- The float of an integer is a number. -/
theorem nearestFloat_ne_nan (n : Int64) : (nearestFloat n).toModel.unpack ≠ .notANumber := by
  apply UnpackedFloat.unpack_pack_ne
  intro nan
  unfold Float.Model.UnpackedFloat.ofInt64 Float.Model.UnpackedFloat.ofInt
    Float.Model.UnpackedFloat.normalize at nan
  split at nan
  · exact UnpackedFloat.round_ne _ _ _ nan
  · cases nan
  · exact UnpackedFloat.round_ne _ _ _ nan

/-- Floats that are numbers are compared by their ranks. -/
theorem compareFloats_eq {x y : Float} (hx : x.toModel.unpack ≠ .notANumber)
    (hy : y.toModel.unpack ≠ .notANumber) :
    compareFloats x y = cmp (UnpackedFloat.rank x.toModel.unpack)
      (UnpackedFloat.rank y.toModel.unpack) := by
  have less {x y : Float} (hx : x.toModel.unpack ≠ .notANumber)
    (hy : y.toModel.unpack ≠ .notANumber) :
      x < y ↔ UnpackedFloat.rank x.toModel.unpack < UnpackedFloat.rank y.toModel.unpack :=
    decide_eq_true_iff.trans (UnpackedFloat.lt_iff_rank hx hy)
  exact if_congr (less hx hy) rfl (if_congr (less hy hx) rfl rfl)

/-- Texts are compared by their order. -/
theorem compareTexts_eq (s t : String) : compareTexts s t = cmp s t := by
  unfold compareTexts cmp cmpUsing
  congr

end CellScript
