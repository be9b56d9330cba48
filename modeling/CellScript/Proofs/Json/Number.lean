import CellScript.Decimal.Format
import CellScript.Json.Reader
import Mathlib.Algebra.Group.Int.Defs
import Mathlib.Algebra.Group.Nat.Defs

/-!
# Numbers in JSON texts

The texts that the grammar of numbers allows. The reader takes such a text whole, whatever follows
it that no number goes on with. Integers and finite floats are written as such texts, and an integer
of 64 bits is what its text stands for.

## Main definitions

* `Json.IsNumber` — texts of the grammar of numbers.
* `Json.endsNumber` — texts that no number goes on with.

## Main statements

* `Json.readNumber?_append` — a number is read up to its end.
* `Json.isNumber_toString`, `Decimal.Style.isNumber_write` — integers and finite floats are written
  as numbers.
* `Json.integer?_toString` — an integer is read from its text.
-/

namespace CellScript

/-! ## Digits -/

namespace Decimal

theorem isDigit_of_mem_toDigits {n : Nat} : ∀ c ∈ Nat.toDigits 10 n, c.isDigit := fun _ h =>
  Nat.isDigit_of_mem_toDigits (by decide) (by decide) h

/-- Only the digits of zero start with a zero. -/
theorem head?_toDigits_ne_zero {n : Nat} (h : n ≠ 0) : (Nat.toDigits 10 n).head? ≠ some '0' := by
  induction n using Nat.strongRecOn with
  | ind n ih =>
    cases Nat.lt_or_ge n 10 with
    | inl small =>
      have : ∀ n < 10, n ≠ 0 → (Nat.toDigits 10 n).head? ≠ some '0' := by decide
      exact this n small h
    | inr large =>
      have := ih (n / 10) (by omega) (by omega)
      rw [Nat.toDigits_of_base_le (by decide) large]
      cases front : Nat.toDigits 10 (n / 10) with
      | nil => exact absurd front Nat.toDigits_ne_nil
      | cons c rest =>
        rw [front] at this
        exact this

theorem ofDigits_toDigits (n : Nat) : ofDigits 0 (Nat.toDigits 10 n) = n :=
  Nat.ofDigitChars_ten_toDigits

end Decimal

namespace Json

/-! ## The grammar of numbers -/

/-- One digit or more. -/
def IsDigits (cs : List Char) : Prop :=
  cs ≠ [] ∧ ∀ c ∈ cs, c.isDigit

/-- The whole part of a number: no other digit follows a leading zero. -/
def IsWhole (cs : List Char) : Prop :=
  IsDigits cs ∧ (cs.head? = some '0' → cs = ['0'])

/-- The fraction of a number, which may be missing. -/
def IsFraction (cs : List Char) : Prop :=
  cs = [] ∨ ∃ digits, cs = '.' :: digits ∧ IsDigits digits

/-- The exponent of a number, which may be missing. -/
def IsExponent (cs : List Char) : Prop :=
  cs = [] ∨ ∃ sign digits, cs = 'e' :: (sign ++ digits) ∧
  (sign = ['-'] ∨ sign = ['+'] ∨ sign = []) ∧ IsDigits digits

/-- A number without its sign. -/
def IsMagnitude (cs : List Char) : Prop :=
  ∃ whole fraction exponent, cs = whole ++ (fraction ++ exponent) ∧
    IsWhole whole ∧ IsFraction fraction ∧ IsExponent exponent

/-- A text of the grammar of numbers. -/
def IsNumber (cs : List Char) : Prop :=
  ∃ sign magnitude, cs = sign ++ magnitude ∧ (sign = ['-'] ∨ sign = []) ∧ IsMagnitude magnitude

/-- Whether no number goes on with a character. -/
def isNumberEnd (c : Char) : Bool :=
  !c.isDigit && c != '.' && c != 'e' && c != 'E'

/-- Whether no number goes on with a text. -/
def endsNumber (cs : List Char) : Bool :=
  cs.head?.all isNumberEnd

theorem endsNumber_cons {c : Char} {cs : List Char} : endsNumber (c :: cs) ↔
    ¬c.isDigit ∧ c ≠ '.' ∧ c ≠ 'e' ∧ c ≠ 'E' := by
  simp [endsNumber, isNumberEnd, and_assoc]

theorem IsDigits.cons {cs : List Char} (h : IsDigits cs) :
    ∃ c rest, cs = c :: rest ∧ c.isDigit := by
  obtain ⟨some, all⟩ := h
  cases cs with
  | nil => exact absurd rfl some
  | cons c rest => exact ⟨c, rest, rfl, all c List.mem_cons_self⟩

theorem not_isDigit_head {cs : List Char} (h : endsNumber cs) :
    ∀ c ∈ cs.head?, c.isDigit = false := by
  cases cs with
  | nil => exact fun _ h => (nomatch h)
  | cons c cs =>
    rintro _ ⟨⟩
    exact Bool.eq_false_iff.2 (endsNumber_cons.1 h).1

theorem takeWhile_digits {digits rest : List Char} (all : ∀ c ∈ digits, c.isDigit)
    (h : ∀ c ∈ rest.head?, c.isDigit = false) :
    (digits ++ rest).takeWhile Char.isDigit = digits := by
  rw [List.takeWhile_append_of_pos all]
  cases rest with
  | nil => exact List.append_nil _
  | cons c rest => rw [List.takeWhile_cons_of_neg (by simp [h c rfl]), List.append_nil]

theorem dropWhile_digits {digits rest : List Char} (all : ∀ c ∈ digits, c.isDigit)
    (h : ∀ c ∈ rest.head?, c.isDigit = false) : (digits ++ rest).dropWhile Char.isDigit = rest := by
  rw [List.dropWhile_append_of_pos all]
  cases rest with
  | nil => rfl
  | cons c rest => rw [List.dropWhile_cons_of_neg (by simp [h c rfl])]

/-! ## Reading numbers -/

theorem isDigit_ne {c d : Char} (hc : c.isDigit) (hd : ¬d.isDigit) : c ≠ d := by
  rintro rfl
  exact hd hc

/-- The sign of an exponent ends at its first digit. -/
theorem takeWhile_sign {sign digits rest : List Char} (hs : sign = ['-'] ∨ sign = ['+'] ∨ sign = [])
    (hd : IsDigits digits) :
    (sign ++ (digits ++ rest)).takeWhile (fun c => c = '+' || c = '-') = sign := by
  obtain ⟨c, digits, rfl, hc⟩ := hd.cons
  have plus := isDigit_ne hc (d := '+') (by decide)
  have minus := isDigit_ne hc (d := '-') (by decide)
  obtain rfl | rfl | rfl := hs <;> simp [plus, minus]

theorem readNumberTail?_cons_e (cs : List Char) : readNumberTail? ('e' :: cs) =
    let sign := cs.takeWhile fun c => c = '+' || c = '-'
    let after := cs.drop sign.length
    let digits := after.takeWhile Char.isDigit
    if 1 < sign.length || digits.isEmpty then none
    else some ('e' :: (sign ++ digits), after.dropWhile Char.isDigit) := rfl

/-- An exponent is read, if there is one. -/
theorem readNumberTail?_exponent {exponent rest : List Char} (he : IsExponent exponent)
    (h : endsNumber rest) :
    readNumberTail? (exponent ++ rest) = some (exponent, rest) := by
  obtain rfl | ⟨sign, digits, rfl, hs, hd⟩ := he
  · cases rest with
    | nil => rfl
    | cons c rest =>
      obtain ⟨_, point, small, large⟩ := endsNumber_cons.1 h
      simp [readNumberTail?, point, small, large]
  · have short : ¬(1 < sign.length) := by obtain rfl | rfl | rfl := hs <;> decide
    have some : digits.isEmpty = false := List.isEmpty_eq_false_iff.2 hd.1
    rw [List.cons_append, List.append_assoc, readNumberTail?_cons_e]
    simp only [takeWhile_sign hs hd, List.drop_left, takeWhile_digits hd.2 (not_isDigit_head h),
      dropWhile_digits hd.2 (not_isDigit_head h), some]
    simp [short]

/-- A fraction is read in front of an exponent. -/
theorem readNumberTail?_fraction {digits rest : List Char} (hd : IsDigits digits)
    (h : ∀ c ∈ rest.head?, c.isDigit = false ∧ c ≠ '.') :
    readNumberTail? ('.' :: (digits ++ rest)) =
      (readNumberTail? rest).map fun (tail, after) => ('.' :: (digits ++ tail), after) := by
  have ends : ∀ c ∈ rest.head?, c.isDigit = false := fun c hc => (h c hc).1
  cases rest with
  | nil =>
    have whole := takeWhile_digits hd.2 ends
    have nothing := dropWhile_digits hd.2 ends
    rw [List.append_nil] at whole nothing
    simp [readNumberTail?, whole, nothing, hd.1]
  | cons c rest =>
    have point := (h c rfl).2
    simp only [readNumberTail?, takeWhile_digits hd.2 ends, dropWhile_digits hd.2 ends]
    simp [hd.1, point]
    split
    · split <;> rfl
    · rw [Option.map_some, List.append_nil]

theorem IsExponent.not_goes_on {exponent rest : List Char} (he : IsExponent exponent)
    (h : endsNumber rest) :
    ∀ c ∈ (exponent ++ rest).head?, c.isDigit = false ∧ c ≠ '.' := by
  obtain rfl | ⟨sign, digits, rfl, _, _⟩ := he
  · cases rest with
    | nil => exact fun _ h => (nomatch h)
    | cons c rest =>
      rintro _ ⟨⟩
      exact ⟨Bool.eq_false_iff.2 (endsNumber_cons.1 h).1, (endsNumber_cons.1 h).2.1⟩
  · rintro _ ⟨⟩
    decide

theorem IsFraction.not_goes_on {fraction exponent rest : List Char} (hf : IsFraction fraction)
    (he : IsExponent exponent) (h : endsNumber rest) :
    ∀ c ∈ (fraction ++ (exponent ++ rest)).head?, c.isDigit = false := by
  obtain rfl | ⟨digits, rfl, _⟩ := hf
  · exact fun c hc => (he.not_goes_on h c hc).1
  · rintro _ ⟨⟩
    rfl

theorem readNumberTail?_append {fraction exponent rest : List Char} (hf : IsFraction fraction)
    (he : IsExponent exponent) (h : endsNumber rest) :
    readNumberTail? (fraction ++ (exponent ++ rest)) = some (fraction ++ exponent, rest) := by
  obtain rfl | ⟨digits, rfl, hd⟩ := hf
  · exact readNumberTail?_exponent he h
  · rw [List.cons_append, readNumberTail?_fraction hd (he.not_goes_on h),
      readNumberTail?_exponent he h]
    rfl

theorem IsWhole.eq_of_append {whole rest tail : List Char} (hw : IsWhole whole)
    (h : whole ++ rest = '0' :: tail) :
    whole = ['0'] := by
  obtain ⟨c, digits, rfl, _⟩ := hw.1.cons
  cases h
  exact hw.2 rfl

/-- The sign of a number ends at its first digit. -/
theorem IsWhole.head_of_sign {sign whole : List Char} (hw : IsWhole whole)
    (hs : sign = ['-'] ∨ sign = []) {after rest : List Char} :
    (if (sign ++ (whole ++ after) ++ rest).head? = some '-' then ['-'] else []) = sign := by
  obtain ⟨c, digits, rfl, hc⟩ := hw.1.cons
  obtain rfl | rfl := hs
  · rfl
  · exact if_neg fun same => isDigit_ne hc (d := '-') (by decide) (Option.some.inj same)

/-- A number is read up to its end. -/
theorem readNumber?_append {cs rest : List Char} (hn : IsNumber cs) (h : endsNumber rest) :
    readNumber? (cs ++ rest) = some (String.ofList cs, rest) := by
  obtain ⟨sign, _, rfl, hs, whole, fraction, exponent, rfl, hw, hf, he⟩ := hn
  have ends := hf.not_goes_on he h
  have unsigned : (sign ++ (whole ++ (fraction ++ exponent)) ++ rest).drop sign.length =
      whole ++ (fraction ++ (exponent ++ rest)) := by
    simp only [List.append_assoc, List.drop_left]
  have digits : (fraction ++ (exponent ++ rest)).head?.any Char.isDigit = false := by
    cases start : (fraction ++ (exponent ++ rest)).head? with
    | none => rfl
    | some c => exact ends c start
  unfold readNumber?
  simp only [hw.head_of_sign hs, unsigned]
  split
  · next same =>
    obtain rfl := hw.eq_of_append same
    simp [-List.head?_append, digits, readNumberTail?_append hf he h]
  · simp [-List.head?_append, takeWhile_digits hw.1.2 ends, hw.1.1, digits,
      readNumberTail?_append hf he h]

/-! ## Integers -/

theorem isDigits_toDigits (n : Nat) : IsDigits (Nat.toDigits 10 n) :=
  ⟨Nat.toDigits_ne_nil, Decimal.isDigit_of_mem_toDigits⟩

theorem isWhole_toDigits (n : Nat) : IsWhole (Nat.toDigits 10 n) := by
  refine ⟨isDigits_toDigits n, fun zero => ?_⟩
  cases n with
  | zero => rfl
  | succ n => exact absurd zero (Decimal.head?_toDigits_ne_zero (Nat.succ_ne_zero n))

theorem toList_toString_natCast (n : Nat) : (toString (n : Int)).toList = Nat.toDigits 10 n := by
  change (toString n).toList = _
  rw [Nat.toString_eq_ofList_toDigits, String.toList_ofList]

theorem toList_toString_negSucc (n : Nat) :
    (toString (Int.negSucc n)).toList = '-' :: Nat.toDigits 10 (n + 1) := by
  change ("-" ++ toString (n + 1)).toList = _
  rw [String.toList_append, Nat.toString_eq_ofList_toDigits, String.toList_ofList]
  simp

theorem IsWhole.isMagnitude {cs : List Char} (h : IsWhole cs) : IsMagnitude cs :=
  ⟨cs, [], [], by rw [List.append_nil, List.append_nil], h, .inl rfl, .inl rfl⟩

theorem isNumber_toString (n : Int) : IsNumber (toString n).toList := by
  cases n with
  | ofNat n => exact ⟨[], _, toList_toString_natCast n, .inr rfl, (isWhole_toDigits n).isMagnitude⟩
  | negSucc n =>
    exact ⟨['-'], _, toList_toString_negSucc n, .inl rfl, (isWhole_toDigits (n + 1)).isMagnitude⟩

/-- An integer as written has neither fraction nor exponent. -/
theorem parts_of_digits {text : String} {sign digits : List Char} (h : text.toList = sign ++ digits)
    (hs : sign = ['-'] ∨ sign = []) (hd : IsDigits digits) :
    NumberParts.ofText text = ⟨!sign.isEmpty, digits, none, none⟩ := by
  have whole : digits.takeWhile Char.isDigit = digits := by
    simpa using takeWhile_digits hd.2 (fun _ (h : _ ∈ [].head?) => nomatch h)
  have nothing : digits.dropWhile Char.isDigit = [] := by
    simpa using dropWhile_digits hd.2 (fun _ (h : _ ∈ [].head?) => nomatch h)
  obtain rfl | rfl := hs
  · simp [NumberParts.ofText, h, whole, nothing]
  · obtain ⟨c, rest, rfl, hc⟩ := hd.cons
    have minus := isDigit_ne hc (d := '-') (by decide)
    rw [List.nil_append] at h
    simp only [NumberParts.ofText, h, List.head?_cons, Option.some.injEq, minus, if_false,
      decide_false, whole, nothing]
    rfl

theorem integer?_of_digits {text : String} {sign digits : List Char}
    (h : text.toList = sign ++ digits) (hs : sign = ['-'] ∨ sign = []) (hd : IsDigits digits) :
    integer? text =
      let n := Decimal.ofDigits 0 digits
      if sign.isEmpty then if n < Int.pow 2 64 then some (n : Int) else none
      else if n = 0 || Int.pow 2 63 < n then none else some (-n : Int) := by
  rw [integer?, parts_of_digits h hs hd]
  obtain rfl | rfl := hs <;> simp

theorem intPow_eq (a : Int) (k : Nat) : Int.pow a k = a ^ k := rfl

theorem integer?_of_natCast {n : Nat} (h : n < 2 ^ 64) :
    integer? (toString (n : Int)) = some (n : Int) := by
  have fits : (n : Int) < Int.pow 2 64 := by
    rw [intPow_eq]
    exact_mod_cast h
  rw [@integer?_of_digits _ [] (Nat.toDigits 10 n) (toList_toString_natCast n) (.inr rfl)
    (isDigits_toDigits n), Decimal.ofDigits_toDigits]
  simp only [List.isEmpty_nil, if_true, if_pos fits]

theorem integer?_of_negSucc {n : Nat} (h : n < 2 ^ 63) :
    integer? (toString (Int.negSucc n)) = some (Int.negSucc n) := by
  have fits : ¬((n + 1 = 0 || Int.pow 2 63 < ((n + 1 : Nat) : Int)) = true) := by
    rw [Bool.or_eq_true, decide_eq_true_iff, decide_eq_true_iff, intPow_eq]
    omega
  rw [@integer?_of_digits _ ['-'] (Nat.toDigits 10 (n + 1)) (toList_toString_negSucc n)
    (.inl rfl) (isDigits_toDigits (n + 1)), Decimal.ofDigits_toDigits]
  exact if_neg fits

/-- An integer of 64 bits is read from its text. -/
theorem integer?_toString {n : Int} (low : -(2 ^ 63) ≤ n) (high : n < 2 ^ 64) :
    integer? (toString n) = some n := by
  cases n with
  | ofNat n => exact integer?_of_natCast (by rw [Int.ofNat_eq_natCast] at high; omega)
  | negSucc n => exact integer?_of_negSucc (by omega)

end Json

/-! ## Floats -/

namespace Decimal

open Json

theorem digits_ne_zero_of_holds {r : Rounding} {s : Shortest} (h : r.holds s) (low : 0 < r.low) :
    s.digits ≠ 0 := by
  intro zero
  have up : 0 < Nat.pow 10 (-s.exponent).toNat := Nat.pow_pos (by decide)
  have above : 0 < r.low * Nat.pow 10 (-s.exponent).toNat := Nat.mul_pos low up
  simp only [Rounding.holds, zero, Nat.zero_mul] at h
  split at h <;> rw [Bool.and_eq_true, decide_eq_true_iff] at h
  · exact absurd h.1 (Nat.not_le.2 above)
  · exact absurd h.1 (Nat.not_lt_zero _)

theorem holds_of_neighbour? {r : Rounding} {exponent : Int} {s : Shortest}
    (h : r.neighbour? exponent = some s) :
    r.holds s := by
  simp only [Rounding.neighbour?] at h
  split at h
  · next below above =>
    split at h
    · cases h
      exact below
    · cases h
      exact above
  · next below _ =>
    cases h
    exact below
  · next above =>
    cases h
    exact above
  · cases h

theorem holds_of_search {r : Rounding} {magnitude : Int} {fuel count : Nat} {s : Shortest}
    (h : r.search magnitude fuel count = some s) : r.holds s := by
  induction fuel generalizing count with
  | zero => cases h
  | succ fuel ih =>
    rw [Rounding.search] at h
    split at h
    · next found =>
      cases h
      exact holds_of_neighbour? found
    · exact ih h

theorem digits_strip_ne_zero {fuel : Nat} {s : Shortest} (h : s.digits ≠ 0) :
    (Shortest.trimmed.strip fuel s).digits ≠ 0 := by
  induction fuel generalizing s with
  | zero => exact h
  | succ fuel ih =>
    rw [Shortest.trimmed.strip]
    split
    · next cond =>
      refine ih ?_
      simp at cond ⊢
      omega
    · exact h

theorem low_pos {b : Binary} (h : 0 < b.mantissa) : 0 < (Rounding.ofBinary b).low := by
  refine Nat.mul_pos ?_ (Nat.pow_pos (by decide))
  split <;> omega

/-- The shortest decimal of a positive float is not zero. -/
theorem digits_shortest_ne_zero {b : Binary} (h : 0 < b.mantissa) : b.shortest.digits ≠ 0 := by
  refine digits_strip_ne_zero ?_
  cases found : (Rounding.ofBinary b).search (Rounding.ofBinary b).magnitude 17 1 with
  | some s => exact digits_ne_zero_of_holds (holds_of_search found) (low_pos h)
  | none => exact Nat.pos_iff_ne_zero.1 h

theorem mantissa_pos_of_ofFloat? {x : Float} {b : Binary} (h : Binary.ofFloat? x = some b) :
    0 < b.mantissa := by
  simp only [Binary.ofFloat?] at h
  split at h
  · cases h
  · split at h
    · split at h
      · cases h
      · next nonzero =>
        cases h
        exact Nat.pos_iff_ne_zero.2 nonzero
    · cases h
      exact Nat.add_pos_left (Nat.pow_pos (by decide)) _

theorem isNaN_of_isFinite {x : Float} (h : x.isFinite) : x.isNaN = false := by
  unfold Float.isFinite Float.Model.isFinite at h
  unfold Float.isNaN Float.Model.isNaN
  cases same : x.toModel.unpack with
  | notANumber =>
    rw [same] at h
    cases h
  | infinity _ => rfl
  | zero _ => rfl
  | finite _ _ _ _ => rfl

theorem isInf_of_isFinite {x : Float} (h : x.isFinite) : x.isInf = false := by
  unfold Float.isFinite Float.Model.isFinite at h
  unfold Float.isInf Float.Model.isInf
  cases same : x.toModel.unpack with
  | infinity _ =>
    rw [same] at h
    cases h
  | notANumber => rfl
  | zero _ => rfl
  | finite _ _ _ _ => rfl

namespace Style

variable {style : Style} {ds : List Char}

theorem isDigit_of_mem_zeros {n : Nat} : ∀ c ∈ List.replicate n '0', c.isDigit := by
  intro c h
  obtain ⟨_, rfl⟩ := List.mem_replicate.1 h
  rfl

theorem isDigits_zeros_append (hd : IsDigits ds) (n : Nat) :
    IsDigits (List.replicate n '0' ++ ds) :=
  ⟨List.append_ne_nil_of_right_ne_nil _ hd.1,
    fun c h => (List.mem_append.1 h).elim (isDigit_of_mem_zeros c) (hd.2 c)⟩

theorem isWhole_of_lead (hd : IsDigits ds) (lead : ds.head? ≠ some '0') : IsWhole ds :=
  ⟨hd, fun zero => absurd zero lead⟩

theorem isWhole_append_zeros (hd : IsDigits ds) (lead : ds.head? ≠ some '0') (n : Nat) :
    IsWhole (ds ++ List.replicate n '0') := by
  obtain ⟨c, rest, rfl, _⟩ := hd.cons
  refine isWhole_of_lead ⟨List.cons_ne_nil _ _, fun c h => ?_⟩ lead
  exact (List.mem_append.1 h).elim (hd.2 c) (isDigit_of_mem_zeros c)

theorem isWhole_take (hd : IsDigits ds) (lead : ds.head? ≠ some '0') {n : Nat} (pos : 0 < n) :
    IsWhole (ds.take n) := by
  obtain ⟨c, rest, rfl, _⟩ := hd.cons
  obtain ⟨n, rfl⟩ := Nat.exists_eq_succ_of_ne_zero (Nat.pos_iff_ne_zero.1 pos)
  exact isWhole_of_lead ⟨List.cons_ne_nil _ _, fun c h => hd.2 c (List.mem_of_mem_take h)⟩ lead

theorem isDigits_drop (hd : IsDigits ds) {n : Nat} (inside : n < ds.length) :
    IsDigits (ds.drop n) :=
  ⟨by simpa using inside, fun c h => hd.2 c (List.mem_of_mem_drop h)⟩

theorem isDigits_zero : IsDigits ['0'] :=
  ⟨List.cons_ne_nil _ _, fun c h => by rw [List.mem_singleton.1 h]; rfl⟩

/-- What may follow an integral float. -/
theorem isFraction_kept (style : Style) :
    IsFraction (if style.keepsFraction then ".0" else "").toList := by
  split
  · exact .inr ⟨['0'], by simp, isDigits_zero⟩
  · exact .inl rfl

/-- Digits with the point in, before or after them. -/
theorem isMagnitude_positional (hd : IsDigits ds) (lead : ds.head? ≠ some '0') (point : Int) :
    IsMagnitude (style.positional ds point).toList := by
  unfold positional
  split
  · refine ⟨_, _, [], ?_, isWhole_append_zeros hd lead (point - ds.length).toNat,
      isFraction_kept style, .inl rfl⟩
    rw [String.toList_append, String.toList_ofList, List.append_nil]
  · split
    · next inside positive =>
      have inside : point.toNat < ds.length := by omega
      refine ⟨ds.take point.toNat, '.' :: ds.drop point.toNat, [], ?_,
        isWhole_take hd lead (by omega), .inr ⟨_, rfl, isDigits_drop hd inside⟩, .inl rfl⟩
      simp
    · refine ⟨['0'], '.' :: (List.replicate (-point).toNat '0' ++ ds), [], ?_,
        ⟨isDigits_zero, fun _ => rfl⟩, .inr ⟨_, rfl, isDigits_zeros_append hd _⟩, .inl rfl⟩
      simp

theorem isMagnitude_zero : IsMagnitude (style.positional ['0'] 1).toList := by
  refine ⟨['0'], _, [], ?_, ⟨isDigits_zero, fun _ => rfl⟩, isFraction_kept style, .inl rfl⟩
  have within : ((['0'].length : Nat) : Int) ≤ 1 := by decide
  rw [positional, if_pos within, String.toList_append, String.toList_ofList, List.append_nil]
  rfl

theorem isExponent_exponentText (e : Int) : IsExponent ('e' :: (style.exponentText e).toList) := by
  have hd := isDigits_toDigits e.natAbs
  refine .inr ⟨if e < 0 then ['-'] else if style.widensExponent then ['+'] else [],
    (if style.widensExponent && (Nat.toDigits 10 e.natAbs).length < 2 then ['0'] else []) ++
      Nat.toDigits 10 e.natAbs, ?_, ?_, ?_⟩
  · simp only [exponentText, String.toList_append, String.toList_ofList, apply_ite String.toList,
      List.append_assoc]
    rfl
  · split
    · exact .inl rfl
    · split
      · exact .inr (.inl rfl)
      · exact .inr (.inr rfl)
  · split
    · exact isDigits_zeros_append hd 1
    · exact hd

/-- One digit before the point and an exponent. -/
theorem isMagnitude_scientific (hd : IsDigits ds) (lead : ds.head? ≠ some '0') (point : Int) :
    IsMagnitude (style.scientific ds point).toList := by
  refine ⟨ds.take 1, if ds.length ≤ 1 then [] else '.' :: ds.drop 1,
    'e' :: (style.exponentText (point - 1)).toList, ?_, isWhole_take hd lead Nat.one_pos, ?_,
    isExponent_exponentText _⟩
  · have short : (String.ofList (ds.drop 1)).isEmpty = decide (ds.length ≤ 1) := by
      rw [Bool.eq_iff_iff, String.isEmpty_iff, ← String.toList_inj, String.toList_ofList,
        decide_eq_true_iff]
      exact List.drop_eq_nil_iff
    simp only [scientific, short, decide_eq_true_iff]
    split <;> simp
  · split
    · exact .inl rfl
    · next long => exact .inr ⟨_, rfl, isDigits_drop hd (by omega)⟩

theorem isMagnitude_writeShortest {s : Shortest} (h : s.digits ≠ 0) :
    IsMagnitude (style.writeShortest s).toList := by
  simp only [writeShortest]
  split
  · exact isMagnitude_positional (isDigits_toDigits _) (head?_toDigits_ne_zero h) _
  · exact isMagnitude_scientific (isDigits_toDigits _) (head?_toDigits_ne_zero h) _

/-- A finite float is written as a number. -/
theorem isNumber_write {x : Float} (h : x.isFinite) : IsNumber (style.write x).toList := by
  have number : x.isNaN = false := isNaN_of_isFinite h
  have bounded : x.isInf = false := isInf_of_isFinite h
  have sign : (if 0x8000000000000000 ≤ x.toBits then "-" else "").toList = ['-'] ∨
      (if 0x8000000000000000 ≤ x.toBits then "-" else "").toList = [] := by
    split <;> simp
  simp only [write, number, bounded, Bool.false_eq_true, if_false]
  cases magnitude : Binary.ofFloat? x with
  | none => exact ⟨_, _, String.toList_append, sign, isMagnitude_zero⟩
  | some b =>
    have positive := digits_shortest_ne_zero (mantissa_pos_of_ofFloat? magnitude)
    exact ⟨_, _, String.toList_append, sign, isMagnitude_writeShortest positive⟩

end Style

end Decimal

end CellScript
