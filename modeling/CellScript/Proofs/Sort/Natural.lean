import CellScript.Proofs.Heap.Number
import CellScript.Proofs.Json.Number
import CellScript.Proofs.Sort.Function

/-!
# The order of a sort without a comparison

Two numbers are compared by amount, any other two values by text. Each of the two rules alone is an
order, and both together are one as long as no text stands between two integers whose texts are in
the other order than the integers: then the first integer is before the second, which is before the
text, which is before the first.

## Main definitions

* `Content.isAtom` — integers, strings and the empty value.
* `Heap.Misplaced` — a text where the two rules are at odds.

## Main statements

* `Library.naturalOrder_orders_iff` — when the comparison is an order.
* `Library.sort_by_natural_order` — what a sort without a comparison gives.
* `Library.not_sorted_naturally` — it need not be in order.
-/

namespace CellScript

/-- An integer, a string or the empty value. -/
def Content.isAtom : Content → Bool
  | .null | .int _ | .text _ => true
  | _ => false

variable {h : Heap} {a b c t : CellRef}

namespace Heap

/-- Where a number stands. -/
def amount (h : Heap) (c : CellRef) : Lex (Int × Lex (Int × Int)) :=
  UnpackedFloat.rank (h.cellFloat c).toModel.unpack

/-- A text that stands, as texts stand, between two integers of which the second is not less than
the first but has the lesser text. -/
structure Misplaced (h : Heap) (t a b : CellRef) : Prop where
  text : (h.content t).isNumber = false
  first : (h.content a).isNumber = true
  second : (h.content b).isNumber = true
  amounts : h.amount a ≤ h.amount b
  less : h.text b < h.text a
  after : h.text b ≤ h.text t
  before : h.text t ≤ h.text a

end Heap

namespace Library

theorem exists_int (atom : (h.content a).isAtom) (number : (h.content a).isNumber) :
    ∃ n, h.content a = .int n := by
  cases content : h.content a <;> simp_all [Content.isAtom, Content.isNumber]

theorem naturalOrder_numbers (ha : (h.content a).isAtom) (hb : (h.content b).isAtom)
    (numbers : (h.content a).isNumber ∧ (h.content b).isNumber) :
    naturalOrder h a b = cmp (h.amount a) (h.amount b) := by
  obtain ⟨m, hm⟩ := exists_int ha numbers.1
  obtain ⟨n, hn⟩ := exists_int hb numbers.2
  have float {c : CellRef} {n : Int64} (hc : h.content c = .int n) :
      h.cellFloat c = nearestFloat n := by
    rw [Heap.cellFloat, hc, Heap.toFloat]
  rw [naturalOrder, if_pos (by simpa using numbers), compareFloats_eq]
  · rfl
  · exact float hm ▸ nearestFloat_ne_nan m
  · exact float hn ▸ nearestFloat_ne_nan n

theorem naturalOrder_texts (other : ¬((h.content a).isNumber ∧ (h.content b).isNumber)) :
    naturalOrder h a b = cmp (h.text a) (h.text b) := by
  rw [naturalOrder, if_neg (by simpa using other), compareTexts_eq]

/-- Integers of the same text are the same. -/
theorem amount_eq_of_text_eq (ha : (h.content a).isAtom) (hb : (h.content b).isAtom)
    (number : (h.content a).isNumber) (number' : (h.content b).isNumber)
    (same : h.text a = h.text b) : h.amount a = h.amount b := by
  obtain ⟨m, hm⟩ := exists_int ha number
  obtain ⟨n, hn⟩ := exists_int hb number'
  have text {c : CellRef} {n : Int64} (hc : h.content c = .int n) :
      h.text c = toString n.toInt := by
    rw [Heap.text, hc]
    rfl
  have read (n : Int64) : Json.integer? (toString n.toInt) = some n.toInt :=
    Json.integer?_toString n.le_toInt (n.toInt_lt.trans (by decide))
  rw [text hm, text hn] at same
  have ints :=
    Option.some_inj.mp ((read m).symm.trans ((congrArg Json.integer? same).trans (read n)))
  rw [Int64.toInt_inj] at ints
  rw [Heap.amount, Heap.amount, Heap.cellFloat, Heap.cellFloat, hm, hn, ints]

theorem naturalOrder_swap (ha : (h.content a).isAtom) (hb : (h.content b).isAtom) :
    naturalOrder h b a = (naturalOrder h a b).swap := by
  by_cases numbers : (h.content a).isNumber ∧ (h.content b).isNumber
  · rw [naturalOrder_numbers ha hb numbers, naturalOrder_numbers hb ha numbers.symm, cmp_swap]
  · rw [naturalOrder_texts numbers, naturalOrder_texts (mt And.symm numbers), cmp_swap]

theorem naturalOrder_ne_gt_numbers (ha : (h.content a).isAtom) (hb : (h.content b).isAtom)
    (number : (h.content a).isNumber) (number' : (h.content b).isNumber) :
    naturalOrder h a b ≠ .gt ↔ h.amount a ≤ h.amount b := by
  rw [naturalOrder_numbers ha hb ⟨number, number'⟩, ne_eq, cmp_eq_gt_iff, not_lt]

theorem naturalOrder_ne_gt_texts (other : ¬((h.content a).isNumber ∧ (h.content b).isNumber)) :
    naturalOrder h a b ≠ .gt ↔ h.text a ≤ h.text b := by
  rw [naturalOrder_texts other, ne_eq, cmp_eq_gt_iff, not_lt]

/-- The comparison is an order of some values exactly if none of them is a misplaced text. -/
theorem naturalOrder_orders_iff {items : List CellRef} (atoms : ∀ c ∈ items, (h.content c).isAtom) :
    Orders (naturalOrder h) items ↔ ∀ t ∈ items, ∀ a ∈ items, ∀ b ∈ items, ¬h.Misplaced t a b := by
  have texts {a b : CellRef}
    (text : (h.content a).isNumber = false ∨ (h.content b).isNumber = false) :
      naturalOrder h a b ≠ .gt ↔ h.text a ≤ h.text b :=
    naturalOrder_ne_gt_texts fun ⟨number, number'⟩ => by
      rcases text with text | text
      · exact Bool.false_ne_true (text.symm.trans number)
      · exact Bool.false_ne_true (text.symm.trans number')
  constructor
  · intro orders t ht a ha b hb misplaced
    have numbers :=
      naturalOrder_ne_gt_numbers (atoms a ha) (atoms b hb) misplaced.first misplaced.second
    -- round through the text the second integer comes to stand before the first, whose text it then
    -- has
    have up : naturalOrder h a t ≠ .gt :=
      orders.trans a ha b hb t ht (numbers.mpr misplaced.amounts)
        ((texts (.inr misplaced.text)).mpr misplaced.after)
    have down : naturalOrder h t b ≠ .gt := orders.trans t ht a ha b hb
      ((texts (.inl misplaced.text)).mpr misplaced.before) (numbers.mpr misplaced.amounts)
    exact not_le_of_gt misplaced.less
      (((texts (.inr misplaced.text)).mp up).trans ((texts (.inl misplaced.text)).mp down))
  · intro never
    refine ⟨fun a ha b hb => naturalOrder_swap (atoms a ha) (atoms b hb),
      fun a ha b hb c hc first second => ?_⟩
    have amounts {a b : CellRef} (ha : a ∈ items) (hb : b ∈ items) :=
      naturalOrder_ne_gt_numbers (atoms a ha) (atoms b hb)
    cases na : (h.content a).isNumber <;> cases nb : (h.content b).isNumber <;>
      cases nc : (h.content c).isNumber
    case true.true.true =>
      exact (amounts ha hc na nc).mpr
        (((amounts ha hb na nb).mp first).trans ((amounts hb hc nb nc).mp second))
    case true.true.false =>
      refine (texts (.inr nc)).mpr (le_of_not_gt fun less => never c hc a ha b hb ?_)
      have after := (texts (.inr nc)).mp second
      exact ⟨nc, na, nb, (amounts ha hb na nb).mp first, after.trans_lt less, after, less.le⟩
    case false.true.true =>
      refine (texts (.inl na)).mpr (le_of_not_gt fun less => never a ha b hb c hc ?_)
      have before := (texts (.inl na)).mp first
      exact ⟨na, nb, nc, (amounts hb hc nb nc).mp second, less.trans_le before, less.le, before⟩
    case true.false.true =>
      refine (amounts ha hc na nc).mpr (le_of_not_gt fun less => never b hb c hc a ha ?_)
      have after := (texts (.inr nb)).mp first
      have before := (texts (.inl nb)).mp second
      -- integers that differ have texts that differ
      have ne : h.text a ≠ h.text c :=
        fun same => less.ne' (amount_eq_of_text_eq (atoms a ha) (atoms c hc) na nc same)
      exact ⟨nb, nc, na, less.le, (after.trans before).lt_of_ne ne, after, before⟩
    all_goals
      rw [texts (by simp [*])] at first second ⊢
      exact first.trans second

/-- What a sort delivers is one list. -/
theorem Delivers.unique {ran : Except Stop CellRef × Machine} {m : Machine}
    {result result' : List CellRef} (one : Delivers ran (.ok result) m)
    (two : Delivers ran (.ok result') m) : result = result' := by
  obtain ⟨s, new, h, run, -, made, root⟩ := one
  obtain ⟨s', new', h', run', -, made', root'⟩ := two
  obtain ⟨cell, machine⟩ := Prod.mk.inj (run.symm.trans run')
  obtain rfl := Except.ok.inj cell
  obtain rfl : h = h' := congrArg Machine.heap machine
  obtain rfl : s = s' :=
      Content.sequence.inj (congrArg Value.content (made.get.symm.trans made'.get))
  exact Except.ok.inj (root.shows.symm.trans root'.shows)

variable (self : Reentry) (m : Machine)

/-- Whatever integers, strings and empty values there are, the comparison of two of them the other
way round is the reverse. It is an order of them exactly if none is a misplaced text. Then a sort
puts no element behind one that it is less than, and lists of the same elements come out with equal
elements at the same places. -/
theorem sort_by_natural_order (items : List CellRef)
    (atoms : ∀ c ∈ items, (m.heap.content c).isAtom) :
    (∀ a ∈ items, ∀ b ∈ items, naturalOrder m.heap b a = (naturalOrder m.heap a b).swap) ∧
    ((∀ a ∈ items, ∀ b ∈ items, ∀ c ∈ items, naturalOrder m.heap a b ≠ .gt →
      naturalOrder m.heap b c ≠ .gt →
        naturalOrder m.heap a c ≠ .gt) ↔
      ∀ t ∈ items, ∀ a ∈ items, ∀ b ∈ items, ¬m.heap.Misplaced t a b) ∧
    ((∀ t ∈ items, ∀ a ∈ items, ∀ b ∈ items, ¬m.heap.Misplaced t a b) →
      ∀ list s list' s' items', m.heap.content list = .sequence s →
      m.heap.sequences.snapshot s = .ok items →
        m.heap.content list' = .sequence s' → m.heap.sequences.snapshot s' = .ok items' →
        items'.Perm items →
        ∃ result result', Delivers (sort self [list] m) (.ok result) m ∧
          Delivers (sort self [list'] m) (.ok result') m ∧ result.Perm items ∧
          result.Pairwise (fun a b => naturalOrder m.heap b a ≠ .lt) ∧
          List.Forall₂ (naturalOrder m.heap · · = .eq) result result') := by
  have swap : ∀ a ∈ items, ∀ b ∈ items, naturalOrder m.heap b a = (naturalOrder m.heap a b).swap :=
    fun a ha b hb => naturalOrder_swap (atoms a ha) (atoms b hb)
  have iff := naturalOrder_orders_iff atoms
  refine ⟨swap, ⟨fun trans => iff.mp ⟨swap, trans⟩, fun never => (iff.mpr never).trans⟩, ?_⟩
  intro never list s list' s' items' sequence shows sequence' shows' perm
  have orders := iff.mpr never
  obtain ⟨result, delivers, same, sorted⟩ := sort_natural_result self sequence shows
  obtain ⟨result', delivers', same', sorted'⟩ := sort_natural_result self sequence' shows'
  have inOrder := (sorted orders).1
  have inOrder' := (sorted' (orders.subset perm.subset)).1
  refine ⟨result, result', delivers, delivers', same, ?_, ?_⟩
  · refine inOrder.imp_of_mem fun {a b} ha hb le => ?_
    rw [orders.swap a (same.subset ha) b (same.subset hb)]
    exact fun less => le (Ordering.swap_inj.mp less)
  · exact orders.forall₂_of_perm same.subset (same.trans (perm.symm.trans same'.symm))
      inOrder inOrder'

end Library

/-- A machine with two sequences of the same three cells, one the other way round. -/
def Machine.ofThree (x y z : Content) : Machine :=
  { (default : Machine) with
    heap :=
      { Heap.empty with
        cells := #[.clean (.sequence ⟨0⟩), .clean (.sequence ⟨1⟩), .clean x, .clean y, .clean z]
        sequences := (Sequences.empty.addRoot [⟨2⟩, ⟨3⟩, ⟨4⟩]).addRoot [⟨4⟩, ⟨3⟩, ⟨2⟩] } }

/-- Two integers whose texts are in the other order, and a text behind both of these. -/
def Machine.twoTenLetter : Machine :=
  .ofThree (.int 2) (.int 10) (.text "a")

/-- Two integers whose texts are in the other order, and a text between these. -/
def Machine.nineTenFive : Machine :=
  .ofThree (.int 9) (.int 10) (.text "5")

theorem Machine.shows_ofThree (x y z : Content) :
    (Machine.ofThree x y z).heap.sequences.snapshot ⟨0⟩ = .ok [⟨2⟩, ⟨3⟩, ⟨4⟩] ∧
    (Machine.ofThree x y z).heap.sequences.snapshot ⟨1⟩ = .ok [⟨4⟩, ⟨3⟩, ⟨2⟩] := by
  have root (s : SequenceRef) :=
    Sequences.snapshot_of_root (q := (Machine.ofThree x y z).heap.sequences) (s := s)
  exact ⟨(root ⟨0⟩ rfl).trans rfl, (root ⟨1⟩ rfl).trans rfl⟩

namespace Library

/-- The integers and the text are sorted alike from both ends. -/
theorem sort_by_natural_order_twoTenLetter : ∃ result result',
    Delivers (sort .refusing [⟨0⟩] .twoTenLetter) (.ok result) .twoTenLetter ∧
    Delivers (sort .refusing [⟨1⟩] .twoTenLetter) (.ok result') .twoTenLetter ∧
    List.Forall₂ (naturalOrder Machine.twoTenLetter.heap · · = .eq) result result' := by
  obtain ⟨shows, shows'⟩ := Machine.shows_ofThree (.int 2) (.int 10) (.text "a")
  have atoms : ∀ c ∈ [⟨2⟩, ⟨3⟩, ⟨4⟩], (Machine.twoTenLetter.heap.content c).isAtom := by decide
  have never : ∀ t ∈ [⟨2⟩, ⟨3⟩, ⟨4⟩], ∀ a ∈ [⟨2⟩, ⟨3⟩, ⟨4⟩], ∀ b ∈ [⟨2⟩, ⟨3⟩, ⟨4⟩],
      ¬Machine.twoTenLetter.heap.Misplaced t a b := by
    have text : ∀ t ∈ [⟨2⟩, ⟨3⟩, ⟨4⟩], (Machine.twoTenLetter.heap.content t).isNumber = false →
        ∀ a ∈ [⟨2⟩, ⟨3⟩, ⟨4⟩], (Machine.twoTenLetter.heap.content a).isNumber = true →
          ¬Machine.twoTenLetter.heap.text t ≤ Machine.twoTenLetter.heap.text a := by decide +kernel
    exact fun t ht a ha b _ misplaced => text t ht misplaced.text a ha misplaced.first
      misplaced.before
  obtain ⟨-, -, sorts⟩ := sort_by_natural_order .refusing .twoTenLetter _ atoms
  obtain ⟨result, result', delivers, delivers', -, -, same⟩ :=
    sorts never ⟨0⟩ ⟨0⟩ ⟨1⟩ ⟨1⟩ _ rfl shows rfl shows' (by decide)
  exact ⟨result, result', delivers, delivers', same⟩

/-- `10` is before `5` as a text and `5` before `9`, but 9 is less than 10. However the three stand,
one is less than one that it is behind. -/
theorem not_sorted_naturally :
    naturalOrder Machine.nineTenFive.heap ⟨3⟩ ⟨4⟩ = .lt ∧
    naturalOrder Machine.nineTenFive.heap ⟨4⟩ ⟨2⟩ = .lt ∧
    naturalOrder Machine.nineTenFive.heap ⟨3⟩ ⟨2⟩ = .gt ∧
    ¬∃ result, Delivers (sort .refusing [⟨0⟩] .nineTenFive) (.ok result) .nineTenFive ∧
      result.Pairwise fun a b => naturalOrder Machine.nineTenFive.heap b a ≠ .lt := by
  refine ⟨by decide +kernel, by decide +kernel, by decide +kernel, ?_⟩
  rintro ⟨result, delivers, sorted⟩
  have sequence : Machine.nineTenFive.heap.content ⟨0⟩ = .sequence ⟨0⟩ := rfl
  obtain ⟨result', delivers', perm, -⟩ :=
      sort_natural_result .refusing sequence (Machine.shows_ofThree _ _ _).1
  obtain rfl := delivers.unique delivers'
  obtain ⟨a, b, c, rfl⟩ := List.length_eq_three.mp perm.length_eq
  have apart : [a, b, c].Nodup := perm.nodup_iff.mpr (by decide)
  have never : ∀ a ∈ [⟨2⟩, ⟨3⟩, ⟨4⟩], ∀ b ∈ [⟨2⟩, ⟨3⟩, ⟨4⟩], ∀ c ∈ [⟨2⟩, ⟨3⟩, ⟨4⟩],
    [a, b, c].Nodup →
      ¬[a, b, c].Pairwise fun a b => naturalOrder Machine.nineTenFive.heap b a ≠ .lt := by
        decide +kernel
  exact never a (perm.subset (by simp)) b (perm.subset (by simp)) c (perm.subset (by simp))
    apart sorted

end Library

end CellScript
