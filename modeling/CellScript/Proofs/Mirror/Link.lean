import CellScript.Dictionary
import CellScript.Fault
import Mathlib.Data.List.Forall2
import Mathlib.Data.Option.Basic
import Mathlib.Order.Basic

/-!
# Data in other places

Two machines may hold the same data in different places. Links say which places of the first machine
stand for which of the second one. As both machines go on and make new things, more places are
linked, and those that are linked stay so.

Data are alike when they are the same but for references, and the references are linked. Being alike
is a class, with an instance for each way to make data from data.

## Main definitions

* `Kind`, `Link`, `Links` — the kinds of places, and pairs of places.
* `Paired`, `Alike`, `Both` — what it means for data of a type to be alike.
* `Plain`, `Discrete` — types without references, whose data are alike when they are equal.
* `Faithful` — types whose data are told apart in the same way in both machines.

## Main statements

* Instances of `Alike` for options, lists, arrays and dictionaries.
-/

namespace CellScript.Mirror

/-- The kinds of places that references lead to. -/
inductive Kind where
  | cell
  | store
  | view
  | table
  | object
  | function
  | vars
  | script
  deriving DecidableEq

/-- Kinds of places that are made in the course of a run. -/
class Kind.Grows (kind : Kind) : Prop where
  other : Kind.script ≠ kind

instance : Kind.cell.Grows := ⟨nofun⟩
instance : Kind.store.Grows := ⟨nofun⟩
instance : Kind.view.Grows := ⟨nofun⟩
instance : Kind.table.Grows := ⟨nofun⟩
instance : Kind.object.Grows := ⟨nofun⟩
instance : Kind.function.Grows := ⟨nofun⟩
instance : Kind.vars.Grows := ⟨nofun⟩

/-- Which places of one machine stand for which of another one. No two stand for the same. -/
structure Link where
  of : Nat → Option Nat
  injective : ∀ {i j k : Nat}, of i = some k → of j = some k → i = j

/-- The links between two machines. -/
structure Links where
  link : Kind → Link

namespace Links

/-- No place stands for another. -/
def none : Links :=
  ⟨fun _ => ⟨fun _ => .none, nofun⟩⟩

/-- A place of the first machine stands for one of the second. -/
def Has (w : Links) (kind : Kind) (i j : Nat) : Prop :=
  (w.link kind).of i = some j

variable {w w' w'' : Links} {kind kind' : Kind} {i j k : Nat}

theorem Has.left_eq (h : w.Has kind i k) (h' : w.Has kind j k) : i = j :=
  (w.link kind).injective h h'

theorem Has.right_eq (h : w.Has kind i j) (h' : w.Has kind i k) : j = k :=
  Option.some.inj (h.symm.trans h')

theorem Has.eq_iff {i' j' : Nat} (h : w.Has kind i j) (h' : w.Has kind i' j') : j = j' ↔ i = i' :=
  ⟨fun same => (same ▸ h).left_eq h', fun same => h.right_eq (same ▸ h')⟩

/-- There are more links later. -/
instance : Preorder Links where
  le w w' := ∀ kind i j, w.Has kind i j → w'.Has kind i j
  le_refl _ _ _ _ := id
  le_trans _ _ _ h h' kind i j linked := h' kind i j (h kind i j linked)

/-- Links with one more, between places that had none. -/
def add (w : Links) (kind : Kind) (i j : Nat) (new : ∀ k, ¬ w.Has kind k j) : Links where
  link other :=
    if same : other = kind then
      { of := fun k => if k = i then some j else (w.link other).of k
        injective := by
          subst same
          intro a b c ha hb
          have new (k : Nat) : (w.link other).of k ≠ some j := new k
          by_cases hai : a = i <;> by_cases hbi : b = i <;>
            simp only [hai, hbi, if_true, if_false] at ha hb ⊢
          · exact absurd (hb.trans ha.symm) (new b)
          · exact absurd (ha.trans hb.symm) (new a)
          · exact (w.link other).injective ha hb }
    else w.link other

theorem has_add_iff (new : ∀ k, ¬ w.Has kind k j) {kind' : Kind} {a b : Nat} :
    (w.add kind i j new).Has kind' a b ↔
      if kind' = kind ∧ a = i then b = j else w.Has kind' a b := by
  unfold Has add
  by_cases same : kind' = kind
  · subst same
    by_cases first : a = i
    · simp [first, eq_comm]
    · simp [first]
  · simp [same]

theorem has_add (new : ∀ k, ¬ w.Has kind k j) : (w.add kind i j new).Has kind i j := by
  simp [has_add_iff]

theorem has_add_of_ne (new : ∀ k, ¬ w.Has kind k j) (ne : kind' ≠ kind) {a b : Nat} :
    (w.add kind i j new).Has kind' a b ↔ w.Has kind' a b := by
  simp [has_add_iff, ne]

theorem le_add (new : ∀ k, ¬ w.Has kind k j) (unlinked : ∀ k, ¬ w.Has kind i k) :
    w ≤ w.add kind i j new := by
  intro kind' a b h
  rw [has_add_iff]
  split
  · rename_i same
    obtain ⟨rfl, rfl⟩ := same
    exact absurd h (unlinked b)
  · exact h

/-- The links after a while. Scripts stand for what they stood for. -/
structure Later (w : Links) where
  now : Links
  le : w ≤ now
  scripts : ∀ {i j : Nat}, now.Has .script i j → w.Has .script i j

/-- No time has passed. -/
def here (w : Links) : w.Later :=
  ⟨w, le_rfl, id⟩

def Later.after (v : w.Later) (v' : v.now.Later) : w.Later :=
  ⟨v'.now, v.le.trans v'.le, fun h => v.scripts (v'.scripts h)⟩

end Links

variable {w w' : Links} {α β γ : Type}

/-! ## Data that are alike -/

/-- A type of data, with what it means for them to be alike. -/
class Paired (α : Type) where
  rel : Links → α → α → Prop
  mono : ∀ {w w' : Links} {a b : α}, w ≤ w' → rel w a b → rel w' a b

/-- Data of two machines that are the same but for references, and the references are linked. -/
class Alike [Paired α] (w : Links) (a b : α) : Prop where
  rel : Paired.rel w a b

/-- Data of both machines. -/
structure Both (w : Links) (α : Type) [Paired α] where
  left : α
  right : α
  rel : Paired.rel w left right

instance [Paired α] (p : Both w α) : Alike w p.left p.right := ⟨p.rel⟩

/-- What is alike stays so. -/
instance (priority := low) [Paired α] (v : w.Later) (a b : α) [h : Alike w a b] : Alike v.now a b :=
  ⟨Paired.mono v.le h.rel⟩

theorem Alike.mono [Paired α] {a b : α} (h : Alike w a b) (le : w ≤ w') : Alike w' a b :=
  ⟨Paired.mono le h.rel⟩

/-- A type whose data have no references. -/
class Plain (α : Type) : Prop where

instance (priority := low) [Plain α] : Paired α := ⟨fun _ a b => a = b, fun _ h => h⟩

/-- A type whose data are alike only when they are equal. -/
class Discrete (α : Type) [Paired α] : Prop where
  rel_iff : ∀ {w : Links} {a b : α}, Paired.rel w a b ↔ a = b

instance [Plain α] : Discrete α := ⟨Iff.rfl⟩

instance [Paired α] [Discrete α] (a : α) : Alike w a a := ⟨Discrete.rel_iff.mpr rfl⟩

theorem Alike.eq [Paired α] [Discrete α] {a b : α} (h : Alike w a b) : a = b :=
  Discrete.rel_iff.mp h.rel

/-- A type whose data are equal on one side when they are on the other. -/
class Faithful (α : Type) [Paired α] : Prop where
  eq_iff : ∀ {w : Links} {a b a' b' : α}, Paired.rel w a b → Paired.rel w a' b' → (b = b' ↔ a = a')

instance [Paired α] [Discrete α] : Faithful α where
  eq_iff h h' := by rw [Discrete.rel_iff.mp h, Discrete.rel_iff.mp h']

theorem Alike.eq_iff [Paired α] [Faithful α] {a b a' b' : α} (h : Alike w a b)
    (h' : Alike w a' b') :
    b = b' ↔ a = a' :=
  Faithful.eq_iff h.rel h'.rel

theorem Alike.beq_eq [Paired α] [Faithful α] [DecidableEq α] {a b a' b' : α} (h : Alike w a b)
    (h' : Alike w a' b') :
    (b == b') = (a == a') := by
  have same := h.eq_iff h'
  rw [Bool.eq_iff_iff, beq_iff_eq, beq_iff_eq, same]

instance : Plain Unit := ⟨⟩
instance : Plain Bool := ⟨⟩
instance : Plain Nat := ⟨⟩
instance : Plain Int := ⟨⟩
instance : Plain Int64 := ⟨⟩
instance : Plain UInt8 := ⟨⟩
instance : Plain UInt32 := ⟨⟩
instance : Plain Float := ⟨⟩
instance : Plain Char := ⟨⟩
instance : Plain String := ⟨⟩
instance : Plain Ordering := ⟨⟩
instance : Plain BadIndex := ⟨⟩
instance : Plain BadCast := ⟨⟩
instance : Plain NullUse := ⟨⟩
instance : Plain Staleness := ⟨⟩
instance : Plain Mishap := ⟨⟩

instance [Paired α] (c : Prop) [Decidable c] (a b a' b' : α) [Alike w a b] [Alike w a' b'] :
    Alike w (if c then a else a') (if c then b else b') := by
  split <;> infer_instance

instance [Paired α] (a b : α) [h : Alike w a b] : Alike w (id a) (id b) := h

instance (a b : Bool) [h : Alike w a b] : Alike w (!a) (!b) := ⟨congrArg not h.eq⟩

instance (a b a' b' : Bool) [h : Alike w a b] [h' : Alike w a' b'] : Alike w (a && a') (b && b') :=
  ⟨congrArg₂ and h.eq h'.eq⟩

instance [Paired α] [Discrete α] [BEq α] (a b a' b' : α) [h : Alike w a b] [h' : Alike w a' b'] :
    Alike w (a == a') (b == b') := ⟨congrArg₂ BEq.beq h.eq h'.eq⟩

instance [Paired α] [Discrete α] [LT α] [DecidableLT α] (a b a' b' : α) [h : Alike w a b]
    [h' : Alike w a' b'] :
    Alike w (decide (a < a')) (decide (b < b')) := by
  rw [h.eq, h'.eq]
  infer_instance

instance [Paired α] (c d : Bool) (a b a' b' : α) [h : Alike w c d] [Alike w a b] [Alike w a' b'] :
    Alike w (if c then a else a') (if d then b else b') := by
  rw [h.eq]
  infer_instance

/-! ## References -/

/-- A type of references to places of a kind. -/
class Reference (α : Type) where
  kind : Kind
  index : α → Nat
  injective : Function.Injective index

instance [Reference α] : Paired α :=
  ⟨fun w a b => w.Has (Reference.kind α) (Reference.index a) (Reference.index b),
    fun le h => le _ _ _ h⟩

instance [Reference α] : Faithful α :=
  ⟨fun h h' => Reference.injective.eq_iff.symm.trans
    ((Links.Has.eq_iff h h').trans Reference.injective.eq_iff)⟩

instance : Reference CellRef := ⟨.cell, (·.index), fun ⟨_⟩ ⟨_⟩ => congrArg _⟩
instance : Reference SequenceRef := ⟨.view, (·.index), fun ⟨_⟩ ⟨_⟩ => congrArg _⟩
instance : Reference TableRef := ⟨.table, (·.index), fun ⟨_⟩ ⟨_⟩ => congrArg _⟩
instance : Reference ObjectRef := ⟨.object, (·.index), fun ⟨_⟩ ⟨_⟩ => congrArg _⟩
instance : Reference FunctionRef := ⟨.function, (·.index), fun ⟨_⟩ ⟨_⟩ => congrArg _⟩
instance : Reference VarsRef := ⟨.vars, (·.index), fun ⟨_⟩ ⟨_⟩ => congrArg _⟩
instance : Reference ScriptRef := ⟨.script, (·.index), fun ⟨_⟩ ⟨_⟩ => congrArg _⟩

/-! ## Pairs, options and results -/

instance [Paired α] [Paired β] : Paired (α × β) where
  rel w p q := Paired.rel w p.1 q.1 ∧ Paired.rel w p.2 q.2
  mono le h := ⟨Paired.mono le h.1, Paired.mono le h.2⟩

instance [Paired α] [Paired β] [Discrete α] [Discrete β] : Discrete (α × β) where
  rel_iff := (and_congr Discrete.rel_iff Discrete.rel_iff).trans Prod.ext_iff.symm

instance [Paired α] [Paired β] (a a' : α) (b b' : β) [h : Alike w a a'] [h' : Alike w b b'] :
    Alike w (a, b) (a', b') := ⟨h.rel, h'.rel⟩

instance [Paired α] [Paired β] (p q : α × β) [h : Alike w p q] : Alike w p.1 q.1 := ⟨h.rel.1⟩

instance [Paired α] [Paired β] (p q : α × β) [h : Alike w p q] : Alike w p.2 q.2 := ⟨h.rel.2⟩

instance [Paired α] : Paired (Option α) where
  rel w := Option.Rel (Paired.rel w)
  mono le
    | .some h => .some (Paired.mono le h)
    | .none => .none

instance [Paired α] [Discrete α] : Discrete (Option α) where
  rel_iff {_ a b} := by
    constructor
    · rintro (h | _)
      · exact congrArg some (Discrete.rel_iff.mp h)
      · rfl
    · rintro rfl
      cases a with
      | some a => exact .some (Discrete.rel_iff.mpr rfl)
      | none => exact .none

instance [Paired α] : Alike w (none : Option α) none := ⟨.none⟩

instance [Paired α] (a b : α) [h : Alike w a b] : Alike w (some a) (some b) := ⟨.some h.rel⟩

/-- Two options that are alike are both there or both not. -/
theorem Alike.option [Paired α] {a b : Option α} (h : Alike w a b) :
    (a = none ∧ b = none) ∨ ∃ x y, a = some x ∧ b = some y ∧ Alike w x y := by
  obtain ⟨h | _⟩ := h
  · exact .inr ⟨_, _, rfl, rfl, ⟨h⟩⟩
  · exact .inl ⟨rfl, rfl⟩

instance [Paired α] (a b : Option α) (c d : α) [h : Alike w a b] [h' : Alike w c d] :
    Alike w (a.getD c) (b.getD d) := by
  obtain ⟨rfl, rfl⟩ | ⟨x, y, rfl, rfl, found⟩ := h.option
  · exact h'
  · exact found

theorem Alike.isSome_eq [Paired α] {a b : Option α} (h : Alike w a b) : a.isSome = b.isSome := by
  obtain ⟨rfl, rfl⟩ | ⟨x, y, rfl, rfl, -⟩ := h.option <;> rfl

instance [Paired α] (a b : Option α) [h : Alike w a b] : Alike w a.isSome b.isSome := ⟨h.isSome_eq⟩

instance [Paired α] (a b : Option α) [h : Alike w a b] : Alike w a.isNone b.isNone := by
  obtain ⟨rfl, rfl⟩ | ⟨x, y, rfl, rfl, -⟩ := h.option <;> exact ⟨rfl⟩

theorem Alike.map [Paired α] [Paired β] {f g : α → β} {a b : Option α} (h : Alike w a b)
    (hf : ∀ x y, Alike w x y → Alike w (f x) (g y)) : Alike w (a.map f) (b.map g) := by
  obtain ⟨rfl, rfl⟩ | ⟨x, y, rfl, rfl, found⟩ := h.option
  · exact ⟨.none⟩
  · exact ⟨.some (hf x y found).rel⟩

theorem Alike.filterOption [Paired α] {p q : α → Bool} {a b : Option α} (h : Alike w a b)
    (hp : ∀ x y, Alike w x y → p x = q y) : Alike w (a.filter p) (b.filter q) := by
  obtain ⟨rfl, rfl⟩ | ⟨x, y, rfl, rfl, found⟩ := h.option
  · exact ⟨.none⟩
  · rw [Option.filter_some, Option.filter_some, hp x y found]
    infer_instance

instance [Paired α] [Paired β] : Paired (α ⊕ β) where
  rel w := Sum.LiftRel (Paired.rel w) (Paired.rel w)
  mono le h := h.mono (fun _ _ => Paired.mono le) fun _ _ => Paired.mono le

instance [Paired α] [Paired β] (a b : α) [h : Alike w a b] :
    Alike w (Sum.inl a : α ⊕ β) (Sum.inl b) := ⟨.inl h.rel⟩

instance [Paired α] [Paired β] (a b : β) [h : Alike w a b] :
    Alike w (Sum.inr a : α ⊕ β) (Sum.inr b) := ⟨.inr h.rel⟩

/-- Results that are alike, both values or both failures. -/
inductive Results [Paired α] [Paired β] (w : Links) : Except α β → Except α β → Prop where
  | ok {a b : β} : Paired.rel w a b → Results w (.ok a) (.ok b)
  | error {a b : α} : Paired.rel w a b → Results w (.error a) (.error b)

instance [Paired α] [Paired β] : Paired (Except α β) where
  rel := Results
  mono le
    | .ok h => .ok (Paired.mono le h)
    | .error h => .error (Paired.mono le h)

instance [Paired α] [Paired β] [Discrete α] [Discrete β] : Discrete (Except α β) where
  rel_iff {_ r r'} := by
    constructor
    · rintro (h | h) <;> rw [Discrete.rel_iff.mp h]
    · rintro rfl
      cases r with
      | ok => exact .ok (Discrete.rel_iff.mpr rfl)
      | error => exact .error (Discrete.rel_iff.mpr rfl)

instance [Paired α] [Paired β] (a b : β) [h : Alike w a b] :
    Alike w (Except.ok a : Except α β) (.ok b) := ⟨.ok h.rel⟩

instance [Paired α] [Paired β] (a b : α) [h : Alike w a b] :
    Alike w (Except.error a : Except α β) (.error b) :=
  ⟨.error h.rel⟩

/-- Two results that are alike are both failures or both not. -/
theorem Alike.except [Paired α] [Paired β] {r r' : Except α β} (h : Alike w r r') :
    (∃ x y, r = .error x ∧ r' = .error y ∧ Alike w x y) ∨ ∃ x y, r = .ok x ∧ r' = .ok y ∧
    Alike w x y := by
  obtain ⟨h | h⟩ := h
  · exact .inr ⟨_, _, rfl, rfl, ⟨h⟩⟩
  · exact .inl ⟨_, _, rfl, rfl, ⟨h⟩⟩

/-- A result that is the same for both. -/
theorem Alike.result [Paired α] [Paired β] {r : Except α β} (h : Alike w r r) :
    (∃ x, r = .error x ∧ Alike w x x) ∨ ∃ y, r = .ok y ∧ Alike w y y := by
  cases r with
  | error x =>
    obtain ⟨_ | h⟩ := h
    exact .inl ⟨x, rfl, ⟨h⟩⟩
  | ok y =>
    obtain ⟨h | _⟩ := h
    exact .inr ⟨y, rfl, ⟨h⟩⟩

theorem Alike.mapExcept [Paired α] [Paired β] [Paired γ] {f g : α → β} {r r' : Except γ α}
    (h : Alike w r r') (hf : ∀ a b, Alike w a b → Alike w (f a) (g b)) :
    Alike w (r.map f) (r'.map g) := by
  obtain ⟨x, y, rfl, rfl, failed⟩ | ⟨x, y, rfl, rfl, same⟩ := h.except
  · exact inferInstanceAs (Alike w (Except.error x) (Except.error y))
  · have := hf x y same
    exact inferInstanceAs (Alike w (Except.ok (f x)) (Except.ok (g y)))

/-! ## Lists -/

instance [Paired α] : Paired (List α) where
  rel w := List.Forall₂ (Paired.rel w)
  mono le h := h.imp fun _ _ => Paired.mono le

instance [Paired α] [Discrete α] : Discrete (List α) where
  rel_iff := by
    intro w as bs
    constructor
    · intro h
      induction h with
      | nil => rfl
      | cons h _ ih => rw [Discrete.rel_iff.mp h, ih]
    · rintro rfl
      exact List.forall₂_same.mpr fun _ _ => Discrete.rel_iff.mpr rfl

section Lists

variable [Paired α] [Paired β]

instance : Alike w ([] : List α) [] := ⟨List.Forall₂.nil⟩

instance (a b : α) (as bs : List α) [h : Alike w a b] [hs : Alike w as bs] :
    Alike w (a :: as) (b :: bs) :=
  ⟨List.Forall₂.cons h.rel hs.rel⟩

theorem Alike.cons {a b : α} {as bs : List α} (h : Alike w (a :: as) (b :: bs)) :
    Alike w a b ∧ Alike w as bs := by
  obtain ⟨_ | ⟨h, hs⟩⟩ := h
  exact ⟨⟨h⟩, ⟨hs⟩⟩

/-- Two lists that are alike are both empty or both not. -/
theorem Alike.list {as bs : List α} (h : Alike w as bs) :
    (as = [] ∧ bs = []) ∨ ∃ x y xs ys, as = x :: xs ∧ bs = y :: ys ∧ Alike w x y ∧
    Alike w xs ys := by
  obtain ⟨_ | ⟨h, hs⟩⟩ := h
  · exact .inl ⟨rfl, rfl⟩
  · exact .inr ⟨_, _, _, _, rfl, rfl, ⟨h⟩, ⟨hs⟩⟩

variable {as bs : List α}

theorem Alike.length_eq (h : Alike w as bs) : as.length = bs.length :=
  List.Forall₂.length_eq h.rel

instance [h : Alike w as bs] : Alike w as.length bs.length := ⟨h.length_eq⟩

theorem Alike.isEmpty_eq (h : Alike w as bs) : as.isEmpty = bs.isEmpty := by
  obtain ⟨rfl, rfl⟩ | ⟨_, _, _, _, rfl, rfl, -⟩ := h.list <;> rfl

/-- What is made of the elements one by one. -/
theorem Alike.mapList {f g : α → β} (h : Alike w as bs)
    (hf : ∀ a b, Alike w a b → Alike w (f a) (g b)) :
    Alike w (as.map f) (bs.map g) :=
  ⟨List.forall₂_map_left_iff.mpr (List.forall₂_map_right_iff.mpr (List.Forall₂.imp
    (fun a b h => (hf a b ⟨h⟩).rel) h.rel))⟩

/-- The elements that satisfy two conditions that agree on them. -/
instance {as bs : List (α × β)} [h : Alike w as bs] : Alike w (as.map (·.1)) (bs.map (·.1)) :=
  h.mapList fun _ _ _ => inferInstance

instance {as bs : List (α × β)} [h : Alike w as bs] : Alike w (as.map (·.2)) (bs.map (·.2)) :=
  h.mapList fun _ _ _ => inferInstance

theorem Alike.mapIdx {f g : Nat → α → β} (h : Alike w as bs)
    (hf : ∀ i a b, Alike w a b → Alike w (f i a) (g i b)) :
    Alike w (as.mapIdx f) (bs.mapIdx g) := by
  induction as generalizing bs f g with
  | nil =>
    obtain ⟨-, rfl⟩ | ⟨_, _, _, _, ⟨⟩, -⟩ := h.list
    exact ⟨.nil⟩
  | cons a as ih =>
    obtain ⟨⟨⟩, -⟩ | ⟨_, b, _, bs, ⟨rfl, rfl⟩, rfl, hd, tl⟩ := h.list
    have := hf 0 a b hd
    have := ih tl fun i => hf (i + 1)
    rw [List.mapIdx_cons, List.mapIdx_cons]
    infer_instance

theorem Alike.filter {p q : α → Bool} (h : Alike w as bs) (hp : ∀ a b, Alike w a b → p a = q b) :
    Alike w (as.filter p) (bs.filter q) := by
  induction as generalizing bs with
  | nil =>
    obtain ⟨-, rfl⟩ | ⟨_, _, _, _, ⟨⟩, -⟩ := h.list
    exact ⟨List.Forall₂.nil⟩
  | cons a as ih =>
    obtain ⟨⟨⟩, -⟩ | ⟨_, b, _, bs, ⟨rfl, rfl⟩, rfl, hd, tl⟩ := h.list
    have := ih tl
    rw [List.filter_cons, List.filter_cons, hp a b hd]
    split <;> infer_instance

theorem Alike.filterMap {f g : α → Option β} (h : Alike w as bs)
    (hf : ∀ a b, Alike w a b → Alike w (f a) (g b)) :
    Alike w (as.filterMap f) (bs.filterMap g) := by
  induction as generalizing bs with
  | nil =>
    obtain ⟨-, rfl⟩ | ⟨_, _, _, _, ⟨⟩, -⟩ := h.list
    exact ⟨List.Forall₂.nil⟩
  | cons a as ih =>
    obtain ⟨⟨⟩, -⟩ | ⟨_, b, _, bs, ⟨rfl, rfl⟩, rfl, hd, tl⟩ := h.list
    have := ih tl
    rw [List.filterMap_cons, List.filterMap_cons]
    obtain ⟨ha, hb⟩ | ⟨x, y, ha, hb, _⟩ := (hf a b hd).option <;> rw [ha, hb] <;> infer_instance

theorem Alike.any_eq {p q : α → Bool} (h : Alike w as bs) (hp : ∀ a b, Alike w a b → p a = q b) :
    as.any p = bs.any q := by
  induction as generalizing bs with
  | nil =>
    obtain ⟨-, rfl⟩ | ⟨_, _, _, _, ⟨⟩, -⟩ := h.list
    rfl
  | cons a as ih =>
    obtain ⟨⟨⟩, -⟩ | ⟨_, b, _, bs, ⟨rfl, rfl⟩, rfl, hd, tl⟩ := h.list
    rw [List.any_cons, List.any_cons, hp a b hd, ih tl]

theorem Alike.find? {p q : α → Bool} (h : Alike w as bs) (hp : ∀ a b, Alike w a b → p a = q b) :
    Alike w (as.find? p) (bs.find? q) := by
  induction as generalizing bs with
  | nil =>
    obtain ⟨-, rfl⟩ | ⟨_, _, _, _, ⟨⟩, -⟩ := h.list
    exact ⟨.none⟩
  | cons a as ih =>
    obtain ⟨⟨⟩, -⟩ | ⟨_, b, _, bs, ⟨rfl, rfl⟩, rfl, hd, tl⟩ := h.list
    rw [List.find?_cons, List.find?_cons, hp a b hd]
    split
    · infer_instance
    · exact ih tl

theorem Alike.findSome? {f g : α → Option β} (h : Alike w as bs)
    (hf : ∀ a b, Alike w a b → Alike w (f a) (g b)) :
    Alike w (as.findSome? f) (bs.findSome? g) := by
  induction as generalizing bs with
  | nil =>
    obtain ⟨-, rfl⟩ | ⟨_, _, _, _, ⟨⟩, -⟩ := h.list
    exact ⟨.none⟩
  | cons a as ih =>
    obtain ⟨⟨⟩, -⟩ | ⟨_, b, _, bs, ⟨rfl, rfl⟩, rfl, hd, tl⟩ := h.list
    rw [List.findSome?_cons, List.findSome?_cons]
    obtain ⟨ha, hb⟩ | ⟨x, y, ha, hb, _⟩ := (hf a b hd).option <;> rw [ha, hb]
    · exact ih tl
    · infer_instance

/-- What is made of the elements one by one, when it has no references. -/
theorem Alike.mapEq {γ : Type} {f g : α → γ} (h : Alike w as bs)
    (hf : ∀ a b, Alike w a b → f a = g b) :
    as.map f = bs.map g := by
  induction as generalizing bs with
  | nil =>
    obtain ⟨-, rfl⟩ | ⟨_, _, _, _, ⟨⟩, -⟩ := h.list
    rfl
  | cons a as ih =>
    obtain ⟨⟨⟩, -⟩ | ⟨_, b, _, bs, ⟨rfl, rfl⟩, rfl, hd, tl⟩ := h.list
    rw [List.map_cons, List.map_cons, hf a b hd, ih tl]

theorem Alike.contains_eq [Faithful α] [DecidableEq α] {a b : α} (h : Alike w as bs)
    (same : Alike w a b) :
    as.contains a = bs.contains b := by
  rw [List.contains_eq_any_beq, List.contains_eq_any_beq]
  exact h.any_eq fun _ _ here => (same.beq_eq here).symm

instance (i : Nat) [h : Alike w as bs] : Alike w as[i]? bs[i]? := by
  have length := h.length_eq
  have same := (List.forall₂_iff_get.mp h.rel).2
  by_cases inside : i < as.length
  · rw [List.getElem?_eq_getElem inside, List.getElem?_eq_getElem (length ▸ inside)]
    exact ⟨.some (same i inside _)⟩
  · rw [List.getElem?_eq_none (by omega), List.getElem?_eq_none (by omega)]
    infer_instance

instance [h : Alike w as bs] : Alike w as.head? bs.head? := by
  obtain ⟨rfl, rfl⟩ | ⟨_, _, _, _, rfl, rfl, _, -⟩ := h.list
  · exact ⟨.none⟩
  · rw [List.head?_cons, List.head?_cons]
    infer_instance

instance (a b : α) [h : Alike w as bs] [Alike w a b] : Alike w (as.headD a) (bs.headD b) := by
  obtain ⟨rfl, rfl⟩ | ⟨_, _, _, _, rfl, rfl, _, -⟩ := h.list <;> assumption

instance [h : Alike w as bs] : Alike w as.tail bs.tail := by
  obtain ⟨rfl, rfl⟩ | ⟨_, _, _, _, rfl, rfl, -, _⟩ := h.list
  · exact ⟨List.Forall₂.nil⟩
  · assumption

instance (n : Nat) [h : Alike w as bs] : Alike w (as.drop n) (bs.drop n) :=
  ⟨List.forall₂_drop n h.rel⟩

instance (n : Nat) [h : Alike w as bs] : Alike w (as.take n) (bs.take n) :=
  ⟨List.forall₂_take n h.rel⟩

instance [h : Alike w as bs] : Alike w as.reverse bs.reverse := ⟨List.rel_reverse h.rel⟩

instance (as' bs' : List α) [h : Alike w as bs] [h' : Alike w as' bs'] :
    Alike w (as ++ as') (bs ++ bs') :=
  ⟨List.rel_append h.rel h'.rel⟩

instance [h : Alike w as bs] : Alike w as.getLast? bs.getLast? := by
  rw [List.getLast?_eq_head?_reverse, List.getLast?_eq_head?_reverse]
  infer_instance

instance (a b : α) [Alike w as bs] [Alike w a b] : Alike w (as.getLastD a) (bs.getLastD b) := by
  rw [List.getLastD_eq_getLast?, List.getLastD_eq_getLast?]
  infer_instance

/-- What is made of the elements one by one, unless that fails. -/
theorem Alike.mapM {ε : Type} [Paired ε] {f g : α → Except ε β} (h : Alike w as bs)
    (hf : ∀ a b, Alike w a b → Alike w (f a) (g b)) : Alike w (as.mapM f) (bs.mapM g) := by
  induction as generalizing bs with
  | nil =>
    obtain ⟨-, rfl⟩ | ⟨_, _, _, _, ⟨⟩, -⟩ := h.list
    exact inferInstanceAs (Alike w (Except.ok []) (Except.ok []))
  | cons a as ih =>
    obtain ⟨⟨⟩, -⟩ | ⟨_, b, _, bs, ⟨rfl, rfl⟩, rfl, hd, tl⟩ := h.list
    rw [List.mapM_cons, List.mapM_cons]
    obtain ⟨x, y, hx, hy, failed⟩ | ⟨x, y, hx, hy, first⟩ := (hf a b hd).except
    · rw [hx, hy]
      exact inferInstanceAs (Alike w (Except.error x) (Except.error y))
    · obtain ⟨xs, ys, hxs, hys, failed⟩ | ⟨xs, ys, hxs, hys, rest⟩ := (ih tl).except
      · rw [hx, hy, hxs, hys]
        exact inferInstanceAs (Alike w (Except.error xs) (Except.error ys))
      · rw [hx, hy, hxs, hys]
        exact inferInstanceAs (Alike w (Except.ok (x :: xs)) (Except.ok (y :: ys)))

end Lists

/-! ## Arrays -/

instance [Paired α] : Paired (Array α) where
  rel w as bs := Paired.rel w as.toList bs.toList
  mono le h := Paired.mono le h

section Arrays

variable [Paired α] {as bs : Array α}

theorem Alike.toList (h : Alike w as bs) : Alike w as.toList bs.toList := ⟨h.rel⟩

theorem Alike.size_eq (h : Alike w as bs) : as.size = bs.size := h.toList.length_eq

instance (i : Nat) [h : Alike w as bs] : Alike w as[i]? bs[i]? := by
  rw [← Array.getElem?_toList, ← Array.getElem?_toList]
  have := h.toList
  infer_instance

instance (i : Nat) (a b : α) [Alike w as bs] [Alike w a b] :
    Alike w (as.getD i a) (bs.getD i b) := by
  rw [Array.getD_eq_getD_getElem?, Array.getD_eq_getD_getElem?]
  infer_instance

instance (a b : α) [h : Alike w as bs] [Alike w a b] : Alike w (as.push a) (bs.push b) := by
  have pushed : Alike w (as.toList ++ [a]) (bs.toList ++ [b]) :=
    have := h.toList
    inferInstance
  rw [← Array.toList_push, ← Array.toList_push] at pushed
  exact ⟨pushed.rel⟩

/-- Arrays are alike when they are of one size and alike at each index. -/
theorem Alike.ofGet (size : as.size = bs.size)
    (h : ∀ (i : Nat) (hi : i < as.size) (hi' : i < bs.size), Alike w as[i] bs[i]) : Alike w as bs :=
  ⟨List.forall₂_iff_get.mpr ⟨size, fun i hi hi' => (h i hi hi').rel⟩⟩

theorem Alike.get (h : Alike w as bs) (i : Nat) (hi : i < as.size) (hi' : i < bs.size) :
    Alike w as[i] bs[i] :=
  ⟨(List.forall₂_iff_get.mp h.rel).2 i hi hi'⟩

theorem Alike.modify {f g : α → α} (h : Alike w as bs) (i : Nat)
    (hf : ∀ a b, Alike w a b → Alike w (f a) (g b)) :
    Alike w (as.modify i f) (bs.modify i g) := by
  refine .ofGet (by simpa using h.size_eq) fun j hj hj' => ?_
  have same := h.get j (by simpa using hj) (by simpa using hj')
  rw [Array.getElem_modify, Array.getElem_modify]
  split
  · exact hf _ _ same
  · exact same

instance (i : Nat) (a b : α) [h : Alike w as bs] [h' : Alike w a b] :
    Alike w (as.setIfInBounds i a) (bs.setIfInBounds i b) := by
  refine .ofGet (by simpa using h.size_eq) fun j hj hj' => ?_
  have same := h.get j (by simpa using hj) (by simpa using hj')
  rw [Array.getElem_setIfInBounds (by simpa using hj),
    Array.getElem_setIfInBounds (by simpa using hj')]
  split
  · exact h'
  · exact same

end Arrays

/-! ## Dictionaries -/

instance [Paired α] : Paired (Dictionary α) where
  rel w d d' := Paired.rel w d.entries d'.entries
  mono le h := Paired.mono le h

section Dictionaries

variable [Paired α] {d d' : Dictionary α}

theorem Alike.entries (h : Alike w d d') : Alike w d.entries d'.entries := ⟨h.rel⟩

instance : Alike w (Dictionary.empty : Dictionary α) .empty := ⟨List.Forall₂.nil⟩

instance : Alike w (default : Dictionary α) default := ⟨List.Forall₂.nil⟩

theorem Alike.entry {e e' : String × α} (h : Alike w e e') :
    ∃ name a b, e = (name, a) ∧ e' = (name, b) ∧ Alike w a b := by
  obtain ⟨name, a⟩ := e
  obtain ⟨name', b⟩ := e'
  obtain ⟨⟨rfl : name = name', h⟩⟩ := h
  exact ⟨name, a, b, rfl, rfl, ⟨h⟩⟩

/-- What is made of entries one by one, when it has no references. -/
theorem Alike.mapEntriesEq {es es' : List (String × α)} {f g : String × α → γ} (h : Alike w es es')
    (same : ∀ name a b, Alike w a b → f (name, a) = g (name, b)) : es.map f = es'.map g := by
  refine h.mapEq fun e e' paired => ?_
  obtain ⟨name, a, b, rfl, rfl, alike⟩ := paired.entry
  exact same name a b alike

theorem alike_find? (name : String) (es es' : List (String × α)) (h : Alike w es es') :
    Alike w (Dictionary.find? name es) (Dictionary.find? name es') := by
  induction es generalizing es' with
  | nil =>
    obtain ⟨-, rfl⟩ | ⟨_, _, _, _, ⟨⟩, -⟩ := h.list
    exact ⟨.none⟩
  | cons e es ih =>
    obtain ⟨⟨⟩, -⟩ | ⟨_, e', _, es', ⟨rfl, rfl⟩, rfl, hd, tl⟩ := h.list
    obtain ⟨key, a, b, rfl, rfl, _⟩ := hd.entry
    rw [Dictionary.find?, Dictionary.find?]
    split
    · infer_instance
    · exact ih es' tl

instance (name : String) [h : Alike w d d'] : Alike w (d.get? name) (d'.get? name) :=
  alike_find? name _ _ h.entries

theorem alike_insertInto (name : String) (a b : α) (es es' : List (String × α)) [Alike w a b]
    (h : Alike w es es') :
    Alike w (Dictionary.insertInto name a es) (Dictionary.insertInto name b es') := by
  induction es generalizing es' with
  | nil =>
    obtain ⟨-, rfl⟩ | ⟨_, _, _, _, ⟨⟩, -⟩ := h.list
    rw [Dictionary.insertInto, Dictionary.insertInto]
    infer_instance
  | cons e es ih =>
    obtain ⟨⟨⟩, -⟩ | ⟨_, e', _, es', ⟨rfl, rfl⟩, rfl, hd, tl⟩ := h.list
    obtain ⟨key, x, y, rfl, rfl, _⟩ := hd.entry
    have := ih es' tl
    rw [Dictionary.insertInto, Dictionary.insertInto]
    split
    · infer_instance
    · split <;> infer_instance

instance (name : String) (a b : α) [h : Alike w d d'] [Alike w a b] :
    Alike w (d.insert name a) (d'.insert name b) :=
  ⟨(alike_insertInto name a b _ _ h.entries).rel⟩

theorem alike_eraseFrom (name : String) (es es' : List (String × α)) (h : Alike w es es') :
    Alike w (Dictionary.eraseFrom name es) (Dictionary.eraseFrom name es') := by
  induction es generalizing es' with
  | nil =>
    obtain ⟨-, rfl⟩ | ⟨_, _, _, _, ⟨⟩, -⟩ := h.list
    exact ⟨List.Forall₂.nil⟩
  | cons e es ih =>
    obtain ⟨⟨⟩, -⟩ | ⟨_, e', _, es', ⟨rfl, rfl⟩, rfl, hd, tl⟩ := h.list
    obtain ⟨key, x, y, rfl, rfl, _⟩ := hd.entry
    have := ih es' tl
    rw [Dictionary.eraseFrom, Dictionary.eraseFrom]
    split <;> infer_instance

instance (name : String) [h : Alike w d d'] : Alike w (d.erase name) (d'.erase name) :=
  ⟨(alike_eraseFrom name _ _ h.entries).rel⟩

instance (name : String) [h : Alike w d d'] : Alike w (d.contains name) (d'.contains name) :=
  inferInstanceAs (Alike w (d.get? name).isSome (d'.get? name).isSome)

instance [h : Alike w d d'] : Alike w d.values d'.values :=
  h.entries.mapList fun _ _ _ => inferInstance

theorem Alike.keys_eq (h : Alike w d d') : d.keys = d'.keys :=
  (h.entries.mapList (f := Prod.fst) (g := Prod.fst) fun _ _ _ => inferInstance).eq

theorem Alike.dictionarySize_eq (h : Alike w d d') : d.size = d'.size := h.entries.length_eq

end Dictionaries

end CellScript.Mirror
