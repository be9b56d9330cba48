import CellScript.Heap.Container
import CellScript.Proofs.Heap.Walk

/-!
# Marking and clearing all that can be reached

Marking comes to all that can be reached through sequences, maps and pairs. Clearing does not go
into pairs: what can only be reached through them keeps its mark, so that clearing undoes marking
just when there is nothing of the kind.

A mark is a decorator around a value. `Decorated` is a value as it is nested; there is never more
than one decorator.

## Main definitions

* `Decorated` — content with decorators around it.
* `Value.decorated` — a value in this form.

## Main statements

* `Heap.taintDeep_marks_reached` — what is marked.
* `Heap.sanitizeDeep_clears_unpaired` — what is cleared, and when this undoes marking.
-/

namespace CellScript

/-! ## Decorators -/

/-- Content with any number of taint decorators around it. -/
inductive Decorated where
  | plain (content : Content)
  | tainted (under : Decorated)

namespace Decorated

/-- Put a decorator around, unless there is one. -/
def mark : Decorated → Decorated
  | .plain content => .tainted (.plain content)
  | .tainted under => .tainted under

/-- Take the outermost decorator away. -/
def clear : Decorated → Decorated
  | .plain content => .plain content
  | .tainted under => under

/-- There is no decorator around another. -/
def IsSingle : Decorated → Prop
  | .tainted (.tainted _) => False
  | _ => True

theorem IsSingle.mark {v : Decorated} (single : v.IsSingle) : v.mark.IsSingle := by
  cases v with
  | plain => trivial
  | tainted => exact single

end Decorated

namespace Value

/-- The value with a decorator for its mark. -/
def decorated (v : Value) : Decorated :=
  if v.tainted then .tainted (.plain v.content) else .plain v.content

theorem isSingle_decorated (v : Value) : v.decorated.IsSingle := by
  unfold decorated
  split <;> trivial

@[simp] theorem decorated_taint (v : Value) : v.taint.decorated = v.decorated.mark := by
  obtain ⟨content, tainted⟩ := v
  cases tainted <;> rfl

@[simp] theorem decorated_untaint (v : Value) : v.untaint.decorated = v.decorated.clear := by
  obtain ⟨content, tainted⟩ := v
  cases tainted <;> rfl

theorem untaint_of_clean {v : Value} (clean : v.tainted = false) : v.untaint = v := by
  simp [untaint, ← clean]

end Value

namespace Heap

variable {h h' : Heap} {enters : Container → Bool} {cell d : CellRef}

/-- Cells reach the same cells when no content has changed. -/
theorem Remarked.reaches_eq (r : h.Remarked h') (same : ∀ c, h'.content c = h.content c) :
    h'.Reaches enters = h.Reaches enters := by
  have holds : h'.Holds enters = h.Holds enters := by
    funext a b
    simp only [Holds, same, r.container?_eq, r.parts_eq same]
  rw [Reaches, Reaches, holds]

/-! ## Marking -/

open Classical in
theorem get_taintDeep (inside : d.index < h.cells.size) :
    (h.taintDeep cell).get d = if h.Reaches (fun _ => true) cell d then (h.get d).taint
      else h.get d :=
  get_walk (t := .marking) (fun _ => rfl) inside

theorem content_taintDeep (h : Heap) (cell d : CellRef) :
    (h.taintDeep cell).content d = h.content d :=
  (explores_walk (t := .marking) (fun _ => rfl) cell).marks.content_eq (fun _ => rfl) d

theorem reaches_taintDeep (h : Heap) (cell : CellRef) :
    (h.taintDeep cell).Reaches enters = h.Reaches enters :=
  (h.remarked_walk .marking cell).reaches_eq (h.content_taintDeep cell)

/-- Marking ends however deep it may go, and only values of cells change. A cell is marked if it can
be reached, and keeps its mark otherwise. The value under the mark stays, and has one decorator at
most. -/
theorem taintDeep_marks_reached (h : Heap) (cell : CellRef) :
    (∀ n, h.cells.size < n → (Walk.visit .marking n ⟨[], h⟩ cell).heap = h.taintDeep cell) ∧
    h.Remarked (h.taintDeep cell) ∧
    ∀ d, d.index < h.cells.size →
      (h.Reaches (fun _ => true) cell d →
        (h.taintDeep cell).isTainted d ∧
        ((h.taintDeep cell).get d).decorated = (h.get d).decorated.mark) ∧
      (¬ h.Reaches (fun _ => true) cell d → (h.taintDeep cell).get d = h.get d) ∧
      (h.taintDeep cell).content d = h.content d ∧
      ((h.taintDeep cell).get d).decorated.IsSingle := by
  refine ⟨fun n deep => congrArg Walk.heap (walk_eq (fun _ => rfl) deep cell),
    h.remarked_walk .marking cell, fun d inside => ?_⟩
  have content := h.content_taintDeep cell d
  by_cases reached : h.Reaches (fun _ => true) cell d
  · have marked : (h.taintDeep cell).get d = (h.get d).taint := by
      rw [get_taintDeep inside, if_pos reached]
    have decorated : ((h.taintDeep cell).get d).decorated = (h.get d).decorated.mark := by
      rw [marked, Value.decorated_taint]
    refine ⟨fun _ => ⟨by rw [isTainted, marked]; rfl, decorated⟩, fun apart => absurd reached apart,
      content, ?_⟩
    exact decorated ▸ (h.get d).isSingle_decorated.mark
  · have kept : (h.taintDeep cell).get d = h.get d := by rw [get_taintDeep inside, if_neg reached]
    exact ⟨fun there => absurd there reached, fun _ => kept, content,
      kept ▸ (h.get d).isSingle_decorated⟩

/-- A list that holds itself, a second cell with the same list, and a text, beside another text. -/
def knot : Heap :=
  { Heap.empty with
    cells :=
      #[.clean (.sequence ⟨0⟩), .clean (.sequence ⟨0⟩), .clean (.text "in"), .clean (.text "out")]
    sequences := (Sequences.create [⟨0⟩, ⟨1⟩, ⟨2⟩] .empty).2 }

theorem taintDeep_marks_reached_knot :
    (knot.taintDeep ⟨1⟩).isTainted ⟨0⟩ ∧ (knot.taintDeep ⟨1⟩).isTainted ⟨2⟩ ∧
    (knot.taintDeep ⟨1⟩).isTainted ⟨3⟩ = false := by
  obtain ⟨-, -, cells⟩ := taintDeep_marks_reached knot ⟨1⟩
  have first : knot.Holds (fun _ => true) ⟨1⟩ ⟨0⟩ := ⟨.sequence ⟨0⟩, rfl, rfl, by decide +kernel⟩
  have third : knot.Holds (fun _ => true) ⟨1⟩ ⟨2⟩ := ⟨.sequence ⟨0⟩, rfl, rfl, by decide +kernel⟩
  exact ⟨((cells ⟨0⟩ (by decide)).1 (.single first)).1,
    ((cells ⟨2⟩ (by decide)).1 (.single third)).1, by decide +kernel⟩

/-! ## Clearing -/

open Classical in
theorem get_sanitizeDeep (inside : d.index < h.cells.size) :
    (h.sanitizeDeep cell).get d = if h.Reaches (!·.isPair) cell d then (h.get d).untaint
      else h.get d :=
  get_walk (t := .clearing) (fun _ => rfl) inside

theorem Reaches.mono {enters' : Container → Bool} (more : ∀ k, enters k → enters' k)
    (reaches : h.Reaches enters cell d) :
    h.Reaches enters' cell d := by
  refine Relation.ReflTransGen.mono ?_ _ _ reaches
  rintro a b ⟨k, holds, enters, member⟩
  exact ⟨k, holds, more k enters, member⟩

/-- Heaps with the same values in their cells are the same, as far as nothing else has changed. -/
theorem Remarked.eq_of_get (r : h.Remarked h')
    (same : ∀ d : CellRef, d.index < h.cells.size → h'.get d = h.get d) :
    h' = h := by
  obtain ⟨cells, size, rfl⟩ := r
  have : cells = h.cells := by
    refine Array.ext size fun i inside inside' => ?_
    simpa [get, inside, inside'] using same ⟨i⟩ inside'
  rw [this]

/-- Clearing after marking: what can be reached without going into a pair has lost its mark, and
what can be reached through pairs only has got one. -/
theorem get_sanitizeDeep_taintDeep (inside : d.index < h.cells.size)
    (reached : h.Reaches (fun _ => true) cell d) [Decidable (h.Reaches (!·.isPair) cell d)] :
    ((h.taintDeep cell).sanitizeDeep cell).get d =
      if h.Reaches (!·.isPair) cell d then (h.get d).untaint else (h.get d).taint := by
  have size := (h.remarked_walk .marking cell).size_eq
  rw [get_sanitizeDeep (size ▸ inside), reaches_taintDeep, get_taintDeep inside, if_pos reached]
  split <;> simp_all

/-- Clearing ends however deep it may go, and only values of cells change. The cells that can be
reached without going into a pair are cleared, and the others are as they were. So clearing undoes
marking, where nothing that can be reached was marked before, if and only if all that can be reached
can be reached without going into a pair. -/
theorem sanitizeDeep_clears_unpaired (h : Heap) (cell : CellRef) :
    (∀ n, h.cells.size < n → (Walk.visit .clearing n ⟨[], h⟩ cell).heap = h.sanitizeDeep cell) ∧
    h.Remarked (h.sanitizeDeep cell) ∧
    (∀ d, d.index < h.cells.size →
      (h.Reaches (!·.isPair) cell d →
        (h.sanitizeDeep cell).isTainted d = false ∧
        ((h.sanitizeDeep cell).get d).decorated = (h.get d).decorated.clear) ∧
      (¬ h.Reaches (!·.isPair) cell d → (h.sanitizeDeep cell).get d = h.get d)) ∧
    ((∀ d, d.index < h.cells.size → h.Reaches (fun _ => true) cell d → h.isTainted d = false) →
      ((h.taintDeep cell).sanitizeDeep cell = h ↔
        ∀ d, d.index < h.cells.size → h.Reaches (fun _ => true) cell d →
        h.Reaches (!·.isPair) cell d)) := by
  classical
  refine ⟨fun n deep => ?_, h.remarked_walk .clearing cell,
    fun d inside => ⟨fun reached => ?_, fun apart => ?_⟩, fun clean =>
      ⟨fun restored d inside reached => ?_, fun unpaired => ?_⟩⟩
  · exact congrArg Walk.heap (walk_eq (fun _ => rfl) deep cell)
  · have cleared : (h.sanitizeDeep cell).get d = (h.get d).untaint := by
      rw [get_sanitizeDeep inside, if_pos reached]
    exact ⟨by rw [isTainted, cleared]; rfl, by rw [cleared, Value.decorated_untaint]⟩
  · rw [get_sanitizeDeep inside, if_neg apart]
  · by_contra paired
    have marked := get_sanitizeDeep_taintDeep inside reached
    rw [restored, if_neg paired] at marked
    have tainted : h.isTainted d := by rw [isTainted, marked]; rfl
    simp [clean d inside reached] at tainted
  · have remarked :=
      (h.remarked_walk .marking cell).trans ((h.taintDeep cell).remarked_walk .clearing cell)
    refine remarked.eq_of_get fun d inside => ?_
    by_cases reached : h.Reaches (fun _ => true) cell d
    · exact (get_sanitizeDeep_taintDeep inside reached).trans
        ((if_pos (unpaired d inside reached)).trans
          (Value.untaint_of_clean (clean d inside reached)))
    · have apart : ¬ h.Reaches (!·.isPair) cell d :=
        fun unpaired => reached (unpaired.mono fun _ _ => rfl)
      have size := (h.remarked_walk .marking cell).size_eq
      exact (get_sanitizeDeep (size ▸ inside)).trans (by
        rw [reaches_taintDeep, if_neg apart, get_taintDeep inside, if_neg reached])

theorem knot_unpaired {a : CellRef} {k : Container}
    (holds : knot.container? (knot.content a) = some k) : !k.isPair := by
  obtain ⟨i⟩ := a
  match i with
  | 0 | 1 => cases holds; rfl
  | 2 | 3 | _ + 4 => cases holds

theorem sanitizeDeep_clears_unpaired_knot : (knot.taintDeep ⟨1⟩).sanitizeDeep ⟨1⟩ = knot := by
  obtain ⟨-, -, -, undoes⟩ := sanitizeDeep_clears_unpaired knot ⟨1⟩
  refine (undoes fun d inside _ => ?_).mpr fun d _ reached => ?_
  · obtain ⟨i⟩ := d
    have all : ∀ i < 4, knot.isTainted ⟨i⟩ = false := by decide
    exact all i inside
  · refine Relation.ReflTransGen.mono ?_ _ _ reached
    rintro a b ⟨k, holds, -, member⟩
    exact ⟨k, holds, knot_unpaired holds, member⟩

/-- A pair of two texts. -/
def textPair : Heap :=
  { Heap.empty with
    cells := #[.clean (.object ⟨0⟩), .clean (.text "k"), .clean (.text "v")]
    objects := #[.pair ⟨1⟩ ⟨2⟩] }

/-- None of the cells that a pair of texts reaches is marked, but its key is after marking and
clearing. -/
theorem sanitizeDeep_leaves_pair :
    (∀ i < 3, textPair.isTainted ⟨i⟩ = false) ∧ textPair.Reaches (fun _ => true) ⟨0⟩ ⟨1⟩ ∧
    ((textPair.taintDeep ⟨0⟩).sanitizeDeep ⟨0⟩).isTainted ⟨1⟩ :=
  ⟨by decide, .single ⟨.pair ⟨0⟩, rfl, rfl, by decide⟩, by decide +kernel⟩

end Heap

end CellScript
