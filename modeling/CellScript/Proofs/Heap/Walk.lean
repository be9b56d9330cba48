import CellScript.Heap.Container
import Mathlib.Data.Finset.Card
import Mathlib.Logic.Relation

/-!
# Walks over cells

A walk comes to the cells that can be reached from the one that it starts from, and to no others,
whatever cycles there are and however much is shared. What it does to cells leaves their content
alone, so that the same containers are met on the way as before.

A container that is remembered is not entered again, so the parts of a cell that holds it may not
have been reached when the walk leaves the cell: the container is still being walked over further
up. `Explores` says what holds at any time: the parts of each cell that the walk has come to have
been reached, or the cell holds a container that was remembered before. At the start of a walk none
is.

## Main definitions

* `Heap.Holds`, `Heap.Reaches` — the cells that a cell holds, and those it reaches.
* `Heap.Remarked` — other values in the same cells.
* `Walk.Marks` — the cells that a walk has come to are marked in its heap.
* `Walk.Explores` — what a part of a walk has come to.

## Main statements

* `Walk.explores_visit` — what a visit comes to.
* `Walk.visit_eq` — a visit does not go deeper than there are cells left.
* `Heap.mem_seen_walk`, `Heap.get_walk` — a walk comes to what can be reached, and marks it.
* `Heap.mem_beneath_of_part`, `Heap.mem_beneath_trans` — what is beneath content.
-/

namespace CellScript

namespace Heap

variable {h h' h'' : Heap} {cell : CellRef}

@[simp] theorem size_set (h : Heap) (cell : CellRef) (v : Value) :
    (h.set cell v).cells.size = h.cells.size := by
  simp [set]

theorem get_set (h : Heap) (cell d : CellRef) (v : Value) :
    (h.set cell v).get d = if d = cell ∧ d.index < h.cells.size then v else h.get d := by
  obtain ⟨i⟩ := cell
  obtain ⟨j⟩ := d
  by_cases same : j = i
  · subst same
    by_cases inside : j < h.cells.size <;> simp [set, get, inside]
  · simp [set, get, same, Ne.symm same]

/-! ## Other values in the same cells -/

/-- There are other values in the cells, and nothing else has changed. -/
def Remarked (h h' : Heap) : Prop :=
  ∃ cells : Array Value, cells.size = h.cells.size ∧ h' = { h with cells }

theorem Remarked.refl (h : Heap) : h.Remarked h := ⟨h.cells, rfl, rfl⟩

theorem Remarked.trans (first : h.Remarked h') (next : h'.Remarked h'') : h.Remarked h'' := by
  obtain ⟨cells, size, rfl⟩ := first
  obtain ⟨cells', size', rfl⟩ := next
  exact ⟨cells', size'.trans size, rfl⟩

theorem remarked_set (h : Heap) (cell : CellRef) (v : Value) : h.Remarked (h.set cell v) :=
  ⟨_, size_set h cell v, rfl⟩

theorem Remarked.size_eq (r : h.Remarked h') : h'.cells.size = h.cells.size := by
  obtain ⟨cells, size, rfl⟩ := r
  exact size

theorem Remarked.container?_eq (r : h.Remarked h') (content : Content) :
    h'.container? content = h.container? content := by
  obtain ⟨cells, -, rfl⟩ := r
  rfl

/-- Containers hold the same cells when no content has changed. -/
theorem Remarked.parts_eq (r : h.Remarked h') (same : ∀ c, h'.content c = h.content c)
    (k : Container) :
    h'.parts k = h.parts k := by
  have null (c : CellRef) : h'.isNull c = h.isNull c := congrArg Content.isNull (same c)
  obtain ⟨cells, -, rfl⟩ := r
  cases k with
  | sequence s => rfl
  | pair o => rfl
  | table t =>
    simp only [parts, entries, null]
    rfl

/-! ## Reachable cells -/

/-- The cell `a` holds a container that is entered, and `b` is a part of it. -/
def Holds (h : Heap) (enters : Container → Bool) (a b : CellRef) : Prop :=
  ∃ k, h.container? (h.content a) = some k ∧ enters k ∧ b ∈ h.parts k

/-- The cell `b` is `a`, or a part of what it holds, or a part of what that holds, and so on. -/
def Reaches (h : Heap) (enters : Container → Bool) : CellRef → CellRef → Prop :=
  Relation.ReflTransGen (h.Holds enters)

/-- A cell that holds something is in the heap. -/
theorem index_lt_of_container? {k : Container} (holds : h.container? (h.content cell) = some k) :
    cell.index < h.cells.size := by
  by_contra outside
  have missing : h.get cell = .null := by simp [get, Array.getD, outside]
  rw [content, missing] at holds
  cases holds

end Heap

namespace Walk

variable {h : Heap} {t : Tour} {w w₁ w₂ : Walk} {cell : CellRef} {k : Container}
  {starts : List CellRef} {n : Nat}

theorem mem_seen_come (p : Place) : p ∈ (w.come t cell).seen ↔ p = .cell cell ∨ p ∈ w.seen :=
  List.mem_cons

theorem cell_mem_seen_enter (c : CellRef) : .cell c ∈ (w.enter t k).seen ↔ .cell c ∈ w.seen := by
  unfold enter
  split <;> simp

theorem container_mem_seen_enter {k' : Container} (seen : .container k' ∈ (w.enter t k).seen) :
    k' = k ∨ .container k' ∈ w.seen := by
  unfold enter at seen
  split at seen
  · simpa using seen
  · exact .inr seen

theorem heap_enter (t : Tour) (w : Walk) (k : Container) : (w.enter t k).heap = w.heap := by
  unfold enter
  split <;> rfl

theorem seen_subset_enter : (w.come t cell).seen ⊆ ((w.come t cell).enter t k).seen := by
  unfold enter
  split
  · exact List.subset_cons_self _ _
  · exact List.Subset.refl _

/-- Whatever is done to the values of cells, nothing else changes on a walk. -/
theorem remarked_visit (t : Tour) (n : Nat) (w : Walk) (cell : CellRef) :
    w.heap.Remarked (visit t n w cell).heap := by
  induction n generalizing w cell with
  | zero => exact .refl _
  | succ n ih =>
    have all (cells : List CellRef) (w : Walk) :
        w.heap.Remarked (cells.foldl (visit t n) w).heap := by
      induction cells generalizing w with
      | nil => exact .refl _
      | cons a rest ih' => exact (ih w a).trans (ih' _)
    rw [visit]
    split
    · exact .refl _
    · have come : w.heap.Remarked (w.come t cell).heap := w.heap.remarked_set _ _
      dsimp only
      split
      · exact come
      · split
        · exact come
        · exact come.trans (heap_enter t _ _ ▸ all _ _)

/-! ## Marked cells -/

/-- The cells that the walk has come to are marked in its heap, and nothing else has changed. -/
structure Marks (t : Tour) (h : Heap) (w : Walk) : Prop where
  remarked : h.Remarked w.heap
  get : ∀ c, c.index < h.cells.size → w.heap.get c = if .cell c ∈ w.seen then t.mark (h.get c)
    else h.get c

theorem marks_start (t : Tour) (h : Heap) : Marks t h ⟨[], h⟩ :=
  ⟨.refl h, fun _ _ => by simp⟩

theorem Marks.content_eq (keeps : ∀ v, (t.mark v).content = v.content) (marks : Marks t h w)
    (c : CellRef) :
    w.heap.content c = h.content c := by
  unfold Heap.content
  by_cases inside : c.index < h.cells.size
  · rw [marks.get c inside]
    split
    · exact keeps _
    · rfl
  · obtain ⟨cells, size, heap⟩ := marks.remarked
    simp [heap, Heap.get, Array.getD, size, inside]

theorem Marks.come (marks : Marks t h w) (new : .cell cell ∉ w.seen) :
    Marks t h (w.come t cell) where
  remarked := marks.remarked.trans (Heap.remarked_set _ _ _)
  get c inside := by
    rw [Walk.come, Heap.get_set, marks.remarked.size_eq]
    by_cases same : c = cell
    · subst same
      simp [inside, marks.get c inside, new]
    · simp [same, marks.get c inside]

theorem Marks.enter (marks : Marks t h w) (k : Container) : Marks t h (w.enter t k) where
  remarked := heap_enter t w k ▸ marks.remarked
  get c inside := by simp only [heap_enter, cell_mem_seen_enter, marks.get c inside]

/-! ## What a walk has come to -/

/-- From `w` to `w'`, the walk has gone on to the cells of a list. -/
structure Explores (t : Tour) (h : Heap) (starts : List CellRef) (w w' : Walk) : Prop where
  marks : Marks t h w'
  grows : w.seen ⊆ w'.seen
  arrives : ∀ a ∈ starts, .cell a ∈ w'.seen
  reached : ∀ d, .cell d ∈ w'.seen → .cell d ∈ w.seen ∨ ∃ a ∈ starts, h.Reaches t.enters a d
  /-- the parts of a new cell have been reached, unless it holds a container that was remembered
  before -/
  cells : ∀ d k, .cell d ∈ w'.seen → h.container? (h.content d) = some k → t.enters k →
    .cell d ∈ w.seen ∨ .container k ∈ w.seen ∨ ∀ b ∈ h.parts k, .cell b ∈ w'.seen
  containers : ∀ k, .container k ∈ w'.seen → .container k ∈ w.seen ∨
    ∀ b ∈ h.parts k, .cell b ∈ w'.seen

/-- The walk has been there. -/
theorem Explores.stay (marks : Marks t h w) (there : ∀ a ∈ starts, .cell a ∈ w.seen) :
    Explores t h starts w w where
  marks := marks
  grows := List.Subset.refl _
  arrives := there
  reached _ seen := .inl seen
  cells _ _ seen _ _ := .inl seen
  containers _ seen := .inl seen

/-- First to one cell and then to the others. -/
theorem Explores.next (first : Explores t h [cell] w w₁) (rest : Explores t h starts w₁ w₂) :
    Explores t h (cell :: starts) w w₂ where
  marks := rest.marks
  grows := List.Subset.trans first.grows rest.grows
  arrives a member := by
    rcases List.mem_cons.mp member with rfl | member
    · exact rest.grows (first.arrives a List.mem_cons_self)
    · exact rest.arrives a member
  reached d seen := by
    rcases rest.reached d seen with seen | ⟨a, member, reaches⟩
    · refine (first.reached d seen).imp_right ?_
      rintro ⟨a, member, reaches⟩
      obtain rfl := List.mem_singleton.mp member
      exact ⟨a, List.mem_cons_self, reaches⟩
    · exact .inr ⟨a, List.mem_cons_of_mem _ member, reaches⟩
  cells d k seen holds enters := by
    rcases rest.cells d k seen holds enters with seen | seen | parts
    · exact (first.cells d k seen holds enters).imp_right
        fun known => known.imp_right fun parts b member => rest.grows (parts b member)
    · exact .inr ((first.containers k seen).imp_right
        fun parts b member => rest.grows (parts b member))
    · exact .inr (.inr parts)
  containers k seen := by
    rcases rest.containers k seen with seen | parts
    · exact (first.containers k seen).imp_right fun parts b member => rest.grows (parts b member)
    · exact .inr parts

/-- The walk has come to a cell that holds nothing to walk over, or a container that was
remembered. -/
theorem Explores.come (marks : Marks t h w) (new : .cell cell ∉ w.seen)
    (ends : ∀ k, h.container? (h.content cell) = some k → t.enters k → .container k ∈ w.seen) :
    Explores t h [cell] w (w.come t cell) where
  marks := marks.come new
  grows := List.subset_cons_self _ _
  arrives a member := (mem_seen_come _).mpr (.inl (congrArg _ (List.mem_singleton.mp member)))
  reached d seen := by
    rcases (mem_seen_come _).mp seen with same | seen
    · obtain rfl : d = cell := by simpa using same
      exact .inr ⟨d, List.mem_singleton_self d, .refl⟩
    · exact .inl seen
  cells d k seen holds enters := by
    rcases (mem_seen_come _).mp seen with same | seen
    · obtain rfl : d = cell := by simpa using same
      exact .inr (.inl (ends k holds enters))
    · exact .inl seen
  containers k seen := .inl (((mem_seen_come _).mp seen).resolve_left nofun)

/-- The walk has come to a cell and gone on to the parts of what it holds. -/
theorem Explores.enter (holds : h.container? (h.content cell) = some k) (enters : t.enters k)
    (parts : Explores t h (h.parts k) ((w.come t cell).enter t k) w₂) :
    Explores t h [cell] w w₂ where
  marks := parts.marks
  grows _ seen := parts.grows (seen_subset_enter ((mem_seen_come _).mpr (.inr seen)))
  arrives a member := by
    obtain rfl := List.mem_singleton.mp member
    exact parts.grows (seen_subset_enter ((mem_seen_come _).mpr (.inl rfl)))
  reached d seen := by
    rcases parts.reached d seen with seen | ⟨a, member, reaches⟩
    · rcases (mem_seen_come _).mp ((cell_mem_seen_enter d).mp seen) with same | seen
      · obtain rfl : d = cell := by simpa using same
        exact .inr ⟨d, List.mem_singleton_self d, .refl⟩
      · exact .inl seen
    · exact .inr ⟨cell, List.mem_singleton_self cell, .head ⟨k, holds, enters, member⟩ reaches⟩
  cells d k' seen holds' enters' := by
    rcases parts.cells d k' seen holds' enters' with seen | seen | known
    · rcases (mem_seen_come _).mp ((cell_mem_seen_enter d).mp seen) with same | seen
      · obtain rfl : d = cell := by simpa using same
        obtain rfl : k' = k := Option.some.inj (holds'.symm.trans holds)
        exact .inr (.inr parts.arrives)
      · exact .inl seen
    · rcases container_mem_seen_enter seen with rfl | seen
      · exact .inr (.inr parts.arrives)
      · exact .inr (.inl (((mem_seen_come _).mp seen).resolve_left nofun))
    · exact .inr (.inr known)
  containers k' seen := by
    rcases parts.containers k' seen with seen | known
    · rcases container_mem_seen_enter seen with rfl | seen
      · exact .inr parts.arrives
      · exact .inl (((mem_seen_come _).mp seen).resolve_left nofun)
    · exact .inr known

/-! ## How deep a walk goes -/

/-- The number of cells that the walk has not come to. -/
def unseen (h : Heap) (w : Walk) : Nat :=
  ((Finset.range h.cells.size).filter fun i => .cell ⟨i⟩ ∉ w.seen).card

theorem unseen_le (grows : w₁.seen ⊆ w₂.seen) : unseen h w₂ ≤ unseen h w₁ :=
  Finset.card_le_card (Finset.monotone_filter_right _ fun _ _ new seen => new (grows seen))

/-- Where a walk has entered a container, it has come to one more cell. -/
theorem unseen_enter (holds : h.container? (h.content cell) = some k) (new : .cell cell ∉ w.seen) :
    unseen h ((w.come t cell).enter t k) < unseen h w := by
  have grows : w.seen ⊆ ((w.come t cell).enter t k).seen :=
    fun _ seen => seen_subset_enter ((mem_seen_come _).mpr (.inr seen))
  have seen : .cell cell ∈ ((w.come t cell).enter t k).seen :=
    seen_subset_enter ((mem_seen_come _).mpr (.inl rfl))
  refine Finset.card_lt_card ⟨Finset.monotone_filter_right _ fun _ _ new seen => new (grows seen),
    fun same => ?_⟩
  have member :=
    same (Finset.mem_filter.mpr ⟨Finset.mem_range.mpr (Heap.index_lt_of_container? holds), new⟩)
  exact (Finset.mem_filter.mp member).2 seen

/-- What a walk comes to that visits cells one after the other. -/
theorem Explores.foldl (marks : Marks t h w) (deep : unseen h w < n) (cells : List CellRef)
    (visits : ∀ {w cell}, Marks t h w → unseen h w < n → Explores t h [cell] w (visit t n w cell)) :
    Explores t h cells w (cells.foldl (visit t n) w) := by
  induction cells generalizing w with
  | nil => exact .stay marks (by simp)
  | cons a rest ih =>
    have first : Explores t h [a] w (visit t n w a) := visits marks deep
    exact first.next (ih first.marks ((unseen_le first.grows).trans_lt deep))

section Visit

variable (keeps : ∀ v, (t.mark v).content = v.content)
include keeps

/-- A visit in terms of the heap at the start of the walk. -/
theorem visit_succ (marks : Marks t h w) (n : Nat) (cell : CellRef) :
    visit t (n + 1) w cell =
      if .cell cell ∈ w.seen then w
      else
        match h.container? (h.content cell) with
        | none => w.come t cell
        | some k =>
          if t.enters k ∧ .container k ∉ w.seen then (h.parts k).foldl (visit t n)
            ((w.come t cell).enter t k)
          else w.come t cell := by
  rw [visit]
  by_cases there : .cell cell ∈ w.seen
  · simp [there]
  · have next := marks.come there
    have content := next.content_eq keeps
    simp only [List.contains_eq_mem, there, decide_false, Bool.false_eq_true, if_false, content,
      next.remarked.container?_eq, next.remarked.parts_eq content, mem_seen_come, reduceCtorEq,
      false_or]
    cases h.container? (h.content cell) with
    | none => rfl
    | some k =>
      by_cases enters : t.enters k <;> by_cases known : .container k ∈ w.seen <;>
        simp [enters, known]

/-- What a visit comes to when it may go as deep as there are cells left. -/
theorem explores_visit (marks : Marks t h w) (deep : unseen h w < n) :
    Explores t h [cell] w (visit t n w cell) := by
  induction n generalizing w cell with
  | zero => omega
  | succ n ih =>
    rw [visit_succ keeps marks]
    split
    · exact .stay marks (by simpa)
    · rename_i new
      split
      · rename_i nothing
        exact .come marks new (by simp [nothing])
      · rename_i k holds
        split
        · rename_i enters
          have shallower := (unseen_enter (t := t) holds new).trans_le (Nat.le_of_lt_succ deep)
          exact .enter holds enters.1 (.foldl ((marks.come new).enter k) shallower _ ih)
        · rename_i known
          refine .come marks new fun k' holds' enters => ?_
          obtain rfl : k = k' := Option.some.inj (holds.symm.trans holds')
          simpa [enters] using known

/-- Visits that are the same whatever more is allowed, one after the other. -/
theorem foldl_visit_congr {m : Nat} (marks : Marks t h w) (deep : unseen h w < n)
    (deep' : unseen h w < m) (visits : ∀ {w cell}, Marks t h w → unseen h w < n → unseen h w < m →
      visit t n w cell = visit t m w cell)
    (cells : List CellRef) : cells.foldl (visit t n) w = cells.foldl (visit t m) w := by
  induction cells generalizing w with
  | nil => rfl
  | cons a rest ih =>
    have first : Explores t h [a] w (visit t m w a) := explores_visit keeps marks deep'
    have fewer := unseen_le (h := h) first.grows
    rw [List.foldl_cons, List.foldl_cons, visits marks deep deep']
    exact ih first.marks (fewer.trans_lt deep) (fewer.trans_lt deep')

/-- A visit does not go deeper than there are cells left: it is the same whatever more is
allowed. -/
theorem visit_eq {m : Nat} (marks : Marks t h w) (deep : unseen h w < n) (deep' : unseen h w < m) :
    visit t n w cell = visit t m w cell := by
  induction n generalizing m w cell with
  | zero => omega
  | succ n ih =>
    obtain ⟨m, rfl⟩ := Nat.exists_eq_succ_of_ne_zero (Nat.ne_zero_of_lt deep')
    rw [visit_succ keeps marks, visit_succ keeps marks]
    split
    · rfl
    · rename_i new
      split
      · rfl
      · rename_i k holds
        have shallower := unseen_enter (t := t) holds new
        have rest : (h.parts k).foldl (visit t n) ((w.come t cell).enter t k) =
            (h.parts k).foldl (visit t m) ((w.come t cell).enter t k) :=
          foldl_visit_congr keeps ((marks.come new).enter k) (by omega) (by omega) ih (h.parts k)
        rw [rest]

end Visit

end Walk

/-! ## Whole walks -/

namespace Heap

variable {h : Heap} {t : Tour}

theorem remarked_walk (h : Heap) (t : Tour) (cell : CellRef) : h.Remarked (h.walk t cell).heap :=
  Walk.remarked_visit t (h.cells.size + 1) ⟨[], h⟩ cell

theorem unseen_start (h : Heap) : Walk.unseen h ⟨[], h⟩ = h.cells.size := by
  simp [Walk.unseen]

variable (keeps : ∀ v, (t.mark v).content = v.content)
include keeps

theorem explores_walkAll (cells : List CellRef) :
    Walk.Explores t h cells ⟨[], h⟩ (h.walkAll t cells) :=
  .foldl (Walk.marks_start t h) (by simp [unseen_start]) cells (Walk.explores_visit keeps)

theorem explores_walk (cell : CellRef) : Walk.Explores t h [cell] ⟨[], h⟩ (h.walk t cell) :=
  explores_walkAll keeps [cell]

/-- A walk does not go deeper than there are cells. -/
theorem walkAll_eq {n : Nat} (deep : h.cells.size < n) (cells : List CellRef) :
    cells.foldl (Walk.visit t n) ⟨[], h⟩ = h.walkAll t cells :=
  Walk.foldl_visit_congr keeps (Walk.marks_start t h) (by rwa [unseen_start])
    (by simp [unseen_start])
    (Walk.visit_eq keeps) cells

theorem walk_eq {n : Nat} (deep : h.cells.size < n) (cell : CellRef) :
    Walk.visit t n ⟨[], h⟩ cell = h.walk t cell :=
  walkAll_eq keeps deep [cell]

/-- A walk comes to the cells that can be reached, and to no others. -/
theorem mem_seen_walkAll {cells : List CellRef} {d : CellRef} :
    .cell d ∈ (h.walkAll t cells).seen ↔ ∃ cell ∈ cells, h.Reaches t.enters cell d := by
  have explores := explores_walkAll (h := h) keeps cells
  constructor
  · intro seen
    simpa using explores.reached d seen
  · rintro ⟨cell, start, reaches⟩
    -- nothing was remembered at the start, so the parts of all cells have been reached
    induction reaches with
    | refl => exact explores.arrives cell start
    | tail _ holds ih =>
      obtain ⟨k, holds, enters, member⟩ := holds
      simpa using (explores.cells _ k ih holds enters).elim nofun
        (·.elim nofun fun parts => parts _ member)

theorem mem_seen_walk {cell d : CellRef} :
    .cell d ∈ (h.walk t cell).seen ↔ h.Reaches t.enters cell d := by
  simp [walk, mem_seen_walkAll keeps]

open Classical in
/-- The cells that can be reached are marked, and the others are as they were. -/
theorem get_walk {cell d : CellRef} (inside : d.index < h.cells.size) :
    (h.walk t cell).heap.get d = if h.Reaches t.enters cell d then t.mark (h.get d)
      else h.get d := by
  rw [(explores_walk keeps cell).marks.get d inside]
  simp only [mem_seen_walk keeps]

omit keeps

/-! ## Cells beneath content -/

variable {content : Content} {k : Container}

theorem mem_reachAll {through : Container → Bool} {cells : List CellRef} {d : CellRef} :
    d ∈ h.reachAll through cells ↔ ∃ cell ∈ cells, h.Reaches through cell d := by
  rw [reachAll, List.mem_filterMap, ← mem_seen_walkAll (t := ⟨id, through, fun _ => false⟩)
    fun _ => rfl]
  constructor
  · rintro ⟨c | k, seen, same⟩
    · exact Option.some.inj same ▸ seen
    · cases same
  · exact fun seen => ⟨.cell d, seen, rfl⟩

theorem beneath_of_container? (holds : h.container? content = some k) :
    h.beneath content = h.reachAll (fun _ => true) (h.parts k) := by
  rw [beneath, holds]

/-- The parts of content are beneath it. -/
theorem mem_beneath_of_part {cell : CellRef} (holds : h.container? content = some k)
    (part : cell ∈ h.parts k) :
    cell ∈ h.beneath content :=
  beneath_of_container? holds ▸ mem_reachAll.mpr ⟨cell, part, .refl⟩

/-- The parts of a cell that is beneath content are beneath it as well. -/
theorem mem_beneath_trans {cell part : CellRef} (under : cell ∈ h.beneath content)
    (holds : h.container? (h.content cell) = some k) (held : part ∈ h.parts k) :
    part ∈ h.beneath content := by
  cases outer : h.container? content with
  | none =>
    rw [beneath, outer] at under
    cases under
  | some k' =>
    rw [beneath_of_container? outer, mem_reachAll] at under ⊢
    obtain ⟨start, among, reaches⟩ := under
    exact ⟨start, among, reaches.tail ⟨k, holds, rfl, held⟩⟩

end Heap

end CellScript
