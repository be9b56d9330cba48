import CellScript.Proofs.Taint.Deep
import CellScript.Proofs.Taint.Flow

/-!
# Marked copies

A call that hands taint on does not mark the cell that its function has returned, which may be a
variable: it pushes a copy of the cell and marks that. But the copy holds the same container, and
marking goes into it. So the cell keeps its mark only if nothing inside of its container leads back
to it, and what is inside is marked for everybody who holds the container.

## Main definitions

* `Heap.ReachesInside` — what is inside of the container of a cell.
* `Heap.withMarkedCopy` — a heap with a marked copy of a cell.

## Main statements

* `Heap.get_withMarkedCopy` — what a marked copy does to the cells that were there before.
* `Run.propagate_run` — what is pushed for a result, and in which heap.
* `Eval.call_marks_inside` — what a call does to the marks of what it returns.
-/

namespace CellScript

namespace Heap

variable {h : Heap} {cell a b d : CellRef}

/-- The cell `b` is a part of what `a` holds, or a part of what such a part holds, and so on. -/
def ReachesInside (h : Heap) : CellRef → CellRef → Prop :=
  Relation.TransGen (h.Holds fun _ => true)

theorem ReachesInside.reaches (inside : h.ReachesInside a b) : h.Reaches (fun _ => true) a b :=
  inside.to_reflTransGen

/-- The heap with one more cell, a marked copy of another one. -/
def withMarkedCopy (h : Heap) (cell : CellRef) : Heap :=
  (h.alloc (h.get cell)).2.taintDeep ⟨h.cells.size⟩

/-! ## One more cell -/

theorem get_alloc (h : Heap) (v : Value) (d : CellRef) :
    (h.alloc v).2.get d = if d.index = h.cells.size then v else h.get d := by
  obtain ⟨i⟩ := d
  simp only [alloc, get, Array.getD_eq_getD_getElem?, Array.getElem?_push]
  split <;> rfl

theorem content_alloc (v : Value) (old : d.index ≠ h.cells.size) :
    (h.alloc v).2.content d = h.content d := by
  rw [content, get_alloc, if_neg old, content]

/-- The cells that were there before are in the same containers. -/
theorem mem_parts_alloc (v : Value) (old : d.index ≠ h.cells.size) (k : Container) :
    d ∈ (h.alloc v).2.parts k ↔ d ∈ h.parts k := by
  have null : (h.alloc v).2.isNull d = h.isNull d := congrArg Content.isNull (content_alloc v old)
  cases k with
  | sequence s => rfl
  | pair o => rfl
  | table t =>
    have listing : (h.alloc v).2.table t = h.table t := rfl
    simp only [parts, entries, listing, List.mem_map, List.mem_filter]
    constructor <;>
    · rintro ⟨entry, ⟨listed, some⟩, rfl⟩
      exact ⟨entry, ⟨listed, by simpa only [null] using some⟩, rfl⟩

theorem holds_alloc (v : Value) (old : d.index ≠ h.cells.size)
    (same : (h.alloc v).2.content a = h.content b) :
    (h.alloc v).2.Holds (fun _ => true) a d ↔ h.Holds (fun _ => true) b d := by
  have container (c : Content) : (h.alloc v).2.container? c = h.container? c := rfl
  simp only [Holds, container, same, mem_parts_alloc v old]

/-- Of the cells that were there before, a copy reaches those inside of the container that it
shares. -/
theorem reaches_copy (old : d.index ≠ h.cells.size) :
    (h.alloc (h.get cell)).2.Reaches (fun _ => true) ⟨h.cells.size⟩ d ↔ h.ReachesInside cell d := by
  have shared : (h.alloc (h.get cell)).2.content ⟨h.cells.size⟩ = h.content cell := by
    rw [content, get_alloc, if_pos rfl, content]
  constructor
  · intro reaches
    induction reaches with
    | refl => exact absurd rfl old
    | @tail b c _ holds ih =>
      -- a way that comes back to the copy goes on as one that starts there
      by_cases back : b.index = h.cells.size
      · obtain rfl : b = ⟨h.cells.size⟩ := congrArg CellRef.mk back
        exact .single ((holds_alloc _ old shared).mp holds)
      · exact .tail (ih back) ((holds_alloc _ old (content_alloc _ back)).mp holds)
  · intro inside
    induction inside with
    | single holds => exact .single ((holds_alloc _ old shared).mpr holds)
    | @tail b c _ holds ih =>
      have there : b.index ≠ h.cells.size := by
        obtain ⟨k, container, -⟩ := holds
        exact (index_lt_of_container? container).ne
      exact .tail (ih there) ((holds_alloc _ old (content_alloc _ there)).mpr holds)

/-! ## The cells after a marked copy -/

theorem size_alloc (h : Heap) (v : Value) : (h.alloc v).2.cells.size = h.cells.size + 1 := by
  simp [alloc]

open Classical in
/-- Of the cells that were there before, those inside of the container that is shared are marked. -/
theorem get_withMarkedCopy (there : d.index < h.cells.size) :
    (h.withMarkedCopy cell).get d = if h.ReachesInside cell d then (h.get d).taint
      else h.get d := by
  have there' : d.index < (h.alloc (h.get cell)).2.cells.size := by
    rw [size_alloc]
    omega
  rw [withMarkedCopy, get_taintDeep there']
  simp only [reaches_copy there.ne, get_alloc, if_neg there.ne]

theorem isTainted_withMarkedCopy (there : d.index < h.cells.size) :
    (h.withMarkedCopy cell).isTainted d ↔ h.isTainted d ∨ h.ReachesInside cell d := by
  classical
  rw [isTainted, get_withMarkedCopy there]
  split
  · rename_i inside
    simp [inside, Value.taint]
  · rename_i outside
    simp [outside, isTainted]

theorem content_withMarkedCopy (cell : CellRef) (there : d.index < h.cells.size) :
    (h.withMarkedCopy cell).content d = h.content d := by
  rw [withMarkedCopy, content_taintDeep, content_alloc _ there.ne]

/-- The copy itself. -/
theorem get_copy_withMarkedCopy (h : Heap) (cell : CellRef) :
    (h.withMarkedCopy cell).get ⟨h.cells.size⟩ = (h.get cell).taint := by
  classical
  have there : (⟨h.cells.size⟩ : CellRef).index < (h.alloc (h.get cell)).2.cells.size := by
    rw [size_alloc]
    exact Nat.lt_succ_self _
  rw [withMarkedCopy, get_taintDeep there, if_pos .refl, get_alloc, if_pos rfl]

theorem content_copy (h : Heap) (cell : CellRef) :
    (h.withMarkedCopy cell).content ⟨h.cells.size⟩ = h.content cell := by
  rw [content, get_copy_withMarkedCopy]
  rfl

theorem isTainted_copy (h : Heap) (cell : CellRef) :
    (h.withMarkedCopy cell).isTainted ⟨h.cells.size⟩ := by
  rw [isTainted, get_copy_withMarkedCopy]
  rfl

end Heap

/-! ## Results -/

/-- Whether a result of given inputs is handed on as a marked copy: an input is tainted, and the
result is not. -/
def Heap.passesTaint (h : Heap) (inputs : List CellRef) (result : CellRef) : Bool :=
  !h.isTainted result && h.anyTainted inputs

/-- What is handed on for a result. Nothing has changed but marks, and what watchers were told. -/
theorem Run.propagate_run (inputs : List CellRef) (result : CellRef) (what : String) {m : Machine}
    (watched : m.context.taint) :
    (m.heap.passesTaint inputs result = false → propagate inputs result what m = (.ok result, m)) ∧
    (m.heap.passesTaint inputs result → ∃ logs, propagate inputs result what m =
      (.ok ⟨m.heap.cells.size⟩, { m with heap := m.heap.withMarkedCopy result, logs })) := by
  have asked : propagate inputs result what m = (if m.heap.passesTaint inputs result then
      (do let new ← HeapM.taintedCopy result
          traceTaint s!"{what} passed taint to its result"
          return new : Run CellRef) else pure result) m := by
    unfold propagate
    rw [bind_run, askHeap_run]
    dsimp only
    rw [bind_run, askContext_run]
    dsimp only
    rw [watched, Bool.true_and]
    rfl
  refine ⟨fun unpassed => by rw [asked, unpassed]; rfl, fun passed => ?_⟩
  rw [asked, if_pos passed, bind_run]
  have copied : (liftM (HeapM.taintedCopy result) : Run CellRef) m =
      (.ok ⟨m.heap.cells.size⟩, { m with heap := m.heap.withMarkedCopy result }) := rfl
  rw [copied]
  dsimp only
  rw [bind_run]
  obtain ⟨logs, traced⟩ :=
    (reports_traceTaint s!"{what} passed taint to its result").run
    { m with heap := m.heap.withMarkedCopy result }
  exact ⟨logs, by rw [traced]; rfl⟩

/-- What is pushed for a result of given inputs, and the marks of the cells that were there
before. -/
theorem Run.push_propagate_run (inputs : List CellRef) (result : CellRef) (what : String)
    {m : Machine} (watched : m.context.taint) (there : result.index < m.heap.cells.size) :
    ∃ m' pushed, (propagate inputs result what >>= push) m = (.ok (), m') ∧
      m'.context.operands.head? = some pushed ∧ m'.heap.content pushed = m.heap.content result ∧
      (m.heap.anyTainted inputs → m'.heap.isTainted pushed) ∧
      (m.heap.passesTaint inputs result ↔ pushed ≠ result) ∧
      ∀ d, d.index < m.heap.cells.size → m'.heap.content d = m.heap.content d ∧
        (m'.heap.isTainted d ↔
          m.heap.isTainted d ∨ m.heap.passesTaint inputs result ∧
          m.heap.ReachesInside result d) := by
  obtain ⟨asIs, copied⟩ := propagate_run inputs result what watched
  rw [bind_run]
  cases passes : m.heap.passesTaint inputs result with
  | false =>
    rw [asIs passes]
    refine ⟨_, result, rfl, by simp, rfl, fun tainted => ?_, by simp, fun d _ => ⟨rfl, by simp⟩⟩
    simpa [Heap.passesTaint, tainted] using passes
  | true =>
    obtain ⟨logs, copied⟩ := copied passes
    rw [copied]
    refine ⟨_, ⟨m.heap.cells.size⟩, rfl, by simp, ?_, fun _ => ?_, ?_, fun d old => ⟨?_, ?_⟩⟩
    · exact m.heap.content_copy result
    · exact m.heap.isTainted_copy result
    · exact iff_of_true rfl fun same => there.ne (congrArg CellRef.index same.symm)
    · exact Heap.content_withMarkedCopy result old
    · simpa using Heap.isTainted_withMarkedCopy old

/-- What the name of a function does to taint, in the script of the current context. -/
def Machine.policyOf (m : Machine) (name : String) : TaintPolicy :=
  match m.own.environment.functions.get? name with
  | some f => f.taintPolicy
  | none => .permeable

theorem Machine.isPermeable_iff (m : Machine) (name : String) :
    m.isPermeable m.context.script name ↔ m.policyOf name = .permeable := by
  unfold isPermeable policyOf own
  cases (m.scripts.getD m.context.script.index default).environment.functions.get? name <;> simp

namespace Eval

/-- A call looks at its function once more when it has come to a result. -/
theorem call_run {self : Reentry} {name : String} {m m₁ : Machine} {result : CellRef}
    (returned : callFunction self name m.context.killFrame.1
      { m with context := m.context.killFrame.2 } =
      (.ok result, m₁)) :
    call self name m = (if m₁.policyOf name = .permeable then
      Run.propagate m.context.killFrame.1 result name >>= Run.push else Run.push result) m₁ := by
  unfold call
  rw [Run.bind_run, Run.killFrame_run]
  dsimp only
  rw [Run.bind_run, returned]
  dsimp only
  rw [Run.bind_run, show Run.script m₁ = (.ok m₁.own, m₁) from rfl]
  dsimp only
  unfold Machine.policyOf
  cases m₁.own.environment.functions.get? name with
  | none => rfl
  | some f =>
    dsimp only
    split <;> rfl

/-- A call that hands taint on, where taint is watched and its function has returned a cell: what it
pushes has the content of that cell and is tainted if an argument is. The cell is copied for that,
unless it is tainted itself, and what is inside of its container is marked. So neither the mark of
the cell nor that of anything it reaches has changed if and only if there was nothing clean
inside. -/
theorem call_marks_inside (n : Nat) (resume : Option Cursor) {name : String} {m m₁ : Machine}
    {result : CellRef} (watched : m.context.taint) (permeable : m.isPermeable m.context.script name)
    (returned : callFunction (reentry n) name (Instruction.inputs m (.call name))
      { m with context := m.context.killFrame.2 } = (.ok result, m₁))
    (there : result.index < m₁.heap.cells.size) :
    let passes := m₁.heap.passesTaint (Instruction.inputs m (.call name)) result
    ∃ m' pushed, step (reentry n) resume (.call name) m = (.ok .normal, m') ∧
      m'.context.operands.head? = some pushed ∧ m'.heap.content pushed = m₁.heap.content result ∧
      (m₁.heap.anyTainted (Instruction.inputs m (.call name)) → m'.heap.isTainted pushed) ∧
      (passes ↔ pushed ≠ result) ∧
      (∀ d, d.index < m₁.heap.cells.size → m'.heap.content d = m₁.heap.content d ∧
        (m'.heap.isTainted d ↔ m₁.heap.isTainted d ∨ passes ∧ m₁.heap.ReachesInside result d)) ∧
      ((∀ d, d.index < m₁.heap.cells.size → m₁.heap.Reaches (fun _ => true) result d →
          m'.heap.isTainted d = m₁.heap.isTainted d) ↔
        (passes → ∀ d, d.index < m₁.heap.cells.size → m₁.heap.ReachesInside result d →
          m₁.heap.isTainted d)) := by
  intro passes
  obtain ⟨_, same, upheld⟩ :=
      (agrees_upheld (callFunction (reentry n) name _) _).ends returned nofun
  have still : m₁.isPermeable m₁.context.script name :=
    upheld.script ▸ upheld.permeable _ _ permeable
  obtain ⟨m', pushed, run, top, content, tainted, copied, marks⟩ :=
    Run.push_propagate_run (Instruction.inputs m (.call name)) result name
      (upheld.taint.trans watched) there
  refine ⟨m', pushed, ?_, top, content, tainted, copied, marks, ?_⟩
  · have called : call (reentry n) name m = (.ok (), m') := by
      rw [call_run returned, if_pos ((m₁.isPermeable_iff name).mp still)]
      exact run
    rw [step, thenNormal, Run.bind_run, called]
    rfl
  · constructor
    · intro kept passed d old inside
      rw [← kept d old inside.reaches]
      exact (marks d old).2.mpr (.inr ⟨passed, inside⟩)
    · intro clean d old _
      rw [Bool.eq_iff_iff, (marks d old).2]
      refine ⟨?_, .inl⟩
      rintro (tainted | ⟨passed, inside⟩)
      · exact tainted
      · exact clean passed d old inside

/-- A list with a clean element and a tainted text, as operands of a call. -/
def listOperands : Machine :=
  { (default : Machine) with
    heap :=
      { Heap.empty with
        cells := #[.clean (.sequence ⟨0⟩), .clean (.text "ok"), ⟨.text "in", true⟩]
        sequences := (Sequences.create [⟨1⟩] .empty).2 }
    scripts :=
      #[{ (default : Script) with environment := ⟨.ofList [("&first", .probe .first)], .empty⟩ }]
    context := ((Context.start ⟨0⟩ default default true 1).createFrame.push ⟨0⟩).push ⟨2⟩ }

theorem call_marks_inside_first :
    listOperands.heap.isTainted ⟨1⟩ = false ∧
    ∃ m' pushed, step (reentry 1) none (.call "&first") listOperands = (.ok .normal, m') ∧
      pushed ≠ ⟨0⟩ ∧
      m'.context.operands.head? = some pushed ∧ m'.heap.isTainted pushed ∧
      m'.heap.isTainted ⟨1⟩ := by
  let ended := callFunction (reentry 1) "&first" [⟨0⟩, ⟨2⟩]
    { listOperands with context := listOperands.context.killFrame.2 }
  have returned : ended.1 = .ok ⟨0⟩ := rfl
  have state : ended.2.heap.cells.size = 3 ∧ ended.2.heap.anyTainted [⟨0⟩, ⟨2⟩] ∧
      ended.2.heap.passesTaint [⟨0⟩, ⟨2⟩] ⟨0⟩ ∧ ⟨1⟩ ∈ ended.2.heap.parts (.sequence ⟨0⟩) := by
    decide +kernel
  obtain ⟨size, given, passes, member⟩ := state
  obtain ⟨m', pushed, run, top, -, tainted, copied, marks, -⟩ :=
    call_marks_inside 1 none (m := listOperands) rfl rfl (Prod.ext returned rfl) (size ▸ by decide)
  have inside : ended.2.heap.ReachesInside ⟨0⟩ ⟨1⟩ := .single ⟨.sequence ⟨0⟩, rfl, rfl, member⟩
  exact ⟨rfl, m', pushed, run, copied.mp passes, top, tainted given,
    (marks ⟨1⟩ (size ▸ by decide)).2.mpr (.inr ⟨passes, inside⟩)⟩

/-- A list whose only element is clean is returned by a function that is also given a value. -/
def pickedList (given : Expr) : Body :=
  .mk none 1
    [.define "&pick" (.mk none 1 [.flow .return (some (.var "$1"))]) false,
      .expr (.assign (.var "@a") none (.call "&array" [.literal (.str "ok")])),
      .expr (.call "&pick" [.var "@a", given]),
      .flow .return (some (.index (.var "@a") (.literal (.int 0))))]

/-- A line of input beside the list that a function returns marks the element of the list, a clean
text does not. -/
theorem call_marks_element :
    endsWith (pickedList (.call "&readln" []))
      (fun h result list => h.isTainted result && !h.isTainted list) ∧
    endsWith (pickedList (.literal (.str "in")))
      (fun h result list => !h.isTainted result && !h.isTainted list) := by
  decide +kernel

end Eval

end CellScript
