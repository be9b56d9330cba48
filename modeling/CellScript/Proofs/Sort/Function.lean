import CellScript.Library.Collection
import CellScript.Proofs.Host.RoundTrip
import CellScript.Proofs.Run.Relation
import CellScript.Proofs.Sequence.History
import CellScript.Proofs.Sort.Comparison

/-!
# Sorting with functions of a script

The comparison of `sort` is a function of the script, that of `Collections.sort` a proxy for one.
Either may answer as it likes, change the machine and fail. The result is a new list; beside it
nothing is changed but by the comparisons.

## Main definitions

* `Run.execution`, `Host.execution` — how the computations of the machine and of host code run.
* `Library.Delivers` — a new sequence of sorted elements, or a failure.

## Main statements

* `Library.sort_delivers`, `Library.sort_natural_delivers` — the two ways to call `sort`.
* `Library.sorted_by_calls` — what both functions come to.
-/

namespace CellScript

open Relation

/-- How the computations of the machine run. -/
def Run.execution : Execution Run Machine Stop where
  run x m := x m
  run_pure _ _ := rfl
  run_bind x f m := by
    rw [Run.bind_run]
    rcases x m with ⟨_ | _, _⟩ <;> rfl

/-- How the computations of host code run. A failure is that of the host or of the machine. -/
def Host.execution : Execution HostRun Machine (HostFault ⊕ Stop) where
  run x m :=
    match x m with
    | (.ok (.ok a), m) => (.ok a, m)
    | (.ok (.error f), m) => (.error (.inl f), m)
    | (.error stop, m) => (.error (.inr stop), m)
  run_pure _ _ := rfl
  run_bind x f m := by
    rw [Host.bind_run]
    rcases x m with ⟨_ | _ | _, _⟩ <;> rfl

namespace Library

/-- The result is a new sequence of the sorted elements or the failure of the sort. Whatever there
was after the comparisons is as it was then. -/
def Delivers (ran : Except Stop CellRef × Machine) (outcome : Except Stop (List CellRef))
    (m : Machine) : Prop :=
  match outcome with
  | .error stop => ran = (.error stop, m)
  | .ok result => ∃ s new h, ran = (.ok new, { m with heap := h }) ∧ m.heap.Extends ∅ h ∧
      m.heap.Made h new (.sequence s) ∧ m.heap.sequences.NewRoot h.sequences s result

variable (self : Reentry) {m : Machine} {comparison list : CellRef} {rest : List CellRef}
  {f : FunctionRef} {s : SequenceRef} {items : List CellRef}

/-- Whether what a function gives for two elements is less than zero. -/
def precedes (comparison a b : CellRef) : Run Bool := do
  let verdict ← self.call comparison none [a, b]
  Run.askHeap fun h => h.cellInt verdict < 0

/-- Whether one element is before another without a comparison. -/
def precedesNaturally (a b : CellRef) : Run Bool :=
  Run.askHeap fun h => naturalOrder h a b == .lt

theorem delivers_of_sorts (before : CellRef → CellRef → Run Bool) (m : Machine)
    (items : List CellRef) :
    ∃ outcome m', Sorts Run.execution before items m outcome m' ∧
      Delivers ((sortBy before items >>= fun result => (HeapM.sequence result : Run CellRef)) m)
        outcome m' := by
  refine ⟨_, _, sortBy_sorts Run.execution before items m, ?_⟩
  change Delivers _ (sortBy before items m).1 (sortBy before items m).2
  rw [Run.bind_run]
  rcases sortBy before items m with ⟨stop | result, m'⟩
  · rfl
  · obtain ⟨s, new, h, run, extension, made, root⟩ := Heap.sequence_run m'.heap result
    refine ⟨s, new, h, ?_, extension, made, root⟩
    change Run.onHeap (HeapM.sequence result) m' = _
    rw [Run.onHeap_run, run]

theorem sequenceArgument_run (function : String) {args : List CellRef} {i : Nat}
    (h : args[i]? = some list) (content : m.heap.content list = .sequence s) :
    sequenceArgument function args i m = (.ok s, m) := by
  have read : contentArgument args i m = (.ok (.sequence s), m) := by
    rw [contentArgument, h, ← content]
    rfl
  exact Run.bind_of_ok read

theorem functionArgument_run (function : String) {args : List CellRef} {i : Nat}
    (h : args[i]? = some comparison) (content : m.heap.content comparison = .function f) :
    functionArgument function args i m = (.ok comparison, m) := by
  have read : argument args i m = (.ok comparison, m) := by
    rw [argument, h]
    rfl
  refine (Run.bind_of_ok read).trans ((Run.bind_of_ok (Run.askHeap_run _ m)).trans ?_)
  rw [content]
  rfl

theorem snapshot_run (shows : m.heap.sequences.snapshot s = .ok items) :
    snapshot s m = (.ok items, m) := by
  change Run.onHeap (HeapM.consult _) m = _
  rw [Run.onHeap_run, HeapM.consult_run shows]

theorem sort_delivers (function : m.heap.content comparison = .function f)
    (sequence : m.heap.content list = .sequence s)
    (shows : m.heap.sequences.snapshot s = .ok items) : ∃ outcome m',
      Sorts Run.execution (precedes self comparison) items m outcome m' ∧
      Delivers (sort self (comparison :: list :: rest) m) outcome m' := by
  have run : sort self (comparison :: list :: rest) m =
      (sortBy (precedes self comparison) items >>=
        fun result => (HeapM.sequence result : Run CellRef)) m := by
    rw [sort, if_neg (by simp)]
    exact (Run.bind_of_ok (functionArgument_run "&sort" rfl function)).trans
      ((Run.bind_of_ok (sequenceArgument_run "&sort" rfl sequence)).trans
        (Run.bind_of_ok (snapshot_run shows)))
  rw [run]
  exact delivers_of_sorts _ m items

theorem sort_natural_delivers (sequence : m.heap.content list = .sequence s)
    (shows : m.heap.sequences.snapshot s = .ok items) : ∃ outcome m',
      Sorts Run.execution precedesNaturally items m outcome m' ∧
      Delivers (sort self [list] m) outcome m' := by
  have run : sort self [list] m =
      (sortBy precedesNaturally items >>= fun result =>
        (HeapM.sequence result : Run CellRef)) m := by
    rw [sort, if_pos (by simp)]
    exact (Run.bind_of_ok (sequenceArgument_run "&sort" rfl sequence)).trans
      (Run.bind_of_ok (snapshot_run shows))
  rw [run]
  exact delivers_of_sorts _ m items

/-- Comparisons without a function are those of the natural order and change nothing. -/
theorem Asked.natural {all : List CellRef} {asked : List (Verdict CellRef)} {m' : Machine}
    (asks : Asked Run.execution precedesNaturally all m asked m') :
    m' = m ∧ ∀ c ∈ asked, c.Agrees (naturalOrder m.heap) := by
  induction asks with
  | none m => exact ⟨rfl, fun _ none => absurd none List.not_mem_nil⟩
  | more ha hb answer asks ih =>
    obtain ⟨verdict, same⟩ := Prod.mk.inj answer
    obtain ⟨rfl, agree⟩ := ih
    subst same
    exact ⟨rfl, List.forall_mem_cons.mpr ⟨(Except.ok.inj verdict).symm, agree⟩⟩

/-- Without a function a sort does not fail, and it changes nothing. -/
theorem sort_natural_result (sequence : m.heap.content list = .sequence s)
    (shows : m.heap.sequences.snapshot s = .ok items) :
    ∃ result, Delivers (sort self [list] m) (.ok result) m ∧
      result.Perm items ∧
      (Orders (naturalOrder m.heap) items → result.Pairwise (naturalOrder m.heap · · ≠ .gt) ∧
        ∀ x ∈ items, result.filter (naturalOrder m.heap x · = .eq) =
          items.filter (naturalOrder m.heap x · = .eq)) := by
  obtain ⟨outcome, m', sorts, delivers⟩ := sort_natural_delivers self sequence shows
  cases sorts with
  | failed asks ha hb failure => cases (Prod.mk.inj failure).1
  | @done asked result m' asks arranged =>
    obtain ⟨rfl, agree⟩ := Asked.natural asks
    exact ⟨result, delivers, arranged.perm, fun orders => ⟨arranged.ordered _ orders agree,
      arranged.stable _ orders agree⟩⟩

/-- The sequence that was sorted, or any other one, shows at the end what it showed after the
comparisons. -/
theorem Delivers.snapshot_eq {ran : Except Stop CellRef × Machine}
    {outcome : Except Stop (List CellRef)} (delivers : Delivers ran outcome m)
    (sound : m.heap.sequences.Sound) (hs : m.heap.sequences.Has s) :
    ran.2.heap.sequences.snapshot s = m.heap.sequences.snapshot s := by
  cases outcome with
  | error stop => rw [show ran = (.error stop, m) from delivers]
  | ok result =>
    obtain ⟨_, _, h, run, extension, -, -⟩ := delivers
    rw [run]
    exact extension.sequences.snapshot_of_sound sound hs

end Library

/-- The machine has a sequence of these elements. -/
structure Machine.Lists (m : Machine) (s : SequenceRef) (items : List CellRef) : Prop where
  sound : m.heap.sequences.Sound
  held : m.heap.sequences.Has s
  shows : m.heap.sequences.snapshot s = .ok items

theorem Host.sortItems_run (self : Reentry) (m : Machine) (front : List HostValue)
    {list : HostValue} {items : List HostValue} (known : list = .list items ∨ list = .array items)
    (comparator : ObjectRef) :
    ∃ outcome m', Sorts Host.execution (Host.comesBefore self comparator) items m outcome m' ∧
      Host.execution.run (Host.sortItems self (front ++ [list, .object comparator])) m =
        (outcome.map HostValue.list, m') := by
  refine ⟨_, _, sortBy_sorts Host.execution (Host.comesBefore self comparator) items m, ?_⟩
  have run : Host.sortItems self (front ++ [list, .object comparator]) =
      sortBy (Host.comesBefore self comparator) items >>= fun sorted => pure (.list sorted) := by
    rw [Host.sortItems]
    rcases known with rfl | rfl <;> simp
  rw [run, Host.execution.run_bind]
  rcases Host.execution.run (sortBy (Host.comesBefore self comparator) items) m with ⟨_ | _, _⟩ <;>
    rfl

/-- An evaluator in which every call fails. -/
def Reentry.refusing : Reentry where
  rounds := 0
  block _ _ := throw .exhausted
  call _ _ _ := Run.fail (.taintViolation "refused")
  invoke _ _ _ := Run.fail (.taintViolation "refused")

/-- A machine with a function, a sequence of two numbers and a proxy for the function. -/
def Machine.twoNumbers : Machine :=
  { (default : Machine) with
    heap :=
      { Heap.empty with
        cells := #[.clean (.function ⟨0⟩), .clean (.sequence ⟨0⟩), .clean (.int 2), .clean (.int 1)]
        sequences := Sequences.empty.addRoot [⟨2⟩, ⟨3⟩]
        functions := #[default]
        objects := #[.proxy ⟨0⟩ "java.util.Comparator"] } }

namespace Library

variable (self : Reentry) (m : Machine)

/-- Both functions give the elements in the order of the verdicts, or the failure of the first
comparison that fails, after which they make no other. They change nothing but through the
comparisons and by making a new list; what the comparisons do not change of a sequence, the one that
is sorted or any other, stays as it was. -/
theorem sorted_by_calls :
    (∀ comparison list rest f s items, m.heap.content comparison = .function f →
      m.heap.content list = .sequence s →
      m.heap.sequences.snapshot s = .ok items → ∃ outcome m',
        Sorts Run.execution (precedes self comparison) items m outcome m' ∧
        Delivers (sort self (comparison :: list :: rest) m) outcome m' ∧
        ∀ t kept, m.Lists t kept → (∀ a ∈ items, ∀ b ∈ items, ∀ n : Machine, n.Lists t kept →
            (precedes self comparison a b n).2.Lists t kept) →
          (sort self (comparison :: list :: rest) m).2.heap.sequences.snapshot t = .ok kept) ∧
    (∀ list s items, m.heap.content list = .sequence s → m.heap.sequences.snapshot s = .ok items →
      ∃ result, Delivers (sort self [list] m) (.ok result) m ∧ result.Perm items ∧
        (Orders (naturalOrder m.heap) items → result.Pairwise (naturalOrder m.heap · · ≠ .gt) ∧
          ∀ x ∈ items, result.filter (naturalOrder m.heap x · = .eq) =
            items.filter (naturalOrder m.heap x · = .eq))) ∧
    (∀ front list items comparator, list = .list items ∨ list = .array items → ∃ outcome m',
      Sorts Host.execution (Host.comesBefore self comparator) items m outcome m' ∧
      Host.execution.run (Host.sortItems self (front ++ [list, .object comparator])) m =
        (outcome.map HostValue.list, m')) := by
  refine ⟨fun comparison list rest f s items function sequence shows => ?_,
    fun list s items sequence shows =>
    sort_natural_result self sequence shows, fun front list items comparator known =>
    Host.sortItems_run self m front known comparator⟩
  obtain ⟨outcome, m', sorts, delivers⟩ := sort_delivers self function sequence shows
  refine ⟨outcome, m', sorts, delivers, fun t kept held keeps => ?_⟩
  have after : m'.Lists t kept := sorts.keeps keeps held
  exact (delivers.snapshot_eq after.sound after.held).trans after.shows

/-- With a comparison that fails both functions fail, and the sequence stays; without one the two
numbers are sorted. -/
theorem sorted_by_calls_refusing :
    (sort .refusing [⟨0⟩, ⟨1⟩] .twoNumbers).1 = .error (.fault (.taintViolation "refused")) ∧
    (sort .refusing [⟨0⟩, ⟨1⟩] .twoNumbers).2.heap.sequences.snapshot ⟨0⟩ = .ok [⟨2⟩, ⟨3⟩] ∧
    (∃ result, Delivers (sort .refusing [⟨1⟩] .twoNumbers) (.ok result) .twoNumbers ∧
      result.Perm [⟨2⟩, ⟨3⟩]) ∧
    (Host.execution.run (Host.sortItems .refusing [.list [.int 2, .int 1], .object ⟨0⟩])
      .twoNumbers).1 =
      .error (.inl (.taintViolation "refused")) := by
  obtain ⟨called, natural, hosted⟩ := sorted_by_calls .refusing .twoNumbers
  have shows : Machine.twoNumbers.heap.sequences.snapshot ⟨0⟩ = .ok [⟨2⟩, ⟨3⟩] :=
    Sequences.snapshot_addRoot .empty [⟨2⟩, ⟨3⟩]
  have lists : Machine.twoNumbers.Lists ⟨0⟩ [⟨2⟩, ⟨3⟩] :=
    ⟨Sequences.sound_empty.addRoot _, by decide, shows⟩
  obtain ⟨outcome, m', sorts, delivers, stays⟩ := called ⟨0⟩ ⟨1⟩ [] ⟨0⟩ ⟨0⟩ [⟨2⟩, ⟨3⟩] rfl rfl shows
  refine ⟨?_, stays ⟨0⟩ _ lists fun _ _ _ _ _ held => held, ?_, ?_⟩
  · obtain rfl := sorts.refused (by decide) fun _ _ _ _ => rfl
    exact congrArg Prod.fst delivers
  · obtain ⟨result, delivers, perm, -⟩ := natural ⟨1⟩ ⟨0⟩ [⟨2⟩, ⟨3⟩] rfl shows
    exact ⟨result, delivers, perm⟩
  · obtain ⟨outcome, m', sorts, run⟩ :=
        hosted [] (.list [.int 2, .int 1]) [.int 2, .int 1] ⟨0⟩ (.inl rfl)
    obtain rfl := sorts.refused (by simp) fun a ha b hb => by
      simp only [List.mem_cons, List.not_mem_nil, or_false] at ha hb
      rcases ha with rfl | rfl <;> rcases hb with rfl | rfl <;> rfl
    exact congrArg Prod.fst run

end Library

end CellScript
