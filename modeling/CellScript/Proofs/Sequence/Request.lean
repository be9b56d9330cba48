import CellScript.Heap.Basic
import CellScript.Proofs.Sequence.Step

/-!
# Requests

The operations that a heap offers on its sequences, as one type: a new root, a change of the
elements of a view, access by index, and a new view. A request through a stale view is refused; any
other one makes a step of the sequences, and fails only for its own arguments.

## Main definitions

* `WindowEdit` — the changes of the elements of a view, and the same changes of a list.
* `SequenceRequest` — the operations.
* `Serves` — what comes of an operation through a view that is not stale.

## Main statements

* `WindowEdit.perform_ok`, `WindowEdit.perform_error` — a change of a view is the same change of the
  list of its cells.
* `SequenceRequest.refused` — a stale view refuses all requests.
* `SequenceRequest.serves` — all others make a step, or fail and change nothing.
-/

namespace CellScript

/-- What an operation on sequences answers. -/
inductive SequenceReply where
  | done
  | cell (cell : CellRef)
  | cell? (cell : Option CellRef)
  | cells (cells : List CellRef)
  | count (n : Nat)
  | sequence (s : SequenceRef)

/-- A change of the elements of a view. -/
inductive WindowEdit where
  | push (cell : CellRef)
  | unshift (cell : CellRef)
  | insert (index : Int) (cell : CellRef)
  | pop
  | shift
  | removeEqual (value : Value)
  | clear
  | reorder (cells : List CellRef)

namespace WindowEdit

def perform (s : SequenceRef) : WindowEdit → HeapM SequenceReply
  | .push cell => do
    HeapM.onSequences (Sequences.push s cell)
    return .done
  | .unshift cell => do
    HeapM.onSequences (Sequences.unshift s cell)
    return .done
  | .insert index cell => do
    HeapM.onSequences (Sequences.insert s index cell)
    return .done
  | .pop => return .cell? (← HeapM.onSequences (Sequences.pop s))
  | .shift => return .cell? (← HeapM.onSequences (Sequences.shift s))
  | .removeEqual value => return .count (← HeapM.removeEqual s value)
  | .clear => do
    HeapM.onSequences (Sequences.clear s)
    return .done
  | .reorder cells => do
    HeapM.onSequences (Sequences.reorder s cells)
    return .done

/-- A list with a cell inserted so that it ends up at an index. -/
def insertAt (l : List CellRef) (index : Int) (cell : CellRef) : Except Fault (List CellRef) :=
  match resolveIndex index l.length with
  | .error fault => .error fault
  | .ok i =>
    if l.length < i then .error (.badIndex (.insertion i l.length))
      else .ok (l.take i ++ [cell] ++ l.drop i)

/-- The same change of a list, with the answer. -/
def onList (h : Heap) (l : List CellRef) : WindowEdit → Except Fault (SequenceReply × List CellRef)
  | .push cell => .ok (.done, l ++ [cell])
  | .unshift cell => .ok (.done, cell :: l)
  | .insert index cell => (insertAt l index cell).map (.done, ·)
  | .pop => .ok (.cell? l.getLast?, l.dropLast)
  | .shift => .ok (.cell? l.head?, l.tail)
  | .removeEqual value =>
    .ok (.count (l.countP fun cell => (h.get cell).same value), l.filter
      fun cell => !(h.get cell).same value)
  | .clear => .ok (.done, [])
  | .reorder cells =>
    if cells.length ≠ l.length then .error (.runtime (.reorder l.length cells.length))
    else .ok (.done, cells)

end WindowEdit

/-- An operation on the sequences of a heap. -/
inductive SequenceRequest where
  | create (cells : List CellRef)
  | edit (s : SequenceRef) (change : WindowEdit)
  | element (s : SequenceRef) (index : Int)
  | find (s : SequenceRef) (index : Int)
  | removeAt (s : SequenceRef) (index : Int)
  | sublist (s : SequenceRef) (first last : Int)
  | length (s : SequenceRef)
  | snapshot (s : SequenceRef)

namespace SequenceRequest

/-- The view that an operation goes through. -/
def target? : SequenceRequest → Option SequenceRef
  | .create _ => none
  | .edit s _ | .element s _ | .find s _ | .removeAt s _ | .sublist s _ _ | .length s
  | .snapshot s => some s

def perform : SequenceRequest → HeapM SequenceReply
  | .create cells => return .sequence (← HeapM.newSequence cells)
  | .edit s change => change.perform s
  | .element s index => return .cell (← HeapM.element s index)
  | .find s index => return .cell? (← HeapM.consult (·.sequences.find? s index))
  | .removeAt s index => return .cell (← HeapM.onSequences (Sequences.removeAt s index))
  | .sublist s first last => return .sequence (← HeapM.onSequences (Sequences.sublist s first last))
  | .length s => return .count (← HeapM.consult (·.sequences.length s))
  | .snapshot s => return .cells (← HeapM.consult (·.sequences.snapshot s))

end SequenceRequest

open Sequences

variable {α β : Type} {h h' : Heap} {q q' : Sequences} {s : SequenceRef} {front win back : List Nat}
  {index : Int}

/-! ## Operations on a heap -/

namespace HeapM

theorem onSequences_run {edit : Edit α} {result : Except Fault α}
    (run : edit h.sequences = (result, q')) :
    onSequences edit h = (result, { h with sequences := q' }) := by
  change ((edit h.sequences).1, { h with sequences := (edit h.sequences).2 }) = _
  rw [run]

theorem onSequences_error {edit : Edit α} {fault : Fault}
    (run : edit h.sequences = (.error fault, h.sequences)) :
    onSequences edit h = (.error fault, h) :=
  onSequences_run run

theorem consult_run {f : Heap → Except Fault α} {result : Except Fault α} (known : f h = result) :
    consult f h = (result, h) := by
  rw [consult, known]

/-- New cells without content get the next numbers. -/
theorem nulls_run (n : Nat) (h : Heap) :
    ((List.replicate n ()).mapM fun _ => null) h =
      (.ok ((List.range' h.cells.size n).map CellRef.mk),
        { h with cells := h.cells ++ Array.replicate n .null }) := by
  induction n generalizing h with
  | zero => simp; rfl
  | succ n ih =>
    rw [List.replicate_succ, List.mapM_cons, bind_ok (x := null) rfl, bind_ok (ih _)]
    refine Prod.ext ?_ ?_
    · simp [List.range'_succ]
      rfl
    · simp [Array.replicate_succ']
      rfl

end HeapM

/-! ## Changes of elements -/

/-- An operation that fails for its arguments: nothing has changed, and the view is not to blame. -/
def FailsAs (m : HeapM α) (h : Heap) (fault : Fault) : Prop :=
  m h = (.error fault, h) ∧ ∀ why, fault ≠ .concurrentModification why

theorem FailsAs.bind {m : HeapM α} {f : α → HeapM β} {fault : Fault} (fails : FailsAs m h fault) :
    FailsAs (m >>= f) h fault :=
  ⟨bind_error fails.1, fails.2⟩

/-- An index before the first element is no fault of the view. -/
theorem resolveIndex_ne {length : Nat} {fault : Fault}
    (failed : resolveIndex index length = .error fault) (why : Staleness) :
    fault ≠ .concurrentModification why := by
  rintro rfl
  unfold resolveIndex at failed
  split at failed
  · cases failed
  · split at failed
    · cases failed
    · cases failed

namespace WindowEdit

section

variable (sound : h.sequences.Sound) (hs : h.sequences.Has s)
  (fresh : h.sequences.staleness? s = none) (span : h.sequences.Spans s front win back)

include sound hs fresh span

/-- A change of a view is the same change of the list of its cells; one that the list does not allow
is not made. -/
theorem perform_run (change : WindowEdit) :
    (∃ reply cells q', change.onList h (win.map (h.sequences.base s).cell) = .ok (reply, cells) ∧
      change.perform s h = (.ok reply, { h with sequences := q' }) ∧
      h.sequences.Becomes s front win back q' cells) ∨
    ∃ fault, change.onList h (win.map (h.sequences.base s).cell) = .error fault ∧
      FailsAs (change.perform s) h fault := by
  have length : (win.map (h.sequences.base s).cell).length = (h.sequences.view s).length := by
    rw [List.length_map, span.length]
  cases change with
  | push cell =>
    obtain ⟨q', run, becomes⟩ := append_run sound hs fresh span [cell]
    exact .inl ⟨_, _, q', rfl, bind_ok (HeapM.onSequences_run run), becomes⟩
  | unshift cell =>
    have first : resolveIndex 0 (h.sequences.view s).length = .ok 0 := rfl
    obtain ⟨q', run, becomes⟩ := insert_run sound hs fresh span first (Nat.zero_le _) cell
    exact .inl ⟨_, _, q', rfl, bind_ok (HeapM.onSequences_run run), becomes⟩
  | insert index cell =>
    cases resolved : resolveIndex index (h.sequences.view s).length with
    | error fault =>
      have run : Sequences.insert s index cell h.sequences = (.error fault, h.sequences) := by
        rw [Sequences.insert, ask_bind_ok (window_of_fresh fresh), ask_bind_error resolved]
      refine .inr ⟨fault, ?_, bind_error (HeapM.onSequences_error run), resolveIndex_ne resolved⟩
      rw [onList, insertAt, length, resolved]
      rfl
    | ok i =>
      by_cases outside : (h.sequences.view s).length < i
      · have run : Sequences.insert s index cell h.sequences =
            (.error (.badIndex (.insertion i (h.sequences.view s).length)), h.sequences) := by
          rw [Sequences.insert, ask_bind_ok (window_of_fresh fresh), ask_bind_ok resolved]
          change (if (h.sequences.view s).length < i then throw _ else _ : Edit Unit) _ = _
          rw [if_pos outside]
          rfl
        refine .inr ⟨_, ?_, bind_error (HeapM.onSequences_error run), fun _ => Fault.noConfusion⟩
        rw [onList, insertAt, length, resolved]
        change Except.map _ (if _ then _ else _) = _
        rw [if_pos outside]
        rfl
      · obtain ⟨q', run, becomes⟩ :=
            insert_run sound hs fresh span resolved (Nat.not_lt.mp outside) cell
        refine .inl ⟨_, _, q', ?_, bind_ok (HeapM.onSequences_run run), becomes⟩
        rw [onList, insertAt, length, resolved]
        change Except.map _ (if _ then _ else _) = _
        rw [if_neg outside]
        rfl
  | pop =>
    obtain ⟨q', run, loses⟩ := pop_run sound hs fresh span
    exact .inl ⟨_, _, q', rfl, bind_ok (HeapM.onSequences_run run), loses.becomes⟩
  | shift =>
    obtain ⟨q', run, loses⟩ := shift_run sound hs fresh span
    exact .inl ⟨_, _, q', rfl, bind_ok (HeapM.onSequences_run run), loses.becomes⟩
  | removeEqual value =>
    obtain ⟨q', run, loses⟩ :=
        removeWhere_run sound hs fresh span fun cell => (h.get cell).same value
    exact .inl ⟨_, _, q', rfl,
      bind_ok ((bind_ok (x := HeapM.ask id) rfl).trans (HeapM.onSequences_run run)), loses.becomes⟩
  | clear =>
    obtain ⟨q', run, loses⟩ := clear_run sound hs fresh span
    exact .inl ⟨_, _, q', rfl, bind_ok (HeapM.onSequences_run run), loses.becomes⟩
  | reorder cells =>
    by_cases same : cells.length = (h.sequences.view s).length
    · obtain ⟨q', run, becomes⟩ := reorder_run sound hs fresh span same
      refine .inl ⟨_, _, q', ?_, bind_ok (HeapM.onSequences_run run), becomes⟩
      rw [onList, length, if_neg (not_not.mpr same)]
    · have run : Sequences.reorder s cells h.sequences =
          (.error (.runtime (.reorder (h.sequences.view s).length cells.length)), h.sequences) := by
        rw [Sequences.reorder, ask_bind_ok (window_of_fresh fresh)]
        change (if cells.length ≠ (h.sequences.view s).length then throw _ else _ : Edit Unit) _ = _
        rw [if_pos same]
        rfl
      refine .inr ⟨_, ?_, bind_error (HeapM.onSequences_error run), fun _ => Fault.noConfusion⟩
      rw [onList, length, if_pos same]

end

end WindowEdit

/-! ## Access by index and new views -/

namespace HeapM

section

variable (sound : h.sequences.Sound) (hs : h.sequences.Has s)
  (fresh : h.sequences.staleness? s = none) (span : h.sequences.Spans s front win back)

include fresh

/-- A search answers with the element in the slot that the index leads to. -/
theorem find_run {i : Nat} (resolved : resolveIndex index (h.sequences.view s).length = .ok i)
    (inside : i < (h.sequences.view s).length) :
    h.sequences.find? s index = .ok (some ((h.sequences.base s).cell
      (slotAt (h.sequences.base s) (h.sequences.windowOf s) i))) := by
  have resolved : resolveIndex index (h.sequences.windowOf s).length = .ok i := resolved
  have inside : i < (h.sequences.windowOf s).length := inside
  rw [find?, window_of_fresh fresh]
  change Except.ok _ = _
  beta_reduce
  rw [resolved]
  dsimp only
  rw [if_pos inside]
  rfl

theorem missing_run {i : Nat} (resolved : resolveIndex index (h.sequences.view s).length = .ok i) :
    h.sequences.missing s index = .ok (i + 1 - (h.sequences.view s).length) := by
  have resolved : resolveIndex index (h.sequences.windowOf s).length = .ok i := resolved
  rw [missing, window_of_fresh fresh]
  change (resolveIndex index (h.sequences.windowOf s).length >>= fun i => _) = _
  rw [resolved]
  rfl

theorem element_fails {fault : Fault}
    (failed : resolveIndex index (h.sequences.view s).length = .error fault) :
    FailsAs (element s index) h fault := by
  have failed' : resolveIndex index (h.sequences.windowOf s).length = .error fault := failed
  have missing : h.sequences.missing s index = .error fault := by
    rw [missing, window_of_fresh fresh]
    change (resolveIndex index (h.sequences.windowOf s).length >>= fun i => _) = _
    rw [failed']
    rfl
  exact ⟨bind_error (consult_run missing), resolveIndex_ne failed⟩

/-- Access to an element finds it. -/
theorem element_run {i : Nat} (resolved : resolveIndex index (h.sequences.view s).length = .ok i)
    (inside : i < (h.sequences.view s).length) :
    element s index h =
      (.ok ((h.sequences.base s).cell (slotAt (h.sequences.base s) (h.sequences.windowOf s) i)),
        h) := by
  have none : i + 1 - (h.sequences.view s).length = 0 := by omega
  rw [element, bind_ok (consult_run (missing_run fresh resolved)), if_pos none,
    bind_ok (consult_run (find_run fresh resolved inside))]
  rfl

include sound hs span

/-- Access past the end adds empty elements up to the index. -/
theorem element_grows {i : Nat} (resolved : resolveIndex index (h.sequences.view s).length = .ok i)
    (outside : (h.sequences.view s).length ≤ i) :
    ∃ q', element s index h = (.ok ⟨h.cells.size + (i - (h.sequences.view s).length)⟩,
        { h with
          cells := h.cells ++ Array.replicate (i + 1 - (h.sequences.view s).length) .null
          sequences := q' }) ∧
      h.sequences.Becomes s front win back q' (win.map (h.sequences.base s).cell ++
        (List.range' h.cells.size (i + 1 - (h.sequences.view s).length)).map CellRef.mk) := by
  obtain ⟨k, added⟩ : ∃ k, i + 1 - (h.sequences.view s).length = k + 1 :=
      ⟨i - (h.sequences.view s).length, by omega⟩
  have last : i - (h.sequences.view s).length = k := by omega
  rw [added, last]
  obtain ⟨q', run, becomes⟩ :=
      append_run sound hs fresh span ((List.range' h.cells.size (k + 1)).map CellRef.mk)
  have grown :=
    onSequences_run (h := { h with cells := h.cells ++ Array.replicate (k + 1) .null }) run
  refine ⟨q', ?_, becomes⟩
  rw [element, bind_ok (consult_run (missing_run fresh resolved)), added,
    if_neg (Nat.succ_ne_zero k), bind_ok (nulls_run (k + 1) h), bind_ok grown]
  refine Prod.ext (congrArg Except.ok ?_) rfl
  simp [List.range'_concat]

omit sound hs span

theorem removeAt_fails {fault : Fault}
    (failed : resolveIndex index (h.sequences.view s).length = .error fault) :
    FailsAs (onSequences (Sequences.removeAt s index)) h fault := by
  have run : Sequences.removeAt s index h.sequences = (.error fault, h.sequences) := by
    rw [Sequences.removeAt, ask_bind_ok (window_of_fresh fresh), ask_bind_error failed]
  exact ⟨onSequences_error run, resolveIndex_ne failed⟩

theorem removeAt_misses {i : Nat}
    (resolved : resolveIndex index (h.sequences.view s).length = .ok i)
    (outside : (h.sequences.view s).length ≤ i) :
    FailsAs (onSequences (Sequences.removeAt s index)) h
      (.badIndex (.removal i (h.sequences.view s).length)) := by
  have run : Sequences.removeAt s index h.sequences =
      (.error (.badIndex (.removal i (h.sequences.view s).length)), h.sequences) := by
    rw [Sequences.removeAt, ask_bind_ok (window_of_fresh fresh), ask_bind_ok resolved]
    change (if (h.sequences.view s).length ≤ i then throw _ else _ : Edit CellRef) _ = _
    rw [if_pos outside]
    rfl
  exact ⟨onSequences_error run, fun _ => Fault.noConfusion⟩

/-- A new view is anchored on a slot of the view it is made from. -/
theorem sublist_run (first last : Int) :
    (∃ i n, i ≤ (h.sequences.view s).length ∧ onSequences (Sequences.sublist s first last) h =
      (.ok ⟨h.sequences.views.size⟩, { h with
        sequences :=
          h.sequences.addView s ((h.sequences.base s).nthAfter (h.sequences.view s).anchor.slot i)
            n })) ∨
    ∃ fault, FailsAs (onSequences (Sequences.sublist s first last)) h fault := by
  cases from_ : resolveIndex first (h.sequences.view s).length with
  | error fault =>
    refine .inr ⟨fault, onSequences_error ?_, resolveIndex_ne from_⟩
    rw [Sequences.sublist, ask_bind_ok (window_of_fresh fresh), ask_bind_error from_]
  | ok i =>
    cases upTo : resolveIndex last (h.sequences.view s).length with
    | error fault =>
      refine .inr ⟨fault, onSequences_error ?_, resolveIndex_ne upTo⟩
      rw [Sequences.sublist, ask_bind_ok (window_of_fresh fresh), ask_bind_ok from_,
        ask_bind_error upTo]
    | ok j =>
      by_cases wrong : j < i ∨ (h.sequences.view s).length < j
      · refine .inr ⟨.badIndex (.window i j (h.sequences.view s).length), onSequences_error ?_,
          fun _ =>
          Fault.noConfusion⟩
        rw [Sequences.sublist, ask_bind_ok (window_of_fresh fresh), ask_bind_ok from_,
          ask_bind_ok upTo]
        change (if j < i ∨ (h.sequences.view s).length < j then throw _ else _ : Edit SequenceRef)
          _ = _
        rw [if_pos wrong]
        rfl
      · refine .inl ⟨i, j - i, by omega, onSequences_run ?_⟩
        rw [Sequences.sublist, ask_bind_ok (window_of_fresh fresh), ask_bind_ok from_,
          ask_bind_ok upTo]
        change (if j < i ∨ (h.sequences.view s).length < j then throw _ else _ : Edit SequenceRef)
          _ = _
        rw [if_neg wrong]
        rfl

end

end HeapM

/-! ## All requests -/

/-- What comes of an operation through a view that is not stale: a step, or a fault that changes
nothing. -/
structure Serves (m : HeapM α) (h : Heap) : Prop where
  step : Sequences.Step h.sequences (m h).2.sequences
  kept : ∀ fault, (m h).1 = .error fault → (m h).2 = h
  served : ∀ why, (m h).1 ≠ .error (.concurrentModification why)

theorem Serves.of_ok {m : HeapM α} {a : α} (run : m h = (.ok a, h'))
    (step : Sequences.Step h.sequences h'.sequences) :
    Serves m h := by
  refine ⟨?_, fun _ failed => ?_, fun _ failed => ?_⟩ <;> rw [run] at *
  · exact step
  · cases failed
  · cases failed

theorem FailsAs.serves {m : HeapM α} {fault : Fault} (fails : FailsAs m h fault) : Serves m h := by
  refine ⟨?_, fun _ _ => ?_, fun why failed => ?_⟩ <;> rw [fails.1] at *
  · exact .stay _
  · exact fails.2 why (Except.error.inj failed)

theorem Serves.answer {m : HeapM α} (serves : Serves m h) (f : α → β) :
    Serves (m >>= fun a => pure (f a)) h := by
  obtain ⟨step, kept, served⟩ := serves
  generalize run : m h = outcome at step kept served
  obtain ⟨result, h'⟩ := outcome
  cases result with
  | ok a => exact .of_ok (bind_ok run) step
  | error fault =>
    obtain rfl : h' = h := kept fault rfl
    exact FailsAs.serves ⟨bind_error run, fun why e => served why (congrArg Except.error e)⟩

theorem Sequences.Becomes.step {cells : List CellRef}
    (becomes : q.Becomes s front win back q' cells) (hs : q.Has s) :
    Sequences.Step q q' := by
  obtain ⟨win', rewrites, -⟩ := becomes
  exact .rewrite hs rewrites

namespace HeapM

section

variable (sound : h.sequences.Sound) (hs : h.sequences.Has s)
  (fresh : h.sequences.staleness? s = none)

include fresh

theorem length_run : h.sequences.length s = .ok (h.sequences.view s).length := by
  rw [Sequences.length, window_of_fresh fresh]
  rfl

theorem snapshot_run (span : h.sequences.Spans s front win back) :
    h.sequences.snapshot s = .ok (win.map (h.sequences.base s).cell) := by
  rw [Sequences.snapshot, window_of_fresh fresh]
  exact congrArg Except.ok span.cells_eq

theorem find_answers (index : Int) : ∃ cell, h.sequences.find? s index = .ok cell := by
  rw [find?, window_of_fresh fresh]
  exact ⟨_, rfl⟩

include sound hs

theorem element_serves (index : Int) : Serves (element s index) h := by
  obtain ⟨front, win, back, span⟩ := sound.exists_spans hs fresh
  cases resolved : resolveIndex index (h.sequences.view s).length with
  | error fault => exact (element_fails fresh resolved).serves
  | ok i =>
    rcases Nat.lt_or_ge i (h.sequences.view s).length with inside | outside
    · exact .of_ok (element_run fresh resolved inside) (.stay _)
    · obtain ⟨q', run, becomes⟩ := element_grows sound hs fresh span resolved outside
      exact .of_ok run (becomes.step hs)

theorem removeAt_serves (index : Int) : Serves (onSequences (Sequences.removeAt s index)) h := by
  obtain ⟨front, win, back, span⟩ := sound.exists_spans hs fresh
  cases resolved : resolveIndex index (h.sequences.view s).length with
  | error fault => exact (removeAt_fails fresh resolved).serves
  | ok i =>
    rcases Nat.lt_or_ge i (h.sequences.view s).length with inside | outside
    · obtain ⟨q', first, second, -, -, run, rewrites, -⟩ :=
          removeAt_run sound hs fresh span resolved inside
      exact .of_ok (onSequences_run run) (.rewrite hs rewrites)
    · exact (removeAt_misses fresh resolved outside).serves

theorem sublist_serves (first last : Int) :
    Serves (onSequences (Sequences.sublist s first last)) h := by
  obtain ⟨front, win, back, span⟩ := sound.exists_spans hs fresh
  rcases sublist_run fresh first last with ⟨i, n, le, run⟩ | ⟨fault, fails⟩
  · have short : (win.take i).length = i := by
      rw [List.length_take, span.length, Nat.min_eq_left le]
    have ring :
        (h.sequences.base s).IsRing (front ++ (h.sequences.view s).anchor.slot :: (win.take i ++
        (win.drop i ++ back))) := by
      rw [← List.append_assoc, List.take_append_drop]
      exact span.ring
    obtain ⟨before, eq⟩ := ring.nthAfter_split
    rw [short] at eq
    have whole : (h.sequences.base s).ring = before ++
        (h.sequences.base s).nthAfter (h.sequences.view s).anchor.slot i ::
        (win.drop i ++ back) := by
      rw [ring.eq_ring, ← List.cons_append, ← List.append_assoc, eq, List.append_assoc,
        List.singleton_append]
    refine .of_ok run (.view hs ?_ ?_)
    · rw [whole]
      exact List.mem_append_right _ List.mem_cons_self
    · rw [whole]
      refine .of_mem ?_
      rw [← eq]
      exact List.mem_append_right _ List.mem_cons_self
  · exact fails.serves

theorem edit_serves (change : WindowEdit) : Serves (change.perform s) h := by
  obtain ⟨front, win, back, span⟩ := sound.exists_spans hs fresh
  rcases WindowEdit.perform_run sound hs fresh span change with ⟨reply, cells, q', -, run, becomes⟩
    | ⟨fault, -, fails⟩
  · exact .of_ok run (becomes.step hs)
  · exact fails.serves

end

end HeapM

namespace SequenceRequest

/-- A stale view refuses all operations, and nothing changes. -/
theorem refused {request : SequenceRequest} {why : Staleness} (target : request.target? = some s)
    (stale : h.sequences.staleness? s = some why) :
    request.perform h = (.error (.concurrentModification why), h) := by
  have ask {α : Type} {f : Window → Edit α} : (ask (·.window s) >>= f) h.sequences =
      (.error (.concurrentModification why), h.sequences) := ask_bind_error (window_of_stale stale)
  cases request with
  | create => cases target
  | edit t change =>
    obtain rfl := Option.some_inj.mp target
    cases change with
    | removeEqual value =>
      exact bind_error ((bind_ok (x := HeapM.ask id) rfl).trans (HeapM.onSequences_error ask))
    | push | unshift | insert | pop | shift | clear | reorder =>
      exact bind_error (HeapM.onSequences_error ask)
  | element t index =>
    obtain rfl := Option.some_inj.mp target
    refine bind_error (bind_error (HeapM.consult_run ?_))
    rw [missing, window_of_stale stale]
    rfl
  | find t index =>
    obtain rfl := Option.some_inj.mp target
    refine bind_error (HeapM.consult_run ?_)
    rw [find?, window_of_stale stale]
    rfl
  | removeAt t index =>
    obtain rfl := Option.some_inj.mp target
    exact bind_error (HeapM.onSequences_error ask)
  | sublist t first last =>
    obtain rfl := Option.some_inj.mp target
    exact bind_error (HeapM.onSequences_error ask)
  | length t =>
    obtain rfl := Option.some_inj.mp target
    refine bind_error (HeapM.consult_run ?_)
    rw [Sequences.length, window_of_stale stale]
    rfl
  | snapshot t =>
    obtain rfl := Option.some_inj.mp target
    refine bind_error (HeapM.consult_run ?_)
    rw [Sequences.snapshot, window_of_stale stale]
    rfl

/-- Any other operation makes a step, or fails for its arguments and changes nothing. -/
theorem serves {request : SequenceRequest} (sound : h.sequences.Sound)
    (known : ∀ s, request.target? = some s → h.sequences.Has s)
    (fresh : ∀ s, request.target? = some s → h.sequences.staleness? s = none) :
    Serves request.perform h := by
  cases request with
  | create cells =>
    exact Serves.answer (m := HeapM.newSequence cells) (.of_ok rfl (.root h.sequences cells)) _
  | edit s change => exact HeapM.edit_serves sound (known s rfl) (fresh s rfl) change
  | element s index => exact (HeapM.element_serves sound (known s rfl) (fresh s rfl) index).answer _
  | find s index =>
    obtain ⟨cell, found⟩ := HeapM.find_answers (fresh s rfl) index
    exact Serves.answer (.of_ok (HeapM.consult_run found) (.stay _)) _
  | removeAt s index =>
    exact (HeapM.removeAt_serves sound (known s rfl) (fresh s rfl) index).answer _
  | sublist s first last =>
    exact (HeapM.sublist_serves sound (known s rfl) (fresh s rfl) first last).answer _
  | length s =>
    exact Serves.answer (.of_ok (HeapM.consult_run (HeapM.length_run (fresh s rfl))) (.stay _)) _
  | snapshot s =>
    obtain ⟨front, win, back, span⟩ := sound.exists_spans (known s rfl) (fresh s rfl)
    exact Serves.answer (.of_ok (HeapM.consult_run (HeapM.snapshot_run (fresh s rfl) span))
      (.stay _)) _

end SequenceRequest

end CellScript
