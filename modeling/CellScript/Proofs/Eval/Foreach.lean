import CellScript.Proofs.Eval.Watch
import CellScript.Proofs.Map.Order
import CellScript.Proofs.Scope.Chain

/-!
# Loops over maps

A `foreach` loop over a map takes the keys that hold something when it begins, and goes through them
in order. A key that is empty when its turn comes is passed over. To find out, the loop looks into
the map and does nothing else to it, so what the body does to the map shows in which keys are still
to be visited, and nowhere else.

## Main definitions

* `Heap.filled?` — the cell of a key that holds something.
* `Machine.onto` — the machine in which a loop has come to a key.
* `Arrival`, `Tour` — a run of such a loop.

## Main statements

* `Eval.iterNext_passes`, `iterNext_visits` — an iterator over a map moves on without the map's
  doing anything.
* `Eval.tour_of_iterate` — the rounds of a loop are a tour.
* `Eval.Tour.keys_prefix`, `Tour.complete`, `Tour.cell_eq` — the order, the extent and the choice of
  the keys of a tour.
* `Eval.foreach_visits_filled` — what a loop over a map visits.
-/

namespace CellScript

variable {h : Heap} {t : TableRef} {key : String} {cell : CellRef} {keys : List String}

/-! ## Keys -/

/-- The cell of a key that holds something. -/
def Heap.filled? (h : Heap) (t : TableRef) (key : String) : Option CellRef :=
  ((h.table t).peek key).filter (!h.isNull ·)

namespace Eval

/-- A key is passed over. -/
theorem nextKey_cons_of_empty (empty : h.filled? t key = none) (n : Nat) :
    nextKey h t (key :: keys) n = nextKey h t keys (n + 1) := by
  unfold Heap.filled? at empty
  rw [nextKey]
  cases held : (h.table t).peek key with
  | none => rfl
  | some cell =>
    rw [held] at empty
    cases null : h.isNull cell with
    | true => exact if_pos null
    | false => simp [null] at empty

theorem nextKey_cons_of_filled (filled : h.filled? t key = some cell) (n : Nat) :
    nextKey h t (key :: keys) n = some (key, cell, n + 1) := by
  obtain ⟨held, full⟩ := Option.filter_eq_some_iff.mp filled
  rw [nextKey, held]
  simp at full
  simp [full]

theorem nextKey_append_of_empty {skipped : List String}
    (empty : ∀ key ∈ skipped, h.filled? t key = none) (n : Nat) :
    nextKey h t (skipped ++ keys) n = nextKey h t keys (n + skipped.length) := by
  induction skipped generalizing n with
  | nil => rfl
  | cons key skipped ih =>
    rw [List.cons_append, nextKey_cons_of_empty (empty key List.mem_cons_self),
      ih fun key later => empty key (List.mem_cons_of_mem _ later), List.length_cons]
    congr 1
    omega

/-- Either all keys are empty, or there is a first one that is not. -/
theorem empty_or_filled (h : Heap) (t : TableRef) (keys : List String) :
    (∀ key ∈ keys, h.filled? t key = none) ∨
    ∃ skipped key rest cell, keys = skipped ++ key :: rest ∧
      (∀ key ∈ skipped, h.filled? t key = none) ∧
      h.filled? t key = some cell := by
  cases found : keys.find? fun key => (h.filled? t key).isSome with
  | none =>
    left
    simpa using List.find?_eq_none.mp found
  | some key =>
    obtain ⟨held, skipped, rest, place, empty⟩ := List.find?_eq_some_iff_append.mp found
    obtain ⟨cell, filled⟩ := Option.isSome_iff_exists.mp held
    exact .inr ⟨skipped, key, rest, cell, place, by simpa using empty, filled⟩

end Eval

/-! ## The iterator -/

/-- The heap in which the names of a loop stand for a key and for its cell. -/
def Heap.presenting (h : Heap) (scope : ScopeChain) (names : IterState) (key : String)
    (cell : CellRef) : Heap :=
  let (keyCell, h) := h.alloc (.clean (.text key))
  scope.bind (names.key.elim h fun name => scope.bind h name keyCell) names.value cell

/-- The machine in which a loop over a map has begun, with the keys that hold something. -/
def Machine.looping (m : Machine) (named : Option String) (value : String) (t : TableRef) :
    Machine :=
  { m with
    context :=
      { m.context.killFrame.2 with
        iterators :=
          ⟨named, value, .table t ((m.heap.entries t).map (·.1)), 0⟩ :: m.context.iterators } }

/-- The machine in which the innermost loop has come to a key: its iterator has moved on, and its
names are bound. -/
def Machine.onto (m : Machine) (key : String) (cell : CellRef) (advance : Nat) : Machine :=
  match m.context.iterators with
  | [] => m
  | top :: outer =>
    { m with
      heap := m.heap.presenting m.context.scope top key cell
      context :=
        { m.context with iterators := { top with position := top.position + advance } :: outer } }

namespace Machine

variable {m : Machine} {top : IterState} {outer : List IterState}

theorem onto_eq (loops : m.context.iterators = top :: outer) (key : String) (cell : CellRef)
    (advance : Nat) :
    m.onto key cell advance =
      { m with
        heap := m.heap.presenting m.context.scope top key cell
        context :=
          { m.context with iterators := { top with position := top.position + advance } ::
            outer } } := by
  rw [onto, loops]

/-- Maps are as they were. -/
@[simp] theorem tables_onto (m : Machine) (key : String) (cell : CellRef) (advance : Nat) :
    (m.onto key cell advance).heap.tables = m.heap.tables := by
  unfold onto
  split
  · rfl
  case h_2 top _ _ => cases named : top.key <;> simp only [Heap.presenting, named] <;> rfl

/-- The names of the loop stand for the cell of the key and, in a cell of its own, for the key. -/
theorem lookup?_onto (loops : m.context.iterators = top :: outer)
    (inside : m.context.scope.global.index < m.heap.vars.size) (key : String) (cell : CellRef)
    (advance : Nat) :
    m.context.scope.lookup? (m.onto key cell advance).heap top.value = some cell ∧
      ∀ name, top.key = some name → name ≠ top.value → ∃ keyCell,
        m.context.scope.lookup? (m.onto key cell advance).heap name = some keyCell ∧
          (m.onto key cell advance).heap.content keyCell = .text key := by
  rw [onto_eq loops]
  cases named : top.key with
  | none =>
    simp only [Heap.presenting, named, Option.elim_none]
    exact ⟨ScopeChain.lookup?_bind inside, nofun⟩
  | some keyName =>
    simp only [Heap.presenting, named, Option.elim_some]
    refine ⟨ScopeChain.lookup?_bind ?_, fun name same apart => ?_⟩
    · simpa [ScopeChain.bind, Heap.putVariable, Heap.alloc] using inside
    · cases same
      refine ⟨(m.heap.alloc (.clean (.text key))).1, ?_, ?_⟩
      · rw [ScopeChain.lookup?_bind_of_ne apart]
        exact ScopeChain.lookup?_bind inside
      · simp [Heap.content, Heap.get, Heap.alloc, ScopeChain.bind, Heap.putVariable, Value.clean]

theorem code_onto (m : Machine) (key : String) (cell : CellRef) (advance : Nat) :
    (m.onto key cell advance).code = m.code := by
  unfold onto
  split
  · rfl
  case h_2 top _ _ => cases named : top.key <;> simp only [Heap.presenting, named] <;> rfl

end Machine

namespace Eval

variable {self : Reentry} {m : Machine} {top : IterState} {outer : List IterState}
  {skipped rest : List String}

/-- When all keys that are left are empty, the loop is over. -/
theorem iterNext_passes (loops : m.context.iterators = top :: outer)
    (along : top.source = .table t keys)
    (empty : ∀ key ∈ keys.drop top.position, m.heap.filled? t key = none) :
    iterNext self m = (.ok false, m) := by
  have nothing : nextKey m.heap t (keys.drop top.position) 0 = none := by
    rw [← List.append_nil (keys.drop top.position), nextKey_append_of_empty empty]
    rfl
  rw [iterNext, Run.bind_run, Run.askContext_run]
  dsimp only
  rw [loops, List.head?_cons]
  dsimp only
  rw [Run.bind_run, nextItem, along]
  dsimp only
  rw [Run.bind_run, Run.askHeap_run]
  dsimp only
  rw [nothing]
  rfl

/-- An iterator moves on to the first key that holds something, and presents it. -/
theorem iterNext_visits (loops : m.context.iterators = top :: outer)
    (along : top.source = .table t keys) (left_ : keys.drop top.position = skipped ++ key :: rest)
    (empty : ∀ key ∈ skipped, m.heap.filled? t key = none)
    (filled : m.heap.filled? t key = some cell) :
    iterNext self m = (.ok true, m.onto key cell (skipped.length + 1)) := by
  have found :
      nextKey m.heap t (keys.drop top.position) 0 = some (key, cell, skipped.length + 1) := by
    rw [left_, nextKey_append_of_empty empty, nextKey_cons_of_filled filled, Nat.zero_add]
  rw [iterNext, Run.bind_run, Run.askContext_run]
  dsimp only
  rw [loops, List.head?_cons]
  dsimp only
  rw [Run.bind_run, nextItem, along]
  dsimp only
  rw [Run.bind_run, Run.askHeap_run]
  dsimp only
  rw [found, Machine.onto_eq loops]
  obtain ⟨named, value, source, position⟩ := top
  dsimp only
  rw [Run.bind_run, Run.liftM_heap, Run.onHeap_run, HeapM.text, HeapM.cell, HeapM.alloc]
  dsimp only
  rw [Run.pure_run]
  dsimp only
  rw [Run.bind_run, Run.askContext_run]
  dsimp only
  rw [loops]
  cases named <;> rfl

end Eval

/-! ## Tours -/

/-- Whether a loop goes on after its body. -/
def Flow.goesOn : Flow → Bool
  | .normal | .continue => true
  | _ => false

/-- What a loop ends with when its body leaves it. -/
def Flow.outOf : Flow → Flow
  | .break => .normal
  | flow => flow.through 0

/-- A machine whose current frame has been emptied. -/
def Machine.cleared (m : Machine) : Machine :=
  { m with context := m.context.clearFrame }

/-- A key whose turn has come, the heap at that moment, and the cell with which the loop visits the
key, if it does. -/
structure Arrival where
  key : String
  heap : Heap
  cell : Option CellRef

/-- Keys that are passed over at one moment. -/
def Heap.passing (h : Heap) (keys : List String) : List Arrival :=
  keys.map (⟨·, h, none⟩)

namespace Eval

variable {self : Reentry} {body : Block} {m m₁ m' : Machine} {top : IterState}
  {outer : List IterState} {flow : Flow} {log : List Arrival} {r : Except Stop Flow}

/-- A run of a loop over a map with some keys still to come: keys that are empty when their turn
comes are passed over, and the body is run for the others, until there is no other or the body
leaves the loop. -/
inductive Tour (self : Reentry) (body : Block) (t : TableRef) :
    List String → Machine → List Arrival → Except Stop Flow → Machine → Prop
  | done {keys : List String} {m : Machine} (empty : ∀ key ∈ keys, m.heap.filled? t key = none) :
    Tour self body t keys m (m.heap.passing keys) (.ok .normal) m
  | visit {skipped rest : List String} {key : String} {cell : CellRef} {m m₁ m' : Machine}
    {flow : Flow} {log : List Arrival} {r : Except Stop Flow}
    (empty : ∀ key ∈ skipped, m.heap.filled? t key = none)
    (filled : m.heap.filled? t key = some cell)
    (ran : self.block body none (m.onto key cell (skipped.length + 1)).cleared = (.ok flow, m₁))
    (again : flow.goesOn) (later : Tour self body t rest m₁ log r m') :
    Tour self body t (skipped ++ key :: rest) m
      (m.heap.passing skipped ++ ⟨key, m.heap, some cell⟩ :: log) r m'
  | leave {skipped rest : List String} {key : String} {cell : CellRef} {m m' : Machine}
    {r : Except Stop Flow} (empty : ∀ key ∈ skipped, m.heap.filled? t key = none)
    (filled : m.heap.filled? t key = some cell)
    (ran : self.block body none (m.onto key cell (skipped.length + 1)).cleared = (r, m'))
    (leaves : ∀ flow, r = .ok flow → flow.goesOn = false) :
    Tour self body t (skipped ++ key :: rest) m
      (m.heap.passing skipped ++ [⟨key, m.heap, some cell⟩])
      (r.map Flow.outOf) m'

theorem loopBody_of_ok (ran : self.block body none m.cleared = (.ok flow, m₁)) :
    loopBody self body none none m =
      (.ok (if flow.goesOn then .inl .start else .inr flow.outOf), m₁) := by
  rw [Machine.cleared] at ran
  rw [loopBody, Run.bind_run, Run.changeContext_run]
  dsimp only
  rw [Run.bind_run, ran]
  cases flow <;> rfl

theorem loopBody_of_error {stop : Stop} (ran : self.block body none m.cleared = (.error stop, m₁)) :
    loopBody self body none none m = (.error stop, m₁) := by
  rw [Machine.cleared] at ran
  rw [loopBody, Run.bind_run, Run.changeContext_run]
  dsimp only
  rw [Run.bind_run, ran]

/-- After a body the iterator is the innermost one again, where it was. -/
theorem iterators_after_body [Reentry.Agree False self self] (balanced : body.isBalanced)
    (sound : m.Sound) (ran : self.block body none m = (.ok flow, m₁)) (again : flow.goesOn) :
    m₁.Sound ∧ m₁.context.iterators = m.context.iterators := by
  have agrees : Run.Agrees False (self.block body none) (self.block body none) _ m :=
    Reentry.Agree.fresh balanced sound
  obtain ⟨r, same, ended⟩ := agrees.ends ran nofun
  cases r with
  | error f => cases same
  | ok flow' =>
    cases same
    have final : Flow.isFinal (.ok flow) := by cases flow <;> first | rfl | cases again
    exact ⟨ended.ends.sound, (ended.fresh final).2⟩

/-- A round in which all keys that are left are empty is the last one. -/
theorem loopRound_passes (loops : m.context.iterators = top :: outer)
    (along : top.source = .table t keys)
    (empty : ∀ key ∈ keys.drop top.position, m.heap.filled? t key = none) :
    loopRound self .iterNext body none .start m = (.ok (.inr .normal), m) := by
  rw [loopRound, check, Run.bind_run, iterNext_passes loops along empty]
  rfl

/-- Any other round runs the body for the first key that holds something. -/
theorem loopRound_visits (loops : m.context.iterators = top :: outer)
    (along : top.source = .table t keys) (left_ : keys.drop top.position = skipped ++ key :: rest)
    (empty : ∀ key ∈ skipped, m.heap.filled? t key = none)
    (filled : m.heap.filled? t key = some cell) :
    loopRound self .iterNext body none .start m = loopBody self body none none
      (m.onto key cell (skipped.length + 1)) := by
  rw [loopRound, check, Run.bind_run, iterNext_visits loops along left_ empty filled]
  rfl

theorem drop_past {n : Nat} (left_ : keys.drop n = skipped ++ key :: rest) :
    keys.drop (n + (skipped.length + 1)) = rest := by
  rw [← List.drop_drop, left_, List.append_cons, List.drop_left' (by simp)]

/-- The rounds of a loop over a map are a tour of the keys that its iterator has left. -/
theorem tour_of_iterate [Reentry.Agree False self self] (balanced : body.isBalanced) (n : Nat)
    (sound : m.Sound) (loops : m.context.iterators = top :: outer)
    (along : top.source = .table t keys)
    (ran : Run.iterate (loopRound self .iterNext body none) n .start m = (r, m'))
    (ends : r ≠ .error .exhausted) :
    ∃ log, Tour self body t (keys.drop top.position) m log r m' := by
  induction n generalizing m top with
  | zero =>
    cases ran
    exact absurd rfl ends
  | succ n ih =>
    rw [Run.iterate] at ran
    dsimp only at ran
    obtain empty | ⟨skipped, key, rest, cell, left_, empty, filled⟩ :=
        empty_or_filled m.heap t (keys.drop top.position)
    · rw [loopRound_passes loops along empty] at ran
      cases ran
      exact ⟨_, .done empty⟩
    rw [loopRound_visits loops along left_ empty filled] at ran
    rw [left_]
    rcases inside : self.block body none (m.onto key cell (skipped.length + 1)).cleared with
      ⟨stop | flow, m₁⟩
    · rw [loopBody_of_error inside] at ran
      cases ran
      refine ⟨_, .leave empty filled inside fun other same => ?_⟩
      cases same
    rw [loopBody_of_ok inside] at ran
    cases again : flow.goesOn with
    | false =>
      rw [again] at ran
      cases ran
      refine ⟨_, .leave empty filled inside fun other same => ?_⟩
      cases same
      exact again
    | true =>
      -- the body has left the iterator where it was, behind the key
      rw [again] at ran
      have before : (m.onto key cell (skipped.length + 1)).cleared.Sound :=
        sound.of_code (Machine.code_onto m key cell _)
      obtain ⟨sound₁, same⟩ := iterators_after_body balanced before inside again
      have moved :=
        congrArg (·.context.iterators) (Machine.onto_eq loops key cell (skipped.length + 1))
      obtain ⟨log, later⟩ := ih sound₁ (same.trans moved) along ran
      exact ⟨_, .visit empty filled inside again (drop_past left_ ▸ later)⟩

namespace Tour

/-- Keys come in order, each in its turn. -/
theorem keys_prefix (tour : Tour self body t keys m log r m') : log.map (·.key) <+: keys := by
  induction tour with
  | done => simp [Heap.passing, Function.comp_def]
  | visit empty filled ran again later ih => simpa [Heap.passing, Function.comp_def] using ih
  | @leave skipped rest key => exact ⟨rest, by simp [Heap.passing, Function.comp_def]⟩

/-- A loop comes to all keys, unless its body leaves it. -/
theorem complete (tour : Tour self body t keys m log r m') :
    log.map (·.key) = keys ∨ ∃ earlier last, log = earlier ++ [last] ∧ last.cell.isSome := by
  induction tour with
  | done => simp [Heap.passing, Function.comp_def]
  | visit empty filled ran again later ih =>
    rcases ih with all | ⟨earlier, last, rfl, visited⟩
    · exact .inl (by simp [Heap.passing, Function.comp_def, all])
    · exact .inr ⟨_ ++ _ :: earlier, last, (List.append_assoc _ (_ :: earlier) [last]).symm,
        visited⟩
  | leave => exact .inr ⟨_, _, rfl, rfl⟩

/-- A key is visited when it holds something at the moment when its turn comes, with the cell that
it has then. -/
theorem cell_eq (tour : Tour self body t keys m log r m') :
    ∀ a ∈ log, a.cell = a.heap.filled? t a.key := by
  have passing {m : Machine} {keys : List String}
    (empty : ∀ key ∈ keys, m.heap.filled? t key = none) :
      ∀ a ∈ m.heap.passing keys, a.cell = a.heap.filled? t a.key := by
    rintro a among
    obtain ⟨key, held, rfl⟩ := List.mem_map.mp among
    exact (empty key held).symm
  induction tour with
  | done empty => exact passing empty
  | visit empty filled ran again later ih =>
    intro a among
    rcases List.mem_append.mp among with early | late
    · exact passing empty a early
    · rcases List.mem_cons.mp late with rfl | late
      · exact filled.symm
      · exact ih a late
  | leave empty filled =>
    intro a among
    rcases List.mem_append.mp among with early | late
    · exact passing empty a early
    · rw [List.mem_singleton.mp late]
      exact filled.symm

end Tour

theorem iterCreate_run {source : CellRef} {m₀ : Machine} (popped : Run.pop m = (.ok source, m₀))
    (map : m₀.heap.content source = .table t) (named : Option String) (value : String) :
    iterCreate named value m = (.ok (), m₀.looping named value t) := by
  rw [iterCreate, Run.bind_run, popped]
  dsimp only
  rw [Run.bind_run, Run.killFrame_run]
  dsimp only
  rw [Run.bind_run (Run.askHeap _), Run.askHeap_run]
  dsimp only
  rw [map]
  rfl

/-- A loop ends as its rounds do; the heap is as they leave it. -/
theorem exists_iterate_of_loop {c : Check} {increment : Option Block}
    (ran : loop self c body increment none m = (r, m')) :
    ∃ m₂, Run.iterate (loopRound self c body increment) self.rounds .start m = (r, m₂) ∧
      m'.heap = m₂.heap := by
  rw [loop, rounds, Run.bind_run] at ran
  rcases rounds : Run.iterate (loopRound self c body increment) self.rounds (Round.ofCursor none)
    m with ⟨r₂, m₂⟩
  rw [rounds] at ran
  refine ⟨m₂, rounds.trans ?_, ?_⟩ <;> rcases r₂ with stop | (_ | _) <;> cases ran <;> rfl

/-- A loop over a map, with a body that may do anything to the map but is not suspended: let the
keys be those that hold something when the loop begins. They come in their order and at most once
each, all of them unless the body leaves the loop; a key is visited when it holds something at the
moment when its turn comes. The iterator itself, whatever policies and evaluators there are, looks
into the map and leaves all maps as they are: it ends the loop, or it presents a key and its cell
under the names of the loop. -/
theorem foreach_visits_filled (n : Nat) (named : Option String) (value : String) {source : CellRef}
    {m₀ : Machine} (popped : Run.pop m = (.ok source, m₀)) (map : m₀.heap.content source = .table t)
    (sound : m₀.Sound) (maps : m₀.heap.MapsSound) (balanced : body.isBalanced)
    (ran : (iterCreate named value >>= fun _ => loop (reentry n) .iterNext body none none)
      m = (r, m'))
    (ends : r ≠ .error .exhausted) :
    iterCreate named value m = (.ok (), m₀.looping named value t) ∧
    (∃ log m₂, Tour (reentry n) body t ((m₀.heap.entries t).map (·.1)) (m₀.looping named value t)
      log r m₂ ∧
      m'.heap = m₂.heap ∧
      log.map (·.key) <+: (m₀.heap.entries t).map (·.1) ∧ ((m₀.heap.entries t).map (·.1)).Nodup ∧
      (log.map (·.key) = (m₀.heap.entries t).map (·.1) ∨ ∃ earlier last, log = earlier ++ [last] ∧
        last.cell.isSome) ∧
      ∀ a ∈ log, a.cell = a.heap.filled? t a.key) ∧
    ∀ (self : Reentry) (x : Machine) top outer keys, x.context.iterators = top :: outer →
    top.source = .table t keys →
      iterNext self x = (.ok false, x) ∨ ∃ key cell advance,
      iterNext self x = (.ok true, x.onto key cell advance) ∧
        (x.onto key cell advance).heap.tables = x.heap.tables ∧
        (x.context.scope.global.index < x.heap.vars.size →
          x.context.scope.lookup? (x.onto key cell advance).heap top.value = some cell ∧
          ∀ name, top.key = some name → name ≠ top.value → ∃ keyCell,
            x.context.scope.lookup? (x.onto key cell advance).heap name = some keyCell ∧
              (x.onto key cell advance).heap.content keyCell = .text key) := by
  refine ⟨iterCreate_run popped map named value, ?_, ?_⟩
  · have agree : Reentry.Agree False (reentry n) (reentry n) := agree_reentry n
    rw [Run.bind_run, iterCreate_run popped map] at ran
    obtain ⟨m₂, rounds, heap⟩ := exists_iterate_of_loop ran
    have looping : (m₀.looping named value t).Sound := sound.of_code rfl
    obtain ⟨log, tour⟩ := tour_of_iterate balanced _ looping rfl rfl rounds ends
    exact ⟨log, m₂, tour, heap, tour.keys_prefix, (Heap.mapAgrees (maps t)).once, tour.complete,
      tour.cell_eq⟩
  · intro self x top outer keys loops along
    obtain empty | ⟨skipped, key, rest, cell, left_, empty, filled⟩ :=
        empty_or_filled x.heap t (keys.drop top.position)
    · exact .inl (iterNext_passes loops along empty)
    · exact .inr ⟨key, cell, _, iterNext_visits loops along left_ empty filled,
        Machine.tables_onto x key cell _, fun inside =>
          Machine.lookup?_onto loops inside key cell _⟩

/-! ### A key that the body empties -/

/-- A map of two entries. -/
def twoEntries : Table :=
  ((Table.empty .insertion).append "a" ⟨0⟩).append "b" ⟨1⟩

/-- A machine with this map in a global variable, which is the operand. -/
def mapOperand : Machine :=
  { (default : Machine) with
    heap :=
      { Heap.empty with
        cells := #[.clean (.int 1), .clean (.int 2), .clean (.table ⟨0⟩)]
        tables := #[twoEntries]
        vars := #[.empty, Dictionary.empty.insert "%h" ⟨2⟩] }
    context :=
      (Context.start ⟨0⟩ ⟨.ofBase ⟨0⟩ none, [], ⟨1⟩⟩ default false 10).createFrame.push ⟨2⟩ }

/-- The same machine when the operand has been taken. -/
def mapTaken : Machine :=
  { mapOperand with context := mapOperand.context.pop.2 }

/-- The body of a loop: it lets the second key hold nothing. -/
def emptying : Block :=
  (Body.mk none 1
    [.expr (.assign (.index (.var "%h") (.literal (.str "b"))) none (.literal .null))]).build

theorem sound_mapTaken : mapTaken.Sound where
  scripts _ := ⟨rfl, nofun⟩
  closures _ _ held := nomatch held

theorem mapsSound_mapTaken : mapTaken.heap.MapsSound := by
  rintro ⟨_ | i⟩
  · exact ((Table.sound_empty .insertion).append rfl ⟨0⟩).append rfl ⟨1⟩
  · exact Table.sound_empty .insertion

theorem foreach_visits_filled_emptying : ∃ m',
    (iterCreate none "$v" >>= fun _ => loop (reentry 5) .iterNext emptying none none) mapOperand =
    (.ok .normal, m') ∧
      ∃ log m₂, Tour (reentry 5) emptying ⟨0⟩ ["a", "b"] (mapTaken.looping none "$v" ⟨0⟩)
        log (.ok .normal) m₂ ∧
        log.map (·.key) <+: ["a", "b"] ∧ ∀ a ∈ log, a.cell = a.heap.filled? ⟨0⟩ a.key := by
  have ends : ((iterCreate none "$v" >>= fun _ =>
      loop (reentry 5) .iterNext emptying none
        none) mapOperand).1.toOption = some .normal := by decide +kernel
  have ran := Run.run_of_toOption ends
  have keys : (mapTaken.heap.entries ⟨0⟩).map (·.1) = ["a", "b"] := by decide +kernel
  obtain ⟨-, ⟨log, m₂, tour, -, inOrder, -, -, visited⟩, -⟩ :=
      foreach_visits_filled 5 none "$v" rfl rfl sound_mapTaken
        mapsSound_mapTaken (by decide) ran nofun
  rw [keys] at tour inOrder
  exact ⟨_, ran, log, m₂, tour, inOrder, visited⟩

end Eval

end CellScript
