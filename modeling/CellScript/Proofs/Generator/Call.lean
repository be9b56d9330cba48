import CellScript.Proofs.Generator.Resume

/-!
# Calling a generator

A closure whose body yields is called again and again. Its calls do what the body does when it is
run once, with every `yield` replaced by what is done with its value and by what a call binds.

## Main definitions

* `Consumer.LeavesAlone` — a consumer that has nothing to do with the closure.
* `Eval.Calls` — calling a closure again and again until it is not suspended.
* `Eval.runOnce` — a closure whose body is run once.

## Main statements

* `calls_runOnce` — calling a closure again and again comes to what it comes to when its body is run
  once.
-/

namespace CellScript

/-- What a consumer does has nothing to do with where a closure is suspended. -/
def Consumer.LeavesAlone (k : Consumer) (f : FunctionRef) : Prop :=
  ∀ value (m : Machine) s, k.consume value { m with heap := m.heap.setSuspension f s } =
    { k.consume value m with heap := (k.consume value m).heap.setSuspension f s }

/-- Whether a closure is suspended. -/
def Heap.isSuspended (h : Heap) (f : FunctionRef) : Bool :=
  (h.closure? f).any (·.suspension.isSome)

namespace HeapM

variable {α β : Type}

/-- A heap operation that cannot fail. -/
def Total (op : HeapM α) : Prop :=
  ∀ h, ∃ a h', op h = (.ok a, h')

theorem Total.andThen {x : HeapM α} {f : α → HeapM β} (hx : Total x) (hf : ∀ a, Total (f a)) :
    Total (x >>= f) := by
  intro h
  obtain ⟨a, h₁, run⟩ := hx h
  obtain ⟨b, h₂, rest⟩ := hf a h₁
  exact ⟨b, h₂, by rw [bind_run, run]; exact rest⟩

theorem Total.forIn {l : List α} {b : β} {f : α → β → HeapM (ForInStep β)}
    (hf : ∀ a b, Total (f a b)) :
    Total (ForIn.forIn l b f) := by
  induction l generalizing b with
  | nil => exact fun h => ⟨b, h, rfl⟩
  | cons a l ih =>
    rw [List.forIn_cons]
    refine .andThen (hf a b) fun step => ?_
    cases step with
    | done b => exact fun h => ⟨b, h, rfl⟩
    | «yield» b => exact ih

end HeapM

namespace Eval

variable {f : FunctionRef} {c : Closure} {message : Option String} {args : List CellRef}
  {m m' : Machine} {n : Nat} {level : ScopeLevel} {cursor : Option Cursor}
  {iterators : List IterState} {self s : Reentry} {k : Consumer}

/-! ## The parts of a call -/

/-- What a call binds in the variables of the body. -/
def bindCall (f : FunctionRef) (message : Option String) (args : List CellRef) (base : VarsRef) :
    HeapM Unit := do
  bindArguments base message args
  let me ← HeapM.cell (.function f)
  HeapM.change (·.putVariable base "$this" me)

theorem total_bindArguments (base : VarsRef) (message : Option String) (args : List CellRef) :
    HeapM.Total (bindArguments base message args) := by
  have bound (x : CellRef × Nat) : HeapM.Total (do
      HeapM.change (·.putVariable base s!"${x.2 + 1}" x.1)
      pure (ForInStep.yield PUnit.unit)) := .andThen (fun _ => ⟨_, _, rfl⟩) fun _ _ => ⟨_, _, rfl⟩
  refine .andThen (fun _ => ⟨_, _, rfl⟩) fun all => .andThen (fun _ => ⟨_, _, rfl⟩) fun _ => ?_
  cases message with
  | none => exact .andThen (.forIn fun x _ => bound x) fun _ _ => ⟨_, _, rfl⟩
  | some text => exact .andThen (.forIn fun x _ => bound x) fun _ _ => ⟨_, _, rfl⟩

instance (f : FunctionRef) (message : Option String) (args : List CellRef) (base : VarsRef) :
    HeapM.CalmBut (some base) (bindCall f message args base) := by
  unfold bindCall
  infer_instance

/-- What becomes of the heap in a call that goes into the body. -/
def bindHeap (f : FunctionRef) (message : Option String) (args : List CellRef) (base : VarsRef)
    (h : Heap) : Heap :=
  (bindCall f message args base h).2

theorem functions_bindHeap (base : VarsRef) (h : Heap) :
    (bindHeap f message args base h).functions = h.functions :=
  HeapM.CalmBut.functions (some base) h

/-- The machine in the body of a closure. -/
def inBody (f : FunctionRef) (c : Closure) (message : Option String) (args : List CellRef)
    (level : ScopeLevel) (iterators : List IterState) (m : Machine) : Machine :=
  { m with
    heap := bindHeap f message args level.base m.heap
    context := enter c.source level iterators m.context }

/-- Back from a body, with the level of its scope. -/
def leaving (source : Option String) : Run (Option ScopeLevel) := fun m =>
  let (level, context) := leave source m.context
  (.ok level, { m with context })

/-- What is done when the body of a closure has ended, with `count` iterators open around it. -/
def leaveBody (f : FunctionRef) (source : Option String) (count : Nat) (r : Except Fault Flow) :
    Run Outcome := do
  let level ← leaving source
  match r with
  | .ok (.yield value cursor) =>
    suspend f cursor level count
    return .value value
  | .ok (.callcc target cursor) =>
    suspend f cursor level count
    return .callcc target
  | other =>
    Run.changeContext fun ctx => { ctx with iterators := truncateStack ctx.iterators count }
    match other with
    | .error fault => Run.fail fault
    | .ok (.return value) => return .value value
    | .ok (.throw value) => Run.fail (.thrown value)
    | .ok _ => return .value (← HeapM.null)

/-- What is done with the outcome of a body: after `callcc` its target is called. -/
def closeCall (self : Reentry) (f : FunctionRef) : Outcome → Run CellRef
  | .value cell => return cell
  | .callcc target => do
    Run.createFrame
    let me ← HeapM.cell (.function f)
    let result ← Run.attempt (self.call target none [me])
    let _ ← Run.killFrame
    Run.settle result

/-- What is done when the body of a closure that was called has ended. -/
def callEnd (self : Reentry) (f : FunctionRef) (source : Option String) (count : Nat)
    (r : Except Fault Flow) :
    Run CellRef :=
  leaveBody f source count r >>= closeCall self f

theorem runBody_run {m₁ : Machine} (entry : entryOf f c m = (.ok (level, cursor, iterators), m₁)) :
    runBody self f c message args m = proceed (leaveBody f c.source m₁.context.iterators.length)
      (self.block c.body cursor (inBody f c message args level iterators m₁)) := by
  obtain ⟨_, h, bound⟩ := total_bindArguments level.base message args m₁.heap
  have heap : bindHeap f message args level.base m₁.heap =
      ((HeapM.cell (.function f) >>= fun me => HeapM.change (·.putVariable level.base "$this" me))
        h).2 := by
    rw [bindHeap, bindCall, HeapM.bind_run, bound]
  rw [← attempt_bind_run, inBody, heap, runBody, Run.bind_run, entry]
  dsimp only
  rw [Run.bind_run, Run.liftM_heap, Run.onHeap_run, bound]
  rfl

theorem runClosure_run {m₁ : Machine}
    (entry : entryOf f c m = (.ok (level, cursor, iterators), m₁)) :
    runClosure self f c message args m =
      proceed (callEnd self f c.source m₁.context.iterators.length)
      (self.block c.body cursor (inBody f c message args level iterators m₁)) := by
  have parts : runClosure self f c message args = runBody self f c message args >>=
    closeCall self f := rfl
  rw [parts, Run.bind_run, runBody_run entry]
  rcases self.block c.body cursor _ with ⟨(_ | _) | flow, m₂⟩ <;>
    simp only [proceed, callEnd, Run.bind_run]

theorem entryOf_fresh (fresh : c.suspension = none) (m : Machine) :
    entryOf f c m = (.ok (.ofBase (m.heap.setSuspension f none).newVars.1 (some c.this), none, []),
      { m with heap := (m.heap.setSuspension f none).newVars.2 }) := by
  simp only [entryOf, fresh]
  rfl

theorem entryOf_suspended {position : Cursor}
    (suspended : c.suspension = some ⟨position, some level, iterators⟩) (m : Machine) :
    entryOf f c m =
      (.ok (level, some position, iterators), { m with heap := m.heap.setSuspension f none }) := by
  simp only [entryOf, suspended]
  rfl

/-! ## Between two calls -/

theorem setSuspension_setSuspension (h : Heap) (f : FunctionRef) (s s' : Option Suspension) :
    (h.setSuspension f s).setSuspension f s' = h.setSuspension f s' := by
  have functions :
      ((h.setSuspension f s).setSuspension f s').functions = (h.setSuspension f s').functions := by
    refine Array.ext_getElem? fun i => ?_
    simp only [Heap.setSuspension, Array.getElem?_modify]
    split
    · cases h.functions[i]? with
      | none => rfl
      | some callable => cases callable <;> rfl
    · rfl
  exact congrArg (fun functions => { h with functions }) functions

/-- Take a closure up again: it is no longer suspended, and what a call binds is bound. -/
def takeUp (f : FunctionRef) (message : Option String) (args : List CellRef) (base : VarsRef)
    (m : Machine) : Machine :=
  { m with heap := bindHeap f message args base (m.heap.setSuspension f none) }

theorem code_takeUp (base : VarsRef) (m : Machine) :
    (takeUp f message args base m).code =
    ({ m with heap := m.heap.setSuspension f none } : Machine).code := by
  simp only [takeUp, Machine.code, functions_bindHeap]

/-- Consuming a value and calling the closure again, seen from inside of its body. -/
def calling (k : Consumer) (f : FunctionRef) (message : Option String) (args : List CellRef)
    (base : VarsRef) :
    Consumer where
  consume value m := takeUp f message args base (k.consume value m)
  blind value m c := by rw [k.blind]; rfl
  sound value m hm := by
    have consumed := k.sound value m hm
    have cleared :=
      consumed.setSuspension f none fun c hc => ⟨(consumed.closures f c hc).body, fun _ => nofun⟩
    exact cleared.of_code (code_takeUp base _)
  grows value m :=
    have cleared := (k.grows value m).trans (.setSuspension (k.consume value m) f none)
    cleared.trans (.of_code (code_takeUp base _))

/-- Going back into the body that was left. -/
theorem enter_leave {source : Option String} {ctx : Context} {outer : ScopeChain}
    {rest : List String} (scope : (outer.pushLevel level).SameCall ctx.scope)
    (sources : ctx.sources = source.toList ++ rest) (line : UInt32) :
    enter source { level with inner := ctx.scope.current.inner } []
      { (leave source ctx).2 with line } =
      { ctx.killFrame.2.createFrame with line } := by
  obtain ⟨inner, eq⟩ := scope
  simp [enter, leave, Context.createFrame, Context.killFrame, eq, sources, ScopeChain.pushLevel,
    ScopeChain.popLevel, ScopeChain.modifyCurrent, ScopeChain.current]

/-- A body that yields without iterators of its own is suspended where it is left. -/
theorem callEnd_yield (source : Option String) (value : CellRef) (position : Cursor) (m : Machine) :
    callEnd s f source m.context.iterators.length (.ok (.yield value position)) m = (.ok value,
      { m with
        heap := m.heap.setSuspension f (some ⟨position, m.context.scope.popLevel.1, []⟩)
        context := (leave source m.context).2 }) := by
  have same : (leave source m.context).2.iterators = m.context.iterators := rfl
  have run :
      callEnd s f source m.context.iterators.length (.ok (.yield value position)) m =
        (.ok value, { m with
        heap := m.heap.setSuspension f (some ⟨position, m.context.scope.popLevel.1,
          (leave source m.context).2.iterators.take
            ((leave source m.context).2.iterators.length - m.context.iterators.length)⟩)
        context := { (leave source m.context).2 with
          iterators := (leave source m.context).2.iterators.drop
            ((leave source m.context).2.iterators.length - m.context.iterators.length) } }) := rfl
  rw [run, same, Nat.sub_self]
  rfl

/-! ## All calls -/

/-- Calling a closure again and again, with calls made at a line, until a call leaves it with
nothing to take up. -/
inductive Calls (k : Consumer) (line : UInt32) (s : Reentry) (f : FunctionRef)
    (message : Option String) (args : List CellRef) : Machine → Except Stop CellRef × Machine → Prop
  | last {m : Machine} {c : Closure} (found : m.heap.closure? f = some c)
    (ends : (runClosure s f c message args m).2.heap.isSuspended f = false) :
    Calls k line s f message args m (runClosure s f c message args m)
  | again {m m' : Machine} {c : Closure} {value : CellRef} {q : Except Stop CellRef × Machine}
    (found : m.heap.closure? f = some c)
    (yields : runClosure s f c message args m = (.ok value, m'))
    (suspended : m'.heap.isSuspended f = true)
    (rest : Calls k line s f message args
      { k.consume value m' with context := { m'.context with line } } q) :
    Calls k line s f message args m q

/-- Where a closure stands when it is called again after a value was consumed: where its body was
left. -/
theorem called_again {line : UInt32} {ctx : Context} {e : Machine} {value : CellRef}
    {position : Cursor} (alone : k.LeavesAlone f) (inside : e.context = enter c.source level [] ctx)
    (has : e.Has f c) (rests : e.Rests m) {left : Machine} (eq : left = { m with
      heap := m.heap.setSuspension f (some ⟨position, m.context.scope.popLevel.1, []⟩)
      context := (leave c.source m.context).2 }) :
    left.heap.isSuspended f ∧ ∃ c', (k.consume value left).heap.closure? f = some c' ∧
      runClosure s f c' message args
          { k.consume value left with context := { left.context with line } } =
        proceed (callEnd s f c.source ctx.iterators.length) (s.block c.body (some position)
          ((calling k f message args level.base).between line value m)) := by
  have scope : (ctx.scope.pushLevel level).SameCall m.context.scope := by
    have same := rests.scope
    rwa [inside] at same
  have sources : m.context.sources = c.source.toList ++ ctx.sources := by
    rw [Context.sources_of_rigid rests.rigid, inside]
    rfl
  have open_ : m.context.iterators.length = ctx.iterators.length := by
    rw [rests.iterators, inside]
    rfl
  obtain ⟨-, level'⟩ := scope.popLevel
  obtain ⟨suspension, here⟩ : ∃ suspension : Suspension,
      suspension = ⟨position, some { level with inner := m.context.scope.current.inner }, []⟩ :=
        ⟨_, rfl⟩
  rw [level', ← here] at eq
  subst eq
  have consumed : k.consume value { m with
      heap := m.heap.setSuspension f (some suspension)
      context := (leave c.source m.context).2 } = { k.consume value m with
      heap := (k.consume value m).heap.setSuspension f (some suspension)
      context := (leave c.source m.context).2 } :=
    (alone value { m with context := (leave c.source m.context).2 } _).trans (by rw [k.blind])
  obtain ⟨_, before⟩ := rests.grows.has has
  obtain ⟨_, after⟩ := (k.grows value m).closures f _ before
  rw [consumed]
  refine ⟨?_, { c with suspension := some suspension }, ?_, ?_⟩
  · simp [Heap.isSuspended, Machine.closure?_setSuspension, before]
  · simp only [Machine.closure?_setSuspension, after]
    rfl
  · have entry :=
      entryOf_suspended (f := f) (c := { c with suspension := some suspension })
        (congrArg some here)
        { k.consume value m with
          heap := (k.consume value m).heap.setSuspension f (some suspension)
          context := { (leave c.source m.context).2 with line } }
    have count : (leave c.source m.context).2.iterators.length = ctx.iterators.length := open_
    have inBody_ : inBody f { c with suspension := some suspension } message args
        { level with inner := m.context.scope.current.inner } [] { k.consume value m with
          heap := ((k.consume value m).heap.setSuspension f (some suspension)).setSuspension f none
          context := { (leave c.source m.context).2 with line } } =
        (calling k f message args level.base).between line value m := by
      simp only [inBody, Consumer.between, calling, takeUp, setSuspension_setSuspension,
        enter_leave scope sources line]
    rw [runClosure_run entry]
    change proceed (callEnd s f c.source (leave c.source m.context).2.iterators.length)
      (s.block c.body (some position) _) = _
    rw [count]
    exact congrArg (fun m => proceed (callEnd s f c.source ctx.iterators.length)
      (s.block c.body (some position) m))
      inBody_

/-- Driving the body of a closure is calling the closure. -/
theorem calls_of_drives {line : UInt32} {ctx : Context} {e : Machine}
    {p q : Except Stop Flow × Machine} (alone : k.LeavesAlone f)
    (hx : Suspendable (s.block c.body) (c.body.opens? · = some 0))
    (inside : e.context = enter c.source level [] ctx) (has : e.Has f c)
    (h : Drives (calling k f message args level.base) line (s.block c.body) p q)
    (hp : Reached (s.block c.body) (c.body.opens? · = some 0) e p) {c' : Closure}
    (found : m.heap.closure? f = some c')
    (run : runClosure s f c' message args m = proceed (callEnd s f c.source ctx.iterators.length) p)
    (ends : (proceed (callEnd s f c.source ctx.iterators.length) q).2.heap.isSuspended f = false) :
    Calls k line s f message args m (proceed (callEnd s f c.source ctx.iterators.length) q) := by
  induction h generalizing m c' with
  | ended =>
    rw [← run] at ends ⊢
    exact .last found ends
  | @resumed value position m₁ q rest ih =>
    obtain ⟨rests, here⟩ : e.Rests m₁ ∧ c.body.opens? position = some 0 := hp.meets hx
    have deep : 1 < e.context.frameDepth := by
      rw [inside]
      simp [enter, Context.frameDepth, Context.createFrame]
    have count : ctx.iterators.length = m₁.context.iterators.length := by
      rw [rests.iterators, inside]
      rfl
    have left : runClosure s f c' message args m = (.ok value, { m₁ with
        heap := m₁.heap.setSuspension f (some ⟨position, m₁.context.scope.popLevel.1, []⟩)
        context := (leave c.source m₁.context).2 }) := by
      rw [run, count]
      exact callEnd_yield c.source value position m₁
    obtain ⟨suspended, c'', found', again⟩ := called_again alone inside has rests rfl
    exact .again found left suspended (ih (.next deep rests here) found' again ends)

/-- The variables of the first call of a closure. -/
def firstBase (f : FunctionRef) (m : Machine) : VarsRef :=
  (m.heap.setSuspension f none).newVars.1

/-- Call a closure once, with each value that its body yields consumed at once. The body goes on at
once as well, with what another call would bind. -/
def runOnce (k : Consumer) (n : Nat) (f : FunctionRef) (c : Closure) (message : Option String)
    (args : List CellRef) :
    Run CellRef := fun m =>
  let once := inlined (calling k f message args (firstBase f m)) n
  runClosure (inlining (reentry n) once m.context.line) f c message args m

/-- The machine in the body of a closure in its first call. -/
def firstBody (f : FunctionRef) (c : Closure) (message : Option String) (args : List CellRef)
    (m : Machine) : Machine :=
  inBody f c message args (.ofBase (firstBase f m) (some c.this)) []
    { m with heap := (m.heap.setSuspension f none).newVars.2 }

theorem runClosure_first (fresh : c.suspension = none) (m : Machine) :
    runClosure self f c message args m =
      proceed (callEnd self f c.source m.context.iterators.length)
      (self.block c.body none (firstBody f c message args m)) :=
  runClosure_run (entryOf_fresh fresh m)

theorem code_firstBody (m : Machine) :
    (firstBody f c message args m).code =
    ({ m with heap := m.heap.setSuspension f none } : Machine).code := by
  simp only [firstBody, inBody, Machine.code, functions_bindHeap]
  rfl

theorem runOnce_run (fresh : c.suspension = none) (m : Machine) :
    runOnce k n f c message args m =
      proceed (callEnd (reentry n) f c.source m.context.iterators.length)
      (inlined (calling k f message args (firstBase f m)) n m.context.line c.body
        (firstBody f c message args m)) :=
  runClosure_first fresh m

/-- Calling a closure again and again, until there is nothing to take up, comes to what it comes to
when its body is run once. Whatever the body does is done in the same order in the same machines: no
step is done twice or left out, and the consumer gets the values in the order in which they are
yielded. -/
theorem calls_runOnce {n : Nat} {k : Consumer} {f : FunctionRef} {c : Closure}
    {message : Option String} {args : List CellRef} {m : Machine} (alone : k.LeavesAlone f)
    (hm : m.Sound) (found : m.heap.closure? f = some c) (fresh : c.suspension = none)
    (free : c.body.isIterFree) (ends : (runOnce k n f c message args m).1 ≠ .error .exhausted)
    (rested : (runOnce k n f c message args m).2.heap.isSuspended f = false) :
    Calls k m.context.line (reentry n) f message args m (runOnce k n f c message args m) := by
  have agree : Reentry.Agree False (reentry n) (reentry n) := agree_reentry n
  have balanced : c.body.isBalanced := (hm.closures f c found).body
  have sound : (firstBody f c message args m).Sound := by
    refine Machine.Sound.of_code ?_ (code_firstBody m)
    exact hm.setSuspension f none fun c' hc => ⟨(hm.closures f c' hc).body, fun _ => nofun⟩
  have has : (firstBody f c message args m).Has f c := by
    have cleared := (Machine.Extends.setSuspension m f none).has (.of_closure? found)
    exact (Machine.Extends.of_code (code_firstBody m)).has cleared
  have deep : 1 < (firstBody f c message args m).context.frameDepth := by
    simp [firstBody, inBody, enter, Context.frameDepth, Context.createFrame]
  rw [runOnce_run fresh] at ends rested ⊢
  have drives :=
    (inlines_inlined (calling k f message args (firstBase f m)) n).drives m.context.line
      c.body _ balanced free sound deep (not_dry ends)
  have reached :
      Reached ((reentry n).block c.body) (c.body.opens? · = some 0) (firstBody f c message args m)
      ((reentry n).block c.body none (firstBody f c message args m)) := .first sound
  have first : runClosure (reentry n) f c message args m = _ := runClosure_first fresh m
  have inside : (firstBody f c message args m).context =
      enter c.source (.ofBase (firstBase f m) (some c.this)) [] m.context := rfl
  have suspendable : Suspendable ((reentry n).block c.body) (c.body.opens? · = some 0) :=
    suspendable_block balanced free
  exact calls_of_drives alone suspendable inside has drives reached found first rested

/-- A consumer that prints where each value is. -/
def noting : Consumer where
  consume value m := { m with console := m.console.print (toString value.index) }
  blind _ _ _ := rfl
  sound _ _ hm := hm.of_code rfl
  grows _ _ := .of_code rfl

/-- A closure that yields in a body with a handler, throws there, and yields in the handler. -/
def yieldingClosure : Closure where
  owner := ⟨0⟩
  body := .mk none [.mk 1 (.try
    (.mk none [.mk 1 .createFrame, .mk 1 (.literal (.int 1)), .mk 1 (.flow .yield true),
      .mk 2 (.flow .throw false)])
    (.mk none [.mk 3 (.flow .yield false)]) "$e"), .mk 4 (.flow .return false)]
  this := ⟨0⟩
  source := none
  name := none
  site := 0
  suspension := none

/-- A machine with this closure and nothing else. -/
def yieldingMachine : Machine :=
  { (default : Machine) with
    heap := { (default : Heap) with functions := #[.closure yieldingClosure] } }

theorem noting_alone (f : FunctionRef) : noting.LeavesAlone f := fun _ _ _ => rfl

theorem sound_yieldingMachine : yieldingMachine.Sound where
  scripts i := by
    have none_ : yieldingMachine.scripts.getD i default = default := by
      change (#[] : Array Script).getD i default = default
      simp
    rw [none_]
    exact ⟨by decide, fun name b found => by cases found⟩
  closures f c found := by
    obtain ⟨_ | i⟩ := f
    · obtain rfl : yieldingClosure = c := Option.some_inj.mp found
      exact ⟨by decide, fun _ => nofun⟩
    · cases found

theorem calls_runOnce_handler : yieldingMachine.Sound ∧
    Calls noting 0 (reentry 5) ⟨0⟩ none [] yieldingMachine
      (runOnce noting 5 ⟨0⟩ yieldingClosure none [] yieldingMachine) := by
  have done : (runOnce noting 5 ⟨0⟩ yieldingClosure none [] yieldingMachine).1.toOption.isSome := by
    decide +kernel
  have rested :
      (runOnce noting 5 ⟨0⟩ yieldingClosure none [] yieldingMachine).2.heap.isSuspended
        ⟨0⟩ = false := by
    decide +kernel
  refine ⟨sound_yieldingMachine,
    calls_runOnce (noting_alone _) sound_yieldingMachine rfl rfl (by decide) (fun dry => ?_) rested⟩
  rw [dry] at done
  cases done

end Eval

end CellScript
