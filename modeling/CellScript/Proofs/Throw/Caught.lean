import CellScript.Proofs.Engine.Run
import CellScript.Proofs.Scope.Chain
import CellScript.Proofs.Throw.Evaluator

/-!
# What handlers catch

A throw that a handler catches is compared with where the exposed evaluator stops in the body. Since
the evaluator is in no trace between throws, this can be said of every step of every run: an
evaluator that checks it before each step, and does something else instead where it does not hold,
does the same as the evaluator.

## Main definitions

* `Eval.Catches` — what holds of the throws that the handler of a step catches.
* `Eval.Told` — what watchers are told of a fault before it is caught.
* `Eval.checking` — something else is done where a step is not as it should be.

## Main statements

* `Engine.Request.trace_of_caught` — the trace that a handler begins with is that of the throw that
  it catches.
* `Engine.Request.caught_is_thrown` — what handlers catch is what was thrown.
* `Engine.Request.native_told_once` — native faults are reported once, and throws are not.
-/

namespace CellScript

/-! ## Variables of handlers -/

theorem Heap.findVariable?_putVariable_newVars (h : Heap) (name : String) (cell : CellRef) :
    (h.newVars.2.putVariable h.newVars.1 name cell).findVariable? h.newVars.1 name = some cell := by
  rw [findVariable?_putVariable, if_pos ⟨rfl, rfl, by simp [newVars]⟩]

namespace Eval

/-! ## Throws that are caught -/

/-- Where a step with a handler begins or goes on in its body, unless it goes on in the handler. -/
def bodyCursor? (resume : Option Cursor) : Option (Option Cursor) :=
  match splitBranch resume with
  | some (1, _) => none
  | resumed => some (resumed.bind (·.2))

theorem tryBlockOn_body {host self : Reentry} {body handler : Block} {var : String}
    {resume inner : Option Cursor} (into : bodyCursor? resume = some inner) :
    tryBlockOn host self body handler var resume = tryBodyOn host self body handler var inner := by
  unfold bodyCursor? at into
  unfold tryBlockOn
  match splitBranch resume, into with
  | none, into | some (0, _), into | some (_ + 2, _), into =>
    cases into
    rfl

/-- What may be said of a throw: of the variable of the handler that catches it, the fault as which
it has come up, on which path and in which machine, the value that was caught and the machine in
which the handler starts. -/
abbrev Catch := String → Fault → CallPath → Machine → CellRef → Machine → Prop

/-- When a step is performed that is a body with a handler and something is thrown out of the body,
then the handler starts, and what is to be said holds of where the exposed evaluator stops in the
body, however it marks that. -/
def Catches (post : Catch) (resume : Option Cursor) (i : Instruction) (m : Machine) : Prop :=
  ∀ k body handler var inner value m', i = .try body handler var → bodyCursor? resume = some inner →
    (reentry k).block body inner (handled var m) = (.ok (.throw value), m') →
    ∃ start, step (reentry k) resume i m = runHandler (reentry k) handler none start ∧
      ∀ mark, ∃ f q m₁,
        (exposed (some mark) k .start).block body inner (handled var m) =
        (.error .exhausted, mark f q m₁) ∧
          post var f q m₁ value start

/-- Nothing is thrown out of the exposed evaluator. -/
theorem exposed_ne_throw (mark : Mark) (k : Nat) (p : CallPath) (b : Block) (resume : Option Cursor)
    (m : Machine) (value : CellRef) (m' : Machine) :
    (exposed (some mark) k p).block b resume m ≠ (.ok (.throw value), m') := by
  cases k with
  | zero => nofun
  | succ k =>
    exact blockBy_ne_throw (fun _ _ _ _ _ fails => Run.expose_fatal (raise_expose _ ▸ fails))
      _ _ _ _ _

theorem fatal_exposed (mark : Mark) (k : Nat) (p : CallPath) (b : Block) (resume : Option Cursor)
    (m : Machine) (f : Fault) (m' : Machine)
    (fails : (exposed (some mark) k p).block b resume m = (.error (.fault f), m')) : f.isFatal := by
  cases k with
  | zero => cases fails
  | succ k => exact fatal_blockBy fails

/-- A throw out of a block has come up where the exposed evaluator stops. -/
theorem unwound_of_throw {k : Nat} {b : Block} {resume : Option Cursor} {m m' : Machine}
    {value : CellRef} (empty : m.context.trace = [])
    (threw : (reentry k).block b resume m = (.ok (.throw value), m')) (mark : Mark) :
    ∃ f q m₁, (exposed (some mark) k .start).block b resume m = (.error .exhausted, mark f q m₁) ∧
      Run.Unwound .start f q m₁ (.thrown value) m' := by
  have traces := ((related_exposed mark k .start).block b resume).holds m empty
  have lowers := lowered_raise (fatal_exposed mark k .start b resume m)
  rw [raise_run (x := (reentry k).block b resume), threw] at traces
  generalize raise ((exposed (some mark) k .start).block b resume) m = e at traces lowers
  cases traces with
  | same clear => exact absurd lowers.symm (exposed_ne_throw mark k .start b resume m value m')
  | unwound given unwound =>
    cases given
    exact ⟨_, _, _, lowers.symm, unwound⟩

/-- What holds of every throw that has arrived holds of every throw that is caught, where there is
no trace before. -/
theorem catches {post : Catch} {m : Machine} (empty : m.context.trace = []) (resume : Option Cursor)
    (i : Instruction) (arrived : ∀ var f q m₁ value m' notes, (∀ note ∈ notes, note.2.trace) →
      Run.Unwound .start f q m₁ (.thrown value) m' →
        post var f q m₁ value
          (handlerStart var value m m' (m'.noted notes))) : Catches post resume i m := by
  rintro k body handler var inner value m' rfl into threw
  obtain ⟨notes, traces, starts⟩ := tryBodyOn_throw body handler var inner value m m'
  refine ⟨handlerStart var value m m' (m'.noted notes), ?_, fun mark => ?_⟩
  · rw [step_try, tryBlockOn_body into]
    exact starts _ _ threw
  · have inside : (handled var m).context.trace = [] := empty
    obtain ⟨f, q, m₁, stops, unwound⟩ := unwound_of_throw inside threw mark
    exact ⟨f, q, m₁, stops, arrived var f q m₁ value m' notes traces unwound⟩

open Classical in
/-- Where a step is not as it should be, something else is done instead of it. -/
noncomputable def checking (ok : Option Cursor → Instruction → Machine → Prop) (alarm : Run Flow) :
    Hook :=
  .stepping fun resume i x m => if ok resume i m then x m else alarm m

/-- In a context of its own there is no trace to begin with. -/
theorem detached_congr {α : Type} (script : ScriptRef) {x y : Run α}
    (same : ∀ m, m.context.trace = [] → x m = y m) (m : Machine) :
    (newContext script >>= (within · x)) m = (newContext script >>= (within · y)) m := by
  rw [Run.newContext_within, Run.newContext_within, Run.within_eq, Run.within_eq]
  exact congrArg _ (same (m.entered script) rfl)

section Checking

variable {ok : Option Cursor → Instruction → Machine → Prop}

theorem parts_checking (holds : ∀ resume i m, m.context.trace = [] → ok resume i m)
    (alarm : Run Flow) (n : Nat) :
    Reentry.Parts (Run.traced none .start) (reentry n) (hooked (checking ok alarm) n) :=
  (traceless_hooked (fun resume i _ m empty => if_pos (holds resume i m empty)) .start n).1

/-- What holds where there is no trace holds before every step of every run and of every call of a
script. -/
theorem serve_checking (holds : ∀ resume i m, m.context.trace = [] → ok resume i m)
    (alarm : Run Flow) (n : Nat) (s : ScriptRef) (request : Engine.Request) (m : Machine) :
    request.serve (reentry n) s m = request.serve (hooked (checking ok alarm) n) s m := by
  have parts := parts_checking holds alarm n
  refine detached_congr s (fun m empty => ?_) m
  have body : Run.Related (Run.traced none .start) (request.body (reentry n) s)
      (request.body (hooked (checking ok alarm) n) s) := by
    cases request with
    | run => exact .andThen fun main => related_onFlow fun flow => inferInstance
    | call name args =>
      exact inferInstanceAs (Run.Related _ (callFunction (reentry n) name args)
        (callFunction (hooked (checking ok alarm) n) name args))
  rw [Run.bind_run, Run.bind_run, Run.attempt_run, Run.attempt_run, body.same_of_traceless empty]

/-- It also holds before every step of every function that the host calls. -/
theorem invoke_checking (holds : ∀ resume i m, m.context.trace = [] → ok resume i m)
    (alarm : Run Flow) (n : Nat) (f : FunctionRef) (message : Option String) (args : List CellRef)
    (m : Machine) :
    invoke (reentry n) f message args m =
      invoke (hooked (checking ok alarm) n) f message args m := by
  have parts := parts_checking holds alarm n
  have same {x y : Run CellRef} (h : Run.Related (Run.traced none .start) x y) (script : ScriptRef)
    (what : String) :
      (do
        if !(← isLoaded script) then Run.fail (.runtime (.ownerUnloaded what))
        within (← newContext script) x) m =
      (do
        if !(← isLoaded script) then Run.fail (.runtime (.ownerUnloaded what))
        within (← newContext script) y) m := by
    rw [Run.bind_run, Run.bind_run, isLoaded, Run.ask_run]
    dsimp only
    split
    · rfl
    · exact detached_congr script (fun m empty => h.same_of_traceless empty) m
  unfold invoke
  rw [Run.bind_run, Run.bind_run, Run.askHeap_run]
  dsimp only
  cases m.heap.callable f with
  | closure c => exact same inferInstance c.owner "closure"
  | named name owner => exact same inferInstance owner "function"
  | host _ does => rfl

end Checking

/-! ## Traces of handlers -/

/-- The handler starts with nothing pending, and the trace that it can read is what was to be
recorded of the throw: the calls that the evaluator was in where the throw has come up, before them
the call of host code that it has come out of, and nothing else. -/
def tracesBack : Catch := fun _ f q m₁ _ start =>
  start.context.trace = [] ∧ start.context.lastTrace.reverse = q.frames m₁ ∧
    (m₁.context.trace = [] ∨ m₁.HostThrew f)

theorem catches_tracesBack (resume : Option Cursor) (i : Instruction) (m : Machine)
    (empty : m.context.trace = []) :
    Catches tracesBack resume i m :=
  catches empty resume i fun _ _ _ _ _ _ _ _ unwound =>
    ⟨rfl, (unwound.frames.trans (List.append_nil _)).symm, unwound.origin⟩

/-! ## Values of handlers -/

/-- The variable of the handler stands for the very cell that was thrown, and cells, containers,
functions and objects are what they were when it was thrown. -/
def isThrown : Catch := fun var f _ m₁ value start =>
  start.context.scope.lookup? start.heap var = some value ∧
    (∀ cell, f = .thrown cell → value = cell ∧ { start.heap with vars := m₁.heap.vars } = m₁.heap) ∧
    (m₁.context.trace = [] ∨ m₁.HostThrew f)

theorem catches_isThrown (resume : Option Cursor) (i : Instruction) (m : Machine)
    (empty : m.context.trace = []) :
    Catches isThrown resume i m := by
  refine catches empty resume i fun var f q m₁ value m' notes _ unwound =>
    ⟨?_, fun cell thrown => ?_, unwound.origin⟩
  · exact ScopeChain.lookup?_pushLocal _ (m'.heap.findVariable?_putVariable_newVars var value)
  · obtain ⟨same, unmoved⟩ := unwound.thrown cell thrown
    cases same
    exact ⟨rfl, congrArg (fun h : Heap => { h with vars := m₁.heap.vars }) unmoved.heap⟩

/-! ## Reports of handlers -/

/-- What watchers are told of a fault between where it has come up and where it is the throw of a
value. A throw is not reported. A native fault is reported once, if errors are shown, and its
message is what is thrown. That is done in the context in which it has come up, or after it has come
out of another one. -/
structure Told (f : Fault) (q : CallPath) (m : Machine) (value : CellRef)
    (m' : Machine) : Prop where
  thrown : ∀ cell, f = .thrown cell → m.Reported [] m'
  native : (∀ cell, f ≠ .thrown cell) →
    ∃ s flags w, m.Reported (if DebugFlags.showErrors flags then [(s, w)] else []) m' ∧
    w.message = m.heap.faultMessage f ∧ m'.heap.get value = .clean (.text w.message) ∧
      (q.away = false → s = m.context.script ∧ flags = m.context.flags)

theorem Told.of_unwound {f : Fault} {q : CallPath} {m m' : Machine} {value : CellRef}
    (unwound : Run.Unwound .start f q m (.thrown value) m') : Told f q m value m' := by
  obtain ⟨problems, reported, worded⟩ := unwound.becomes.told
  cases worded with
  | still => exact ⟨fun _ _ => reported, fun native => absurd rfl (native value)⟩
  | thrown native message text here =>
    exact ⟨fun cell eq => absurd eq (native cell),
      fun _ => ⟨_, _, _, reported, message, text, here⟩⟩

/-- Nothing else is reported where a handler begins. -/
theorem Told.handlerStart {f : Fault} {q : CallPath} {m m₁ m' : Machine} {value : CellRef}
    (h : Told f q m₁ value m') {notes : List (ScriptRef × Warning)}
    (traces : ∀ note ∈ notes, note.2.trace) (var : String) :
    Told f q m₁ value (handlerStart var value m m' (m'.noted notes)) := by
  have starts {problems : List (ScriptRef × Warning)} (reported : m₁.Reported problems m') :
      m₁.Reported problems (Eval.handlerStart var value m m' (m'.noted notes)) :=
    problems.append_nil ▸ reported.trans (.of_traces traces ⟨rfl, rfl⟩)
  refine ⟨fun cell eq => starts (h.thrown cell eq), fun native => ?_⟩
  obtain ⟨s, flags, w, reported, rest⟩ := h.native native
  exact ⟨s, flags, w, starts reported, rest⟩

/-- Of what a handler catches watchers have been told. -/
def isTold : Catch := fun _ f q m₁ value start => Told f q m₁ value start

theorem catches_isTold (resume : Option Cursor) (i : Instruction) (m : Machine)
    (empty : m.context.trace = []) :
    Catches isTold resume i m :=
  catches empty resume i fun var _ _ _ _ _ _ traces unwound =>
    (Told.of_unwound unwound).handlerStart traces var

end Eval

namespace Library

/-- Texts in new cells. -/
theorem mapM_text_run {α : Type} (f : α → String) (items : List α) (h : Heap) :
    ∃ cells h', items.mapM (fun a => HeapM.text (f a)) h = (.ok cells, h') ∧
      cells.map h'.get = items.map (fun a => .clean (.text (f a))) ∧ h.cells.size ≤ h'.cells.size ∧
      ∀ c, c.index < h.cells.size → h'.get c = h.get c := by
  induction items generalizing h with
  | nil => exact ⟨[], h, rfl, rfl, le_rfl, fun _ _ => rfl⟩
  | cons a items ih =>
    let h₁ : Heap := { h with cells := h.cells.push (.clean (.text (f a))) }
    have size : h₁.cells.size = h.cells.size + 1 := Array.size_push _
    obtain ⟨cells, h', run, texts, grown, kept⟩ := ih h₁
    refine ⟨⟨h.cells.size⟩ :: cells, h', ?_, ?_, by omega, fun c old => ?_⟩
    · rw [List.mapM_cons, HeapM.bind_run]
      change (items.mapM _ >>= _ : HeapM _) h₁ = _
      rw [HeapM.bind_run, run]
      rfl
    · rw [List.map_cons, List.map_cons, texts, kept _ (by simp [size])]
      simp [h₁, Heap.get]
    · rw [kept c (by omega)]
      simp [h₁, Heap.get, Array.getElem?_push, Nat.ne_of_lt old]

/-- What a script reads as its stack trace: the texts of the frames of the last throw that was
caught, from the first that was recorded on. -/
theorem stackTrace_run (self : Reentry) (args : List CellRef) (m : Machine) :
    ∃ cells heap, call self args .getStackTrace m =
      Run.onHeap (HeapM.sequence cells) { m with heap } ∧
      cells.map heap.get = m.context.lastTrace.reverse.map fun frame =>
        .clean (.text frame.text) := by
  obtain ⟨cells, heap, run, texts, -⟩ :=
      mapM_text_run StackFrame.text m.context.lastTrace.reverse m.heap
  refine ⟨cells, heap, ?_, texts⟩
  change (Run.onHeap (m.context.lastTrace.reverse.mapM fun frame => HeapM.text frame.text) >>=
    _ : Run _) m = _
  rw [Run.bind_run, Run.onHeap_run, run]
  rfl

end Library

/-! ## Host code -/

/-- Host code cannot throw the values of scripts. When a function throws that host code has called,
host code gets the text of the value. When a method fails with a text, a new untainted cell with the
text is thrown. -/
structure Host.Words (self : Reentry) : Prop where
  callBack : ∀ function interface method args m cells m₁ value m₂,
    Run.onHeap (fromHostItems args) m = (.ok cells, m₁) →
    self.invoke function (some method) cells m₁ = (.error (.fault (.thrown value)), m₂) →
    invokeProxy self function interface method args m =
      (.ok (.error (.thrown (m₂.heap.text value))), m₂)
  callMethod : ∀ method receiver args description m values m₁ text m₂,
    marshal (marshalArgs m.hosts method.params (args.map m.heap.content)) m =
      (.ok (.ok values), m₁) →
    runMember self method.name method.body method.isStatic receiver values m₁ =
      (.ok (.error (.thrown text)), m₂) →
    callMethod self method receiver args description m =
      (.error (.fault (.thrown ⟨m₂.heap.cells.size⟩)), { m₂ with
        heap := { m₂.heap with cells := m₂.heap.cells.push (.clean (.text text)) }
        context :=
          m₂.context.recordFrame ⟨description, m₂.context.currentSource, m₂.context.line⟩ })

theorem Host.words (self : Reentry) : Host.Words self where
  callBack function interface method args m cells m₁ value m₂ given thrown := by
    unfold invokeProxy
    rw [Host.bind_run, Host.run_run, Run.ask_run]
    dsimp only
    rw [Host.bind_run, Host.run_run, given]
    dsimp only
    rw [Host.bind_run, Host.run_run, Run.attempt_run, thrown]
    rfl
  callMethod method receiver args description m values m₁ text m₂ given failed := by
    unfold callMethod
    rw [Run.bind_run, Run.ask_run]
    dsimp only
    rw [Run.bind_run, Run.askHeap_run]
    dsimp only
    rw [Run.bind_run, show (marshal _).run m = _ from given]
    dsimp only
    rw [Run.bind_run,
      show (runMember self method.name method.body method.isStatic receiver values).run
        m₁ = _ from failed]
    rfl

namespace Engine.Request

open Eval (reentry hooked checking Catches exposed)

variable (alarm : Run Flow) (n : Nat) (m : Machine)

/-- The trace with which a handler starts is that of the throw that it has caught, and nothing else,
in every run, in every call of a script and in every function that the host calls: an evaluator that
checks this before each step does the same as the evaluator. The trace is compared with the path to
where the exposed evaluator stops in the body of the handler. That one is the evaluator, if it does
not stop, and it is in each call that was made in the context of the handler since the body has
begun and that has not ended. A throw of host code adds the call of it. What scripts read are the
texts of the trace, from the innermost call on. -/
theorem trace_of_caught :
    (∀ s request, serve (hooked (checking (Catches Eval.tracesBack) alarm) n) s request m =
      serve (reentry n) s request m) ∧
    (∀ f message args, Eval.invoke (hooked (checking (Catches Eval.tracesBack) alarm) n)
      f message args m =
      Eval.invoke (reentry n) f message args m) ∧
    (∀ k p, exposed none k p = reentry k) ∧ (∀ self, Host.Words self) ∧
    ∀ self args, ∃ cells heap,
      Library.call self args .getStackTrace m = Run.onHeap (HeapM.sequence cells) { m with heap } ∧
        cells.map heap.get = m.context.lastTrace.reverse.map fun frame =>
          .clean (.text frame.text) :=
  ⟨fun s request => (Eval.serve_checking Eval.catches_tracesBack alarm n s request m).symm,
    fun f message args =>
      (Eval.invoke_checking Eval.catches_tracesBack alarm n f message args m).symm,
    Eval.exposed_none, Host.words, fun self args => Library.stackTrace_run self args m⟩

/-- The variable of a handler stands for the very cell that was thrown, and the heap is as it was
then but for the containers of variables, in every run, in every call of a script and in every
function that the host calls. A cell that comes out of host code is a new one: host code is given
the text of what a script throws, and what it throws itself is a text without taint. -/
theorem caught_is_thrown :
    (∀ s request, serve (hooked (checking (Catches Eval.isThrown) alarm) n) s request m =
      serve (reentry n) s request m) ∧
    (∀ f message args, Eval.invoke (hooked (checking (Catches Eval.isThrown) alarm) n)
      f message args m =
      Eval.invoke (reentry n) f message args m) ∧
    (∀ k p, exposed none k p = reentry k) ∧ ∀ self, Host.Words self :=
  ⟨fun s request => (Eval.serve_checking Eval.catches_isThrown alarm n s request m).symm,
    fun f message args =>
      (Eval.invoke_checking Eval.catches_isThrown alarm n f message args m).symm,
    Eval.exposed_none, Host.words⟩

/-- A handler around a call with a function that throws. -/
def throwInside (call : Expr → Expr) : Body :=
  .mk none 1
    [.try
      (.mk none 2 [.expr (call (.closure (.mk none 3 [.flow .throw (some (.literal (.int 5)))])))])
      "$e"
      (.mk none 5 [.flow .return (some (.var "$e"))])]

/-- Whether a program gives a value whose content is as it should be. -/
def gives (body : Body) (test : Content → Bool) : Bool :=
  let loaded := (Engine.load (.ofBlock "main" body.build) (.create .standard (.ofInput []))).2
  match serve (reentry 30) ⟨0⟩ .run loaded.machine with
  | (.ok cell, m) => test (m.heap.content cell)
  | _ => false

/-- A number that is thrown by a comparison is caught as that number when the library compares, but
as a text when host code does. -/
theorem host_comparison_throws_text :
    gives
      (throwInside fun compare => .call "&sort"
        [compare, .call "&array" [.literal (.int 2), .literal (.int 1)]])
      (fun | .int n => n == 5 | _ => false) ∧
    gives (throwInside fun compare =>
        .static "Collections" "sort"
          [.call "&array" [.literal (.int 2), .literal (.int 1)], compare])
      (fun | .text s => s == "5" | _ => false) := by
  decide +kernel

/-- A native fault that a block makes a throw of is reported once on the way to what comes of it, if
errors are shown, with its message, which is what is thrown, and throws are not reported. That holds
of all that handlers catch in every run, in every call of a script and in every function that the
host calls, and of all that is thrown out of any block. In a log that watches one script once, what
was reported of the script is there once. A fault that no block has made a throw of before it gets
into host code comes out of it as a text that is thrown. -/
theorem native_told_once :
    (∀ s request, serve (hooked (checking (Catches Eval.isTold) alarm) n) s request m =
      serve (reentry n) s request m) ∧
    (∀ f message args, Eval.invoke (hooked (checking (Catches Eval.isTold) alarm) n) f
      message args m =
      Eval.invoke (reentry n) f message args m) ∧
    (∀ k b resume m value m', m.context.trace = [] →
      (reentry k).block b resume m = (.ok (.throw value), m') →
      ∀ mark, ∃ f q m₁, (exposed (some mark) k .start).block b resume m =
        (.error .exhausted, mark f q m₁) ∧
        Eval.Told f q m₁ value m') ∧
    (∀ m m' problems, Machine.Reported m problems m' → ∀ (s : ScriptRef) log, log < m.logs.size →
      (m.scripts.getD s.index default).watchers.count log = 1 →
      (∀ t : ScriptRef, t ≠ s → log ∉ (m.scripts.getD t.index default).watchers) →
        (m'.logs.getD log []).filter (!·.trace) =
          ((problems.filter (·.1 = s)).map (·.2)).reverse ++ (m.logs.getD log []).filter
          (!·.trace)) ∧
    (∀ k p, exposed none k p = reentry k) ∧ ∀ self, Host.Words self := by
  refine ⟨fun s request => (Eval.serve_checking Eval.catches_isTold alarm n s request m).symm,
    fun f message args => (Eval.invoke_checking Eval.catches_isTold alarm n f message args m).symm,
    fun k b resume m value m' empty threw mark => ?_,
    fun m m' problems reported s log bound once only => reported.log bound once only,
    Eval.exposed_none, Host.words⟩
  obtain ⟨f, q, m₁, stops, unwound⟩ := Eval.unwound_of_throw empty threw mark
  exact ⟨f, q, m₁, stops, .of_unwound unwound⟩

/-- A handler around an expression, which gives what it catches. -/
def catching (e : Expr) : Body :=
  .mk none 1 [.try (.mk none 2 [.expr e]) "$e" (.mk none 3 [.flow .return (some (.var "$e"))])]

/-- The text that a program gives, and the problems that its watcher has been told of. -/
def givenAndTold (body : Body) : Option String × List String :=
  let loaded := (Engine.load (.ofBlock "main" body.build) (.create .standard (.ofInput []))).2
  let (given, m) := serve (reentry 30) ⟨0⟩ .run loaded.machine
  (given.toOption.map m.heap.text, ((m.logs.getD 0 []).filter (!·.trace)).map (·.message))

/-- A native function that fails where it compares for host code is not reported, and it is where it
compares for the library. -/
theorem host_comparison_untold :
    let pair : Expr := .call "&array" [.literal (.int 2), .literal (.int 1)]
    let message := "bad cast: &keys: argument 1 must be a hash, got int"
    givenAndTold (catching (.static "Collections" "sort" [pair, .var "&keys"])) =
      (some message, []) ∧
    givenAndTold (catching (.call "&sort" [.var "&keys", pair])) = (some message, [message]) := by
  decide +kernel

end Engine.Request

end CellScript
