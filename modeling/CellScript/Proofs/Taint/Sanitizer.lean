import CellScript.Proofs.Eval.Dispatch
import CellScript.Proofs.Taint.Copy

/-!
# Sanitizers

The functions that settle taint by clearing their result can be called in two ways: by a step that
names them, or by a message to the function as a value. Both come to the same clean result. But only
the step that names a function asks what the function does to taint; a message hands taint on in any
case, from the receiver and from all arguments.

## Main definitions

* `Function.isSanitizer` — the functions of an engine that clear their result.
* `Machine.framed` — a machine with a frame of operands.

## Main statements

* `Environment.isSanitizer_of_policy` — there are no others in an engine.
* `Eval.functionValue_run` — what the name of such a function stands for as a value.
* `Eval.sanitizer_called_or_sent` — calls and messages compared.
-/

namespace CellScript

/-- Whether a function is one of those of an engine that clear their result. -/
def Function.isSanitizer : Function → Bool
  | .guarded .sanitizer (.library .untaint) | .guarded .sanitizer (.probe .first) => true
  | _ => false

/-- The functions of an engine that are classified as sanitizers, whether taint is watched or
not. -/
theorem Environment.isSanitizer_of_policy (taint : Bool) :
    ∀ entry ∈ ((Environment.library taint).extend (.probes taint)).functions.entries,
      entry.2.taintPolicy = .sanitizer → entry.2.isSanitizer := by
  cases taint <;> decide +kernel

theorem Function.taintPolicy_of_isSanitizer {f : Function} (sanitizer : f.isSanitizer) :
    f.taintPolicy = .sanitizer := by
  unfold isSanitizer at sanitizer
  split at sanitizer
  · rfl
  · rfl
  · cases sanitizer

theorem Function.closure?_of_isSanitizer {f : Function} (sanitizer : f.isSanitizer) :
    f.closure? = none := by
  unfold isSanitizer at sanitizer
  split at sanitizer
  · rfl
  · rfl
  · cases sanitizer

/-! ## Operands -/

/-- The context with a frame of operands. -/
def Context.framed (c : Context) (operands : List CellRef) : Context :=
  c.createFrame.modifyFrame fun _ => operands.reverse

@[simp] theorem Context.killFrame_framed (c : Context) (operands : List CellRef) :
    (c.framed operands).killFrame = (operands, c.createFrame.killFrame.2) := by
  simp [framed, createFrame, modifyFrame, killFrame]

/-- The machine with a frame of operands. -/
def Machine.framed (m : Machine) (operands : List CellRef) : Machine :=
  { m with context := m.context.framed operands }

/-- The machine from which the frame has been taken away, whatever operands were in it. -/
def Machine.unframed (m : Machine) : Machine :=
  { m with context := m.context.createFrame.killFrame.2 }

theorem Run.killFrame_framed (m : Machine) (operands : List CellRef) :
    killFrame (m.framed operands) = (.ok operands, m.unframed) := by
  rw [killFrame_run, Machine.framed, Context.killFrame_framed]
  rfl

/-! ## Results -/

namespace Heap

/-- A cell that has been cleared is clean, also one that is not there. -/
theorem isTainted_untaint (h : Heap) (cell : CellRef) :
    (h.untaint cell).isTainted cell = false := by
  rw [isTainted, untaint, get_set]
  split
  · rfl
  · rename_i outside
    have missing : h.get cell = .null := by
      simp only [true_and] at outside
      simp [get, Array.getD, outside]
    rw [missing]
    rfl

end Heap

/-- What the name of a function does to taint has nothing to do with calls that are counted. -/
theorem Machine.policyOf_concluded (name function : String) (c : Context) (result : CellRef)
    (m : Machine) (logs : Array (List Warning)) :
    ({ m.concluded name c (.ok result) with logs } : Machine).policyOf function =
      m.policyOf function := by
  have environment :
      ({ m.concluded name c (.ok result) with logs } : Machine).own.environment =
      m.own.environment := by
    simp only [own, concluded, Context.concluded]
    split
    · rcases getD_modify m.scripts m.context.script.index m.context.script.index
        (·.counted name c) with same | counted
      · rw [same]
      · rw [counted]
        rfl
    · rfl
  rw [policyOf, policyOf, environment]

namespace Eval

variable {self : Reentry} {m : Machine} {name : String} {f : Function}

theorem argument_run (args : List CellRef) (i : Nat) (m : Machine) :
    ∃ cell heap, Library.argument args i m = (.ok cell, { m with heap }) := by
  unfold Library.argument
  cases args[i]? with
  | some cell => exact ⟨cell, m.heap, rfl⟩
  | none => exact ⟨_, _, rfl⟩

/-- A sanitizer comes to a clean result, and nothing but the heap has changed. -/
theorem evaluate_sanitizer (self : Reentry) (name : String) (args : List CellRef)
    (sanitizer : f.isSanitizer) (m : Machine) :
    ∃ result heap, evaluate self name args f m = (.ok result, { m with heap }) ∧
      heap.isTainted result = false := by
  obtain ⟨first, heap, given⟩ := argument_run args 0 m
  have cleared {inner : Function}
    (run : ∃ result heap, evaluate self name args inner m = (.ok result, { m with heap })) :
      ∃ result heap, evaluate self name args (.guarded .sanitizer inner) m =
        (.ok result, { m with heap }) ∧
        heap.isTainted result = false := by
    obtain ⟨result, heap, run⟩ := run
    refine ⟨result, heap.untaint result, ?_, heap.isTainted_untaint result⟩
    rw [evaluate, Run.bind_run, run]
    rfl
  unfold Function.isSanitizer at sanitizer
  split at sanitizer
  · refine cleared ⟨⟨heap.cells.size⟩, (heap.alloc (heap.get first)).2.sanitizeDeep
      ⟨heap.cells.size⟩, ?_⟩
    rw [evaluate, Library.call, Run.bind_run, given]
    rfl
  · exact cleared ⟨first, heap, given⟩
  · cases sanitizer

/-- A call of a sanitizer by its name comes to a clean result, unless it is too deep. The context is
as it was, and the name stands for a sanitizer still. -/
theorem callFunction_sanitizer (self : Reentry) (args : List CellRef)
    (stands : m.own.environment.functions.get? name = some f) (sanitizer : f.isSanitizer) :
    (m.context.maxDepth ≤ m.activeCalls →
      callFunction self name args m =
        (.error (.fault (.runtime (.callDepth m.context.maxDepth))), m)) ∧
    (m.activeCalls < m.context.maxDepth →
      ∃ result m₁, callFunction self name args m = (.ok result, m₁) ∧
      m₁.heap.isTainted result = false ∧ m₁.context = m.context ∧
      m₁.policyOf name = .sanitizer) := by
  obtain ⟨described, run⟩ := dispatch_run name args m
  specialize run (evaluate self name args f)
  have found :
      callFunction self name args m = dispatch name args (evaluate self name args f) m := by
    unfold callFunction
    rw [Run.bind_run, show Run.script m = (.ok m.own, m) from rfl]
    dsimp only
    rw [stands]
  rw [found, run]
  refine ⟨fun deep => if_pos deep, fun shallow => ?_⟩
  obtain ⟨result, heap, evaluated, clean⟩ :=
    evaluate_sanitizer self name args sanitizer { m with activeCalls := m.activeCalls + 1 }
  obtain ⟨logs, concluded⟩ := conclude_run name m.context described (.ok result)
    { m with activeCalls := m.activeCalls + 1, heap }
  refine ⟨result,
    { Machine.concluded name m.context (.ok result)
      { m with activeCalls := m.activeCalls + 1, heap } with logs },
    ?_, clean, rfl, ?_⟩
  · rw [if_neg (Nat.not_le.mpr shallow), Run.bind_run, Run.attempt_run, evaluated]
    exact concluded
  · rw [Machine.policyOf_concluded]
    have known : m.policyOf name = f.taintPolicy := by rw [Machine.policyOf, stands]
    exact known.trans (f.taintPolicy_of_isSanitizer sanitizer)

/-! ## Functions as values -/

/-- As a value, the name of a sanitizer stands for the function of that name in the script. -/
theorem functionValue_run (stands : m.own.environment.functions.get? name = some f)
    (sanitizer : f.isSanitizer) :
    ∃ receiver heap function, functionValue name m = (.ok receiver, { m with heap }) ∧
      heap.content receiver = .function function ∧
      heap.callable function = .named name m.context.script := by
  refine ⟨⟨m.heap.cells.size⟩,
    { m.heap with
      functions := m.heap.functions.push (.named name m.context.script)
      cells := m.heap.cells.push (.clean (.function ⟨m.heap.functions.size⟩)) },
    ⟨m.heap.functions.size⟩, ?_, ?_, ?_⟩
  · unfold functionValue
    rw [Run.bind_run, Run.askContext_run]
    dsimp only
    rw [Run.bind_run, show Run.script m = (.ok m.own, m) from rfl]
    dsimp only
    rw [stands]
    dsimp only
    rw [f.closure?_of_isSanitizer sanitizer]
    rfl
  · simp [Heap.content, Heap.get, Value.clean]
  · simp [Heap.callable]

/-- A message to a function of the script of the current context is a call of that name. -/
theorem send_run (member : Option String) (args : List CellRef) {receiver : CellRef}
    {function : FunctionRef} (holds : m.heap.content receiver = .function function)
    (named : m.heap.callable function = .named name m.context.script) :
    send self receiver member args m = callFunction self name args m := by
  have called : send self receiver member args m = callValue self receiver member args m := by
    unfold send
    rw [Run.bind_run, Run.askHeap_run]
    dsimp only
    rw [holds]
  rw [called]
  unfold callValue
  rw [Run.bind_run, Run.askHeap_run]
  dsimp only
  rw [holds]
  dsimp only
  rw [Run.bind_run, Run.askContext_run]
  dsimp only
  rw [Run.bind_run, Run.askHeap_run]
  dsimp only
  rw [named]
  dsimp only
  rw [if_pos rfl]

/-! ## Calls and messages -/

/-- A call step takes its operands away and calls the function with them. -/
theorem call_framed {r : Except Stop CellRef} {m₁ : Machine} {args : List CellRef}
    (run : callFunction self name args m.unframed = (r, m₁)) :
    (∀ stop, r = .error stop → call self name (m.framed args) = (.error stop, m₁)) ∧
    ∀ result, r = .ok result → m₁.policyOf name ≠ .permeable →
      call self name (m.framed args) = (.ok (), { m₁ with context := m₁.context.push result }) := by
  have made : callFunction self name (m.framed args).context.killFrame.1
      { m.framed args with context := (m.framed args).context.killFrame.2 } = (r, m₁) := by
    rw [Machine.framed, Context.killFrame_framed]
    exact run
  refine ⟨fun stop failed => ?_, fun result returned settled => ?_⟩
  · unfold call
    rw [Run.bind_run, Run.killFrame_run]
    dsimp only
    rw [Run.bind_run, made, failed]
  · rw [call_run (made.trans (by rw [returned])), if_neg settled]
    rfl

/-- A message step takes its operands away, sends the message to the first of them and hands taint
on from all. -/
theorem objectAccess_framed (member : Option String) {receiver : CellRef} {args : List CellRef} :
    objectAccess self member none (m.framed (receiver :: args)) =
      (send self receiver member args >>= fun result =>
      Run.propagate (receiver :: args) result (member.getD "call") >>= Run.push) m.unframed := by
  unfold objectAccess
  rw [Run.bind_run, Run.killFrame_framed]

/-- The same call of a sanitizer by a step that names it and by a message to the function as a
value, from the same machine with the same arguments, where taint is watched: either both are
refused for being too deep, or both push the same content. The step that names the function pushes a
clean cell, whatever the arguments. The message pushes that cell too if the receiver and all
arguments are clean when the call has ended, and otherwise a tainted copy of it. -/
theorem sanitizer_called_or_sent (self : Reentry) (resume : Option Cursor) (member : Option String)
    {m : Machine} {name : String} {f : Function} {receiver : CellRef} {function : FunctionRef}
    (args : List CellRef) (watched : m.context.taint)
    (stands : m.own.environment.functions.get? name = some f) (sanitizer : f.isSanitizer)
    (holds : m.heap.content receiver = .function function)
    (named : m.heap.callable function = .named name m.context.script) :
    let called := step self resume (.call name) (m.framed args)
    let sent := step self resume (.objectAccess member none) (m.framed (receiver :: args))
    (m.context.maxDepth ≤ m.activeCalls →
      called.1 = .error (.fault (.runtime (.callDepth m.context.maxDepth))) ∧ sent = called) ∧
    (m.activeCalls < m.context.maxDepth → ∃ result pushed,
      called.1 = .ok .normal ∧ called.2.context.operands.head? = some result ∧
      called.2.heap.isTainted result = false ∧
      sent.1 = .ok .normal ∧ sent.2.context.operands.head? = some pushed ∧
      sent.2.heap.content pushed = called.2.heap.content result ∧
      (sent.2.heap.isTainted pushed ↔ called.2.heap.anyTainted (receiver :: args)) ∧
      (called.2.heap.anyTainted (receiver :: args) = false → sent = called)) := by
  intro called sent
  have stands' : m.unframed.own.environment.functions.get? name = some f := stands
  obtain ⟨refused, ended⟩ := callFunction_sanitizer self args stands' sanitizer
  have message :
      send self receiver member args m.unframed = callFunction self name args m.unframed :=
    send_run member args holds named
  have called_eq : called = thenNormal (call self name) (m.framed args) := rfl
  have sent_eq : sent = thenNormal (objectAccess self member none) (m.framed (receiver :: args)) :=
    rfl
  rw [thenNormal, Run.bind_run] at called_eq sent_eq
  rw [objectAccess_framed, Run.bind_run, message] at sent_eq
  refine ⟨fun deep => ?_, fun shallow => ?_⟩
  · rw [(call_framed (refused deep)).1 _ rfl] at called_eq
    rw [refused deep] at sent_eq
    exact ⟨congrArg Prod.fst called_eq, sent_eq.trans called_eq.symm⟩
  · obtain ⟨result, m₁, returned, clean, context, policy⟩ := ended shallow
    rw [(call_framed returned).2 result rfl (by rw [policy]; decide)] at called_eq
    rw [returned] at sent_eq
    dsimp only at sent_eq
    have watched₁ : m₁.context.taint := context ▸ watched
    obtain ⟨asIs, copied⟩ :=
        Run.propagate_run (receiver :: args) result (member.getD "call") watched₁
    have passes :
        m₁.heap.passesTaint (receiver :: args) result = m₁.heap.anyTainted (receiver :: args) := by
      rw [Heap.passesTaint, clean]
      rfl
    rw [passes] at asIs copied
    rw [Run.bind_run] at sent_eq
    cases tainted : m₁.heap.anyTainted (receiver :: args) with
    | false =>
      rw [asIs tainted] at sent_eq
      have same : sent = called := sent_eq.trans called_eq.symm
      rw [same, called_eq]
      refine ⟨result, result, rfl, by simp, clean, rfl, by simp, rfl, by simp [clean, tainted],
        fun _ => rfl⟩
    | true =>
      obtain ⟨logs, copied⟩ := copied tainted
      rw [copied] at sent_eq
      rw [called_eq, sent_eq]
      refine ⟨result, ⟨m₁.heap.cells.size⟩, rfl, by simp, clean, rfl, ?_,
        m₁.heap.content_copy result, ?_, ?_⟩
      · simp [Run.push]
      · exact iff_of_true (m₁.heap.isTainted_copy result) tainted
      · simp [tainted]

/-- A sanitizer as a value, and a tainted text to call it with. -/
def sanitizerValue : Machine :=
  { (default : Machine) with
    heap :=
      { Heap.empty with
        cells := #[.clean (.function ⟨0⟩), ⟨.text "in", true⟩]
        functions := #[.named "&untaint" ⟨0⟩] }
    scripts :=
      #[{ (default : Script) with
          environment :=
            ⟨.ofList [("&untaint", .guarded .sanitizer (.library .untaint))], .empty⟩ }]
    context := Context.start ⟨0⟩ default default true 1 }

theorem sanitizer_called_or_sent_text :
    let called := step (reentry 1) none (.call "&untaint") (sanitizerValue.framed [⟨1⟩])
    let sent := step (reentry 1) none (.objectAccess none none) (sanitizerValue.framed [⟨0⟩, ⟨1⟩])
    ∃ result pushed, called.2.context.operands.head? = some result ∧
      called.2.heap.isTainted result = false ∧
      sent.2.context.operands.head? = some pushed ∧ sent.2.heap.isTainted pushed := by
  intro called sent
  have tainted : called.2.heap.anyTainted [⟨0⟩, ⟨1⟩] := by decide +kernel
  have stands : sanitizerValue.own.environment.functions.get? "&untaint" =
      some (.guarded .sanitizer (.library .untaint)) := rfl
  have holds : sanitizerValue.heap.content ⟨0⟩ = .function ⟨0⟩ := rfl
  obtain ⟨result, pushed, -, top, clean, -, top', -, passed, -⟩ :=
    (sanitizer_called_or_sent (reentry 1) none none [⟨1⟩] rfl stands rfl holds rfl).2 (by decide)
  exact ⟨result, pushed, top, clean, top', passed.mpr tainted⟩

/-- The mark of the value that a program gives where taint is watched. -/
def markOf (value : Expr) : Option Bool :=
  match runScript (reentry 20) ⟨0⟩
    (loadedWatching (.mk none 1 [.flow .return (some value)])).machine with
  | (.ok result, m) => some (m.heap.isTainted result)
  | _ => none

/-- A line of input is clean when `&untaint` is called with it, and tainted when it is sent to
`&untaint`. -/
theorem sanitizer_sent_passes :
    markOf (.call "&untaint" [.call "&readln" []]) = some false ∧
    markOf (.send (.var "&untaint") none [.call "&readln" []]) = some true := by
  decide +kernel

end Eval

end CellScript
