import CellScript.Proofs.Eval.Hook
import CellScript.Proofs.Throw.Handler

/-!
# Evaluators leave no trace but that of throws

Between throws there is no trace of calls in any context, whatever is evaluated there. So a throw
arrives with the calls that it has passed through since it has come up, and that is where the
exposed evaluator stops.

## Main definitions

* `Eval.Hook.stepping` — something is done about all steps.

## Main statements

* `Eval.traceless_hooked` — a hook that does nothing about steps without a trace makes no
  difference.
* `Eval.related_exposed` — evaluators fail where the exposed evaluator stops.
-/

namespace CellScript

namespace Run

variable {α : Type} {p p' : CallPath} {mark? : Option Mark} {x y : Run α}

/-- Where nothing is exposed it does not matter in which calls the evaluator is. -/
theorem Related.anywhere (h : Related (traced none p) x y) : Related (traced none p') x y := by
  refine ⟨fun m empty => ?_⟩
  have traces := h.holds m empty
  generalize x m = e, y m = e' at traces
  cases traces with
  | same clear => exact .same clear
  | unwound given => cases given

/-- Where nothing is exposed the computations are the same. -/
theorem Related.same_of_traceless (h : Related (traced none p) x y) {m : Machine}
    (empty : m.context.trace = []) :
    x m = y m := by
  have traces := h.holds m empty
  generalize x m = e, y m = e' at traces
  cases traces with
  | same => rfl
  | unwound given => cases given

instance : (traced none p).IsCarried where
  dispatch name args h := ⟨fun _ => Traced.dispatch name args h⟩
  detached s h := ⟨fun _ => Traced.detached s h.anywhere⟩
  verdict := Eval.related_verdictOf
  diagnose {f name _} s s' args h _ :=
    have : Related (traced none p) (Eval.evaluate s name args f) (Eval.evaluate s' name args f) :=
      Eval.related_diagnostic name args h
    Traced.dispatch name args this

theorem leaving_context {c : Context} {e : Except Stop α × Machine}
    (ends : (leaving c e).1 ≠ .error .exhausted) :
    (leaving c e).2.context = c := by
  rcases e with ⟨(_ | _) | _, m⟩
  · rfl
  · exact absurd rfl ends
  · rfl

theorem onHeap_context (op : HeapM α) (m : Machine) : (onHeap op m).2.context = m.context := by
  rw [onHeap_run]
  rcases op m.heap with ⟨_ | _, _⟩ <;> rfl

end Run

namespace Eval

open Run (Related traced Traced Traces hosted)

/-! ## Calls of the host -/

section CallBack

variable {s s' : Reentry} {f : FunctionRef} {message : Option String} {args : List CellRef}
  {m : Machine}

theorem reply_context (does : HostReply) (m : Machine) :
    (reply message args does m).2.context = m.context := by
  cases does with
  | first =>
    unfold reply Library.argument
    split
    · rfl
    · exact Run.onHeap_context _ m
  | message =>
    cases message with
    | none | some _ => exact Run.onHeap_context _ m
  | count => exact Run.onHeap_context _ m
  | give _ | throw _ | fail _ => rfl

/-- A call of a closure in a context of its own ends in the context in which it is made. -/
theorem callDetached_context (c : Closure)
    (ends : (callDetached s f c message args m).1 ≠ .error .exhausted) :
    (callDetached s f c message args m).2.context = m.context := by
  revert ends
  unfold callDetached
  rw [Run.bind_run, isLoaded, Run.ask_run]
  dsimp only
  split
  · exact fun _ => rfl
  · rw [Run.newContext_within, Run.within_eq]
    exact Run.leaving_context

/-- A call by the host ends in the context in which it is made. -/
theorem invoke_context (ends : (invoke s f message args m).1 ≠ .error .exhausted) :
    (invoke s f message args m).2.context = m.context := by
  revert ends
  unfold invoke
  rw [Run.bind_run, Run.askHeap_run]
  dsimp only
  cases m.heap.callable f with
  | closure c => exact callDetached_context c
  | named name owner =>
    dsimp only
    rw [Run.bind_run, isLoaded, Run.ask_run]
    dsimp only
    split
    · exact fun _ => rfl
    · rw [Run.newContext_within, Run.within_eq]
      exact Run.leaving_context
  | host _ does => exact fun _ => reply_context does m

/-- Host code that calls back leaves no trace in the context in which it was called. -/
theorem traced_callBack {mark? : Option Mark} {p : CallPath}
    (same : ∀ m, m.context.trace = [] → s.invoke f message args m = s'.invoke f message args m)
    (context : ∀ m, (s.invoke f message args m).1 ≠ .error .exhausted →
      (s.invoke f message args m).2.context = m.context) :
    Host.Related (traced mark? p) (Host.callBack s f message args)
      (Host.callBack s' f message args) := by
  refine ⟨fun m empty => ?_⟩
  change Traces mark? p (Host.callBack s f message args m) (Host.callBack s' f message args m)
  have still := context m
  unfold Host.callBack
  rw [Host.bind_run, Host.bind_run, Host.run_run, Host.run_run, Run.attempt_run, Run.attempt_run,
    ← same m empty]
  refine .same ?_
  revert still
  rcases s.invoke f message args m with ⟨(fault | _) | cell, m'⟩
  · exact fun still => (congrArg Context.trace (still nofun)).trans empty
  · exact fun _ => trivial
  · exact fun still => (congrArg Context.trace (still nofun)).trans empty

end CallBack

/-! ## Evaluators that expose nothing -/

/-- Something is done about all steps. -/
def Hook.stepping (act : Option Cursor → Instruction → Run Flow → Run Flow) : Hook :=
  { Hook.none with step := act }

theorem hooked_stepping_id (n : Nat) : hooked (.stepping fun _ _ x => x) n = reentry n :=
  hooked_none n

theorem fatal_reentry (n : Nat) (b : Block) (resume : Option Cursor) (m : Machine) (f : Fault)
    (m' : Machine) (fails : (reentry n).block b resume m = (.error (.fault f), m')) :
    f.isFatal := by
  cases n with
  | zero => cases fails
  | succ n => exact fatal_blockBy fails

theorem fatal_hooked (act : Option Cursor → Instruction → Run Flow → Run Flow) (n : Nat) (b : Block)
    (resume : Option Cursor) (m : Machine) (f : Fault) (m' : Machine)
    (fails : (hooked (.stepping act) n).block b resume m = (.error (.fault f), m')) :
    f.isFatal := by
  cases n with
  | zero => cases fails
  | succ n => exact fatal_blockBy fails

section Quiet

variable {p : CallPath} {s s' : Reentry} [Reentry.Parts (traced none p) s s']
  [Reentry.CallsBack (traced none p) s s']

/-- Steps leave no trace but that of throws. -/
theorem related_raise_step (bodies : s.AgreeOnBodies s') (resume : Option Cursor)
    (i : Instruction) :
    Related (traced none p) (raise (step s resume i)) (raise (step s' resume i)) := by
  cases i with
  | decide condition onTrue onFalse =>
    exact related_branchOn (related_check condition) onTrue onFalse resume
  | loop condition body increment =>
    exact related_rounds (related_check condition) body increment resume
  | «try» body handler var =>
    rw [step_try, step_try]
    exact related_tryBlockOn bodies body handler var resume
  | _ => unfold step; infer_instance

end Quiet

/-- Doing something about steps makes no difference when it makes none where there is no trace. -/
theorem traceless_hooked {act : Option Cursor → Instruction → Run Flow → Run Flow}
    (still : ∀ resume i x m, m.context.trace = [] → act resume i x m = x m) (p : CallPath)
    (n : Nat) :
    Reentry.Parts (traced none p) (reentry n) (hooked (.stepping act) n) ∧
      Reentry.CallsBack (traced none p) (reentry n) (hooked (.stepping act) n) := by
  induction n with
  | zero =>
    have stopped {α : Type} :
        Related (traced none p) (throw .exhausted : Run α) (throw .exhausted) := inferInstance
    exact ⟨{
        call := fun _ _ _ => stopped
        invoke := fun _ _ _ => stopped
        rounds := rfl
        block := fun _ _ => inferInstanceAs (Related _ (raise (throw _)) (raise (throw _))) },
      ⟨fun _ _ _ => traced_callBack (fun _ _ => rfl) fun _ ends => absurd rfl ends⟩⟩
  | succ n ih =>
    obtain ⟨parts, callsBack⟩ := ih
    have bodies : (reentry n).AgreeOnBodies (hooked (.stepping act) n) :=
      .of_parts (p := p) (fatal_reentry n) (fatal_hooked act n)
    have stepped (resume : Option Cursor) (i : Instruction) :
      Related (traced none p) (raise (step (reentry n) resume i))
        (raise (hookedStep (.stepping act) (hooked (.stepping act) n) resume i)) := by
      refine ⟨fun m empty => ?_⟩
      have traces := (related_raise_step (p := p) bodies resume i).holds m empty
      rw [raise_run (hookedStep _ _ _ _), hookedStep, Hook.stepping]
      dsimp only
      rw [still resume i _ m empty, ← raise_run]
      exact traces
    have invoked (f : FunctionRef) (message : Option String) (args : List CellRef) :
        Related (traced none p)
        ((reentry (n + 1)).invoke f message args)
        ((hooked (.stepping act) (n + 1)).invoke f message args) :=
      inferInstanceAs
        (Related _ (invoke (reentry n) f message args)
          (invoke (hooked (.stepping act) n) f message args))
    exact ⟨{
        call := fun target message args =>
          inferInstanceAs (Related _ (callValue (reentry n) target message args)
            (callValue (hooked (.stepping act) n) target message args))
        invoke := invoked
        rounds := (rfl : n = n)
        block := related_raise_blockBy stepped nofun },
      ⟨fun f message args =>
        traced_callBack (fun m empty => (invoked f message args).same_of_traceless empty)
          fun m => invoke_context⟩⟩

/-! ## Evaluators that expose throws -/

section Exposed

variable {mark : Mark} {p : CallPath} {s : Reentry} {self : CallPath → Reentry}

section Calls

variable [∀ p, Reentry.Parts (traced (some mark) p) s (self p)]

/-- A call whose throws are exposed. -/
theorem related_dispatchAt (name : String) (args : List CellRef) {x : Run CellRef}
    {execute : CallPath → Run CellRef} (h : ∀ p, Related (traced (some mark) p) x (execute p)) :
    Related (traced (some mark) p) (dispatch name args x)
      (dispatchAt (some mark) p name args execute) :=
  ⟨fun _ => Traced.dispatchAt name args h⟩

instance (script : ScriptRef) {α : Type} (x y : Run α)
    [h : Related (traced (some mark) p.leave) x y] :
    Related (traced (some mark) p) (newContext script >>= (within · x))
      (newContext script >>= (within · y)) :=
  ⟨fun _ => Traced.detached script h⟩

instance (f : FunctionRef) (c : Closure) (message : Option String) (args : List CellRef) :
    Related (traced (some mark) p) (callDetached s f c message args)
      (callDetachedAt (some mark) self p f c message args) := by
  have := related_dispatchAt (p := p.leave) c.describe args fun inside =>
    (inferInstance : Related (traced (some mark) inside) (runClosure s f c message args)
      (runClosure (self inside) f c message args))
  unfold callDetached callDetachedAt
  infer_instance

instance (name : String) (args : List CellRef) (f : Function) :
    Related (traced (some mark) p) (evaluate s name args f)
      (evaluateAt (some mark) self p name args f) := by
  induction f with
  | library f => exact Library.related_call args f fun _ => inferInstance
  | probe f => exact inferInstanceAs (Related _ (Library.probe args f) (Library.probe args f))
  | bound f =>
    refine .andThen fun c? => ?_
    cases c? <;> infer_instance
  | guarded policy inner ih => cases policy <;> unfold evaluate evaluateAt <;> infer_instance

instance (name : String) (args : List CellRef) :
    Related (traced (some mark) p) (callFunction s name args)
      (callFunctionAt (some mark) self p name args) := by
  refine .andThen fun script => ?_
  dsimp only
  cases script.environment.functions.get? name with
  | some f => exact related_dispatchAt name args fun inside => inferInstance
  | none =>
    dsimp only
    cases script.environment.inlines.get? name with
    | some block => exact related_dispatchAt name args fun inside => inferInstance
    | none => infer_instance

instance (f : FunctionRef) (message : Option String) (args : List CellRef) :
    Related (traced (some mark) p) (invoke s f message args)
      (invokeAt (some mark) self p f message args) := by
  refine .andThen fun callable => ?_
  cases callable <;> infer_instance

instance (target : CellRef) (message : Option String) (args : List CellRef) :
    Related (traced (some mark) p) (callValue s target message args)
      (callValueAt (some mark) self p target message args) := by
  refine .andThen fun content => ?_
  cases content with
  | function f =>
    refine .andThen fun script => .andThen fun callable => ?_
    cases callable with
    | closure c =>
      dsimp only
      by_cases own : c.owner = script
      · rw [if_pos own, if_pos own]
        exact related_dispatchAt c.describe args fun inside => inferInstance
      · rw [if_neg own, if_neg own]
        infer_instance
    | named name owner =>
      dsimp only
      infer_instance
    | host _ does => infer_instance
  | text name =>
    dsimp only
    infer_instance
  | _ => infer_instance

instance (name : String) :
    Related (traced (some mark) p) (call s name) (callAt (some mark) self p name) := by
  refine .andThen fun args => .andThen fun result => .andThen fun script => ?_
  dsimp only
  cases script.environment.functions.get? name <;> infer_instance

instance (state : IterState) :
    Related (traced (some mark) p) (nextItem s state) (nextItemAt (some mark) self p state) := by
  cases state with
  | mk key value source position =>
    cases source with
    | sequence q =>
      refine .andThen fun cell? => ?_
      cases cell? <;> infer_instance
    | table t keys =>
      refine .andThen fun next? => ?_
      cases next? <;> infer_instance
    | generator f => exact .andThen fun value => inferInstance
    | empty => exact inferInstanceAs (Related _ (pure _) (pure _))

instance : Related (traced (some mark) p) (iterNext s) (iterNextAt (some mark) self p) := by
  refine .andThen fun iterators => ?_
  cases iterators.head? with
  | none => infer_instance
  | some state =>
    refine .andThen fun item? => ?_
    cases item? with
    | none => infer_instance
    | some item =>
      refine .andThen fun iterators => ?_
      cases iterators with
      | nil => infer_instance
      | cons top rest =>
        refine .andThen fun _ => ?_
        cases top.key <;> infer_instance

end Calls

mutual

theorem related_checkAt [∀ p, Reentry.Parts (traced (some mark) p) s (self p)] :
    ∀ c : Check, Related (traced (some mark) p) (check s c) (checkAt (some mark) self p c)
  | .always => by unfold check checkAt; infer_instance
  | .iterNext => by unfold check checkAt; infer_instance
  | .and parts => by unfold check checkAt; exact related_checkAllAt parts
  | .or parts => by unfold check checkAt; exact related_checkAnyAt parts
  | .predicate setup name negated => by
    unfold check checkAt
    exact related_checkPredicate Eval.related_verdictOf setup name negated

theorem related_checkAllAt [∀ p, Reentry.Parts (traced (some mark) p) s (self p)] :
    ∀ parts : List Check, Related (traced (some mark) p) (checkAll s parts)
      (checkAllAt (some mark) self p parts)
  | [] => by unfold checkAll checkAllAt; infer_instance
  | part :: rest => by
    have := related_checkAt part
    have := related_checkAllAt rest
    unfold checkAll checkAllAt
    infer_instance

theorem related_checkAnyAt [∀ p, Reentry.Parts (traced (some mark) p) s (self p)] :
    ∀ parts : List Check, Related (traced (some mark) p) (checkAny s parts)
      (checkAnyAt (some mark) self p parts)
  | [] => by unfold checkAny checkAnyAt; infer_instance
  | part :: rest => by
    have := related_checkAt part
    have := related_checkAnyAt rest
    unfold checkAny checkAnyAt
    infer_instance

end

/-! ## Steps that expose throws -/

section Steps

variable [hosts : Reentry.CallsBack hosted s s]

instance (className : String) :
    Related (traced (some mark) p) (objectNew s className)
      (objectNewAt (some mark) p s className) := by
  refine .andThen fun args => ?_
  have : Related (traced (some mark) p) (Host.construct s className args)
      ((Host.construct s className args).expose (some mark) p) := Related.exposeHosted inferInstance
  infer_instance

variable [∀ p, Reentry.Parts (traced (some mark) p) s (self p)]

instance (receiver : CellRef) (member : Option String) (args : List CellRef) :
    Related (traced (some mark) p) (send s receiver member args)
      (sendAt (some mark) self p s receiver member args) := by
  refine .andThen fun content => ?_
  cases content with
  | function f => infer_instance
  | null => infer_instance
  | _ =>
    cases member with
    | none => infer_instance
    | some member => exact .exposeHosted inferInstance

instance (member className : Option String) :
    Related (traced (some mark) p) (objectAccess s member className)
      (objectAccessAt (some mark) self p s member className) := by
  refine .andThen fun args => ?_
  cases className with
  | some className =>
    have : Related (traced (some mark) p) (Host.invokeStatic s className (member.getD "") args)
      ((Host.invokeStatic s className (member.getD "") args).expose (some mark) p) :=
        Related.exposeHosted inferInstance
    infer_instance
  | none => cases args <;> infer_instance

/-- Steps whose throws are exposed. -/
theorem related_stepAt (bodies : s.AgreeOnBodies s) (resume : Option Cursor) (i : Instruction) :
    Related (traced (some mark) p) (raise (step s resume i))
      (raise (stepAt (some mark) self p s resume i)) := by
  cases i with
  | decide condition onTrue onFalse =>
    exact related_branchOn (related_checkAt condition) onTrue onFalse resume
  | loop condition body increment =>
    exact related_rounds (related_checkAt condition) body increment resume
  | «try» body handler var =>
    rw [step_try]
    exact related_tryBlockOn bodies body handler var resume
  | _ => dsimp only [step, stepAt]; infer_instance

end Steps

end Exposed

/-- A step whose throws are exposed ends with none. -/
theorem raise_expose {mark : Mark} {p : CallPath} (x : Run Flow) :
    raise ((raise x).expose (some mark) p) = (raise x).expose (some mark) p := by
  funext m
  rw [raise_run, Run.expose]
  dsimp only
  rw [raise_run]
  rcases x m with ⟨(f | _) | flow, m'⟩
  · dsimp only
    cases f.isFatal <;> rfl
  · rfl
  · cases flow <;> rfl

/-- Evaluators fail where the one that exposes throws stops. -/
theorem related_exposed (mark : Mark) (n : Nat) (p : CallPath) :
    Reentry.Parts (traced (some mark) p) (reentry n) (exposed (some mark) n p) := by
  induction n generalizing p with
  | zero =>
    have stopped {α : Type} :
        Related (traced (some mark) p) (throw .exhausted : Run α) (throw .exhausted) :=
      inferInstance
    exact {
      rounds := rfl
      block := fun _ _ => inferInstanceAs (Related _ (raise (throw _)) (raise (throw _)))
      call := fun _ _ _ => stopped
      invoke := fun _ _ _ => stopped }
  | succ n ih =>
    have hosts : Reentry.CallsBack hosted (reentry n) (reentry n) := by
      refine Run.hosted_callBack fun f message args m => ?_
      cases n with
      | zero => exact fun ends => absurd rfl ends
      | succ n => exact invoke_context
    have bodies : (reentry n).AgreeOnBodies (reentry n) := by
      have parts :
          Reentry.Parts (traced none p) (reentry n) (hooked (.stepping fun _ _ x => x) n) :=
        (traceless_hooked (fun _ _ _ _ _ => rfl) p n).1
      rw [hooked_stepping_id] at parts
      exact .of_parts (p := p) (fatal_reentry n) (fatal_reentry n)
    have stepped (resume : Option Cursor) (i : Instruction) : Related (traced (some mark) p)
        (raise (step (reentry n) resume i))
        (raise ((raise (stepAt (some mark) (exposed (some mark) n) p (reentry n) resume i)).expose
          (some mark) p)) := by
      rw [raise_expose]
      exact (related_stepAt bodies resume i).exposed
    have blocks := related_raise_blockBy stepped fun _ resume i m f m' fails =>
      Run.expose_fatal (raise_expose _ ▸ fails)
    exact {
      rounds := (rfl : n = n)
      block := blocks
      call := fun target message args =>
        inferInstanceAs (Related _ (callValue (reentry n) target message args)
          (callValueAt (some mark) (exposed (some mark) n) p target message args))
      invoke := fun f message args => inferInstanceAs (Related _ (invoke (reentry n) f message args)
        (invokeAt (some mark) (exposed (some mark) n) p f message args)) }

end Eval

end CellScript
