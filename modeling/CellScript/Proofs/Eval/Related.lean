import CellScript.Proofs.Eval.Carried

/-!
# Evaluators that are related

Every part of the evaluator passes a general relation on from the evaluator that it calls back.
Where it looks at the outcome of a block or a call, it gives up when that is a fatal fault. A
relation that is not passed on into calls or handlers in general may be so for a reason of its own,
and is passed on by all that calls functions and catches throws then.

## Main definitions

* `Reentry.Functions`, `Reentry.Handlers` — evaluators that are related on functions, and where
  throws are caught.

## Main statements

* Instances of `Run.GivesUp` for what is done at the end of calls, bodies, handlers and blocks.
* Instances of `Run.Related` for `Eval.dispatch`, `Eval.callValue`, `Eval.invoke`, `Eval.step` and
  `Eval.block`.
-/

namespace CellScript.Eval

open Run (Related GivesUp Cleans FailsWith)

variable {ρ : Run.Relation} {s s' : Reentry}

section Simple

variable [ρ.IsSimple]

/-! ## Closures -/

instance (f : FunctionRef) (c : Closure) : Related ρ (entryOf f c) (entryOf f c) := by
  refine .seq (.of_tables fun _ => rfl) fun _ => ?_
  split <;> infer_instance

instance (f : FunctionRef) (cursor : Cursor) (level : Option ScopeLevel) (iterators : Nat) :
    Related ρ (suspend f cursor level iterators) (suspend f cursor level iterators) :=
      .of_tables fun _ => rfl

/-- Back from a body. -/
instance cleans_leave (source : Option String) : Cleans (fun m =>
    let (level, context) := leave source m.context
    (.ok level, { m with context }) :
    Run (Option ScopeLevel)) := .of_context fun _ => ⟨_, _, _, rfl⟩

instance related_leave (source : Option String) : Related ρ
    (fun m =>
      let (level, context) := leave source m.context
      (.ok level, { m with context }) : Run (Option ScopeLevel))
    (fun m =>
      let (level, context) := leave source m.context
      (.ok level, { m with context }) : Run (Option ScopeLevel)) := .of_tables fun _ => rfl

end Simple

/-! ## Contexts and flows -/

instance (script : ScriptRef) : Related ρ (isLoaded script) (isLoaded script) :=
  have : Machine.Apart fun m => (m.scripts.getD script.index default).loaded := ⟨fun m o => by
    obtain ⟨p, same⟩ := m.getD_under' o script.index
    rw [same]
    rfl⟩
  inferInstanceAs (Related ρ (Run.ask _) (Run.ask _))

instance (f : FunctionRef) : Related ρ (ownClosure? f) (ownClosure? f) :=
  have : Machine.Apart fun m => (m.heap.closure? f).filter (·.owner == m.context.script) :=
    ⟨fun _ _ => rfl⟩
  inferInstanceAs (Related ρ (Run.ask _) (Run.ask _))

instance [ρ.IsLocal] (kind : FlowKind) (value : Bool) :
    Related ρ (flowOf kind value) (flowOf kind value) := by
  cases value <;> unfold flowOf <;> infer_instance

instance (x y : Run Unit) [Related ρ x y] : Related ρ (thenNormal x) (thenNormal y) := by
  unfold thenNormal
  infer_instance

/-! ## Bodies -/

section Bodies

variable [ρ.IsSimple] [Reentry.Parts ρ s s']

instance (f : FunctionRef) (c : Closure) (message : Option String) (args : List CellRef) :
    Related ρ (runBody s f c message args) (runBody s' f c message args) := by
  refine .andThen fun ⟨level, cursor, iterators⟩ => .seq (.binds (some level.base) _)
    fun _ => .andThen fun me => ?_
  have this : Related ρ (Run.changeHeap (·.putVariable level.base "$this" me))
      (Run.changeHeap (·.putVariable level.base "$this" me)) := .of_tables fun _ => rfl
  refine .seq this fun _ => .andThen fun open? => .andThen fun _ => ?_
  refine related_passFlow ⟨fun _ _ => ⟨_, rfl, rfl, rfl, rfl⟩⟩ fun result =>
    .andThen fun level => ?_
  split
  · infer_instance
  · infer_instance
  · refine .andThen fun _ => ?_
    split <;> infer_instance

instance (f : FunctionRef) (c : Closure) (message : Option String) (args : List CellRef) :
    Related ρ (runClosure s f c message args) (runClosure s' f c message args) := by
  refine .andThen fun outcome => ?_
  cases outcome with
  | value cell => infer_instance
  | callcc target =>
    refine .andThen fun _ => .andThen fun me => ?_
    exact .passThen ⟨fun _ _ => ⟨_, rfl, rfl, rfl, rfl⟩⟩ fun _ => inferInstance

instance (name : String) (block : Block) (args : List CellRef) :
    Related ρ (runInline s name block args) (runInline s' name block args) := by
  refine .andThen fun vars => .seq (.binds (some vars) _) fun _ => ?_
  refine .andThen fun depth => .andThen fun _ => .andThen fun _ => ?_
  refine related_passFlow ⟨fun _ _ => ⟨_, rfl, rfl, rfl, rfl⟩⟩ fun result =>
    .andThen fun _ => .andThen fun _ => ?_
  split <;> infer_instance

end Bodies

/-! ## Expressions -/

section Local

variable [ρ.IsLocal] [Reentry.Parts ρ s s']

instance (block : Block) : Related ρ (intoFrame s block) (intoFrame s' block) := by
  refine .andThen fun _ => .andThen fun depth => ?_
  refine related_passFlow ⟨fun _ _ => ⟨_, rfl, rfl, rfl, rfl⟩⟩ fun result =>
    .andThen fun _ => .andThen fun _ => ?_
  split <;> infer_instance

instance (fragments : List Fragment) :
    Related ρ (interpolate fragments) (interpolate fragments) := by
  unfold interpolate
  infer_instance

instance (name : String) : Related ρ (functionValue name) (functionValue name) := by
  refine .andThen fun script => .ofScript fun own => ?_
  dsimp only
  split
  · split <;> infer_instance
  · infer_instance

instance (name : String) : Related ρ (variableCell name) (variableCell name) := by
  unfold variableCell
  split
  · infer_instance
  · refine .andThen fun cell? => ?_
    cases cell? with
    | some cell => infer_instance
    | none =>
      dsimp only
      split
      · infer_instance
      · refine .andThen fun _ => .andThen fun cell => .inScope fun m => ?_
        have seen : m.context.scope.global ∈ m.context.scope.containers :=
          ScopeChain.mem_containers.mpr (.inr (.inr rfl))
        exact ρ.bind (ρ.holds_putVariable seen name cell rfl) fun _ m' _ => Related.holds m'

instance (op : String) : Related ρ (operate op) (operate op) := by
  unfold operate
  infer_instance

instance (target : Block) : Related ρ (targetCell s target) (targetCell s' target) := by
  refine .andThen fun operands => ?_
  split <;> infer_instance

instance (target : Block) (op : Option String) :
    Related ρ (assign s target op) (assign s' target op) := by
  unfold assign
  infer_instance

instance (op : Option String) (targets : List Block) (values : List CellRef) :
    Related ρ (storeAll s op targets (values.map pure))
      (storeAll s' op targets (values.map pure)) := by
  induction targets generalizing values with
  | nil =>
    unfold storeAll
    infer_instance
  | cons target targets ih =>
    unfold storeAll
    cases values with
    | nil =>
      simp only [List.map_nil, List.headD_nil, List.tail_nil]
      exact .andThen fun value => .andThen fun cell => .andThen fun _ => ih []
    | cons value values =>
      simp only [List.map_cons, List.headD_cons, List.tail_cons]
      exact .andThen fun value => .andThen fun cell => .andThen fun _ => ih values

instance (targets : List Block) (op : Option String) :
    Related ρ (assignMulti s targets op) (assignMulti s' targets op) := by
  refine .andThen fun source => .andThen fun _ => .andThen fun content => ?_
  split <;> infer_instance

instance : Related ρ (index s) (index s') := by
  unfold index
  infer_instance

instance (body : Block) (name : Option String) (site : Nat) :
    Related ρ (newClosure body name site) (newClosure body name site) := by
  refine .of_stays (fun _ => rfl) (fun m => ?_)
  refine .newFunction (h := m.heap.newVars.2) rfl (m.heap.keepsBut_newVars none) rfl
    fun c made => ?_
  cases made
  simp [Heap.newVars]

instance (name : String) (body : Block) (isInline : Bool) (site : Nat) :
    Related ρ (Eval.bind name body isInline site) (Eval.bind name body isInline site) := by
  unfold Eval.bind
  split
  · infer_instance
  · refine .andThen fun script => .ofScript fun own => ?_
    dsimp only
    infer_instance

instance (key : Option String) (value : String) :
    Related ρ (iterCreate key value) (iterCreate key value) := by
  refine .andThen fun source => .andThen fun _ => .andThen fun content => ?_
  split <;> infer_instance

/-- A predicate whose operands are evaluated by related evaluators. -/
theorem related_checkPredicate
    (verdict : ∀ predicate name negated args, Related ρ (verdictOf predicate name negated args)
      (verdictOf predicate name negated args)) (setup : Block) (name : String) (negated : Bool) :
    Related ρ (checkPredicate s setup name negated) (checkPredicate s' setup name negated) := by
  refine .andThen fun args => ?_
  split
  · infer_instance
  · rename_i predicate _
    exact verdict predicate name negated args

end Local

/-! ## Functions -/

section Carried

variable [ρ.IsCarried] [Reentry.Parts ρ s s']

instance (name : String) (args : List CellRef) (x y : Run CellRef) [h : Related ρ x y] :
    Related ρ (dispatch name args x) (dispatch name args y) :=
      Run.Relation.IsCarried.dispatch name args h

instance (script : ScriptRef) {α : Type} (x y : Run α) [h : Related ρ x y] :
    Related ρ (newContext script >>= (within · x)) (newContext script >>= (within · y)) :=
  Run.Relation.IsCarried.detached script h

instance (f : FunctionRef) (c : Closure) (message : Option String) (args : List CellRef) :
    Related ρ (callDetached s f c message args) (callDetached s' f c message args) := by
  unfold callDetached
  infer_instance

theorem related_evaluate (name : String) (args : List CellRef) {f : Function}
    (h : ¬ f.isDiagnostic) :
    Related ρ (evaluate s name args f) (evaluate s' name args f) := by
  induction f with
  | library f =>
    unfold evaluate
    exact Library.related_call args f fun diagnostic => absurd diagnostic h
  | probe f => unfold evaluate; infer_instance
  | bound f =>
    refine .andThen fun c? => ?_
    cases c? <;> infer_instance
  | guarded policy inner ih =>
    have := ih h
    cases policy <;> unfold evaluate <;> infer_instance

instance (name : String) (args : List CellRef) :
    Related ρ (callFunction s name args) (callFunction s' name args) := by
  refine .atScript fun m => ?_
  dsimp only
  split
  · rename_i f found
    by_cases diagnostic : f.isDiagnostic
    · exact Run.Relation.IsCarried.diagnose s s' args diagnostic found
    · have : Related ρ (evaluate s name args f) (evaluate s' name args f) :=
        related_evaluate name args diagnostic
      exact Related.holds m
  · split <;> exact Related.holds m

instance (f : FunctionRef) (message : Option String) (args : List CellRef) :
    Related ρ (invoke s f message args) (invoke s' f message args) := by
  refine .andThen fun callable => ?_
  cases callable <;> infer_instance

instance (target : CellRef) (message : Option String) (args : List CellRef) :
    Related ρ (callValue s target message args) (callValue s' target message args) := by
  refine .andThen fun content => ?_
  split
  · refine .andThen fun script => .andThen fun callable => ?_
    split <;> infer_instance
  iterate 3 infer_instance

end Carried

/-- Two evaluators that are related on functions. -/
class Reentry.Functions (ρ : Run.Relation) (s s' : Reentry) : Prop where
  function : ∀ name args, Related ρ (callFunction s name args) (callFunction s' name args)
  value : ∀ target message args, Related ρ (callValue s target message args)
    (callValue s' target message args)
  invoke : ∀ f message args, Related ρ (Eval.invoke s f message args)
    (Eval.invoke s' f message args)

attribute [instance] Reentry.Functions.function Reentry.Functions.value Reentry.Functions.invoke

instance [ρ.IsCarried] [Reentry.Parts ρ s s'] : Reentry.Functions ρ s s' where
  function _ _ := inferInstance
  value _ _ _ := inferInstance
  invoke _ _ _ := inferInstance

section Scoped

variable [ρ.IsScoped] [Reentry.Parts ρ s s'] [Reentry.Functions ρ s s']

instance (name : String) : Related ρ (call s name) (call s' name) := by
  refine .andThen fun args => .andThen fun result => .ofScript fun script => ?_
  dsimp only
  split <;> infer_instance

/-! ## Iterators -/

instance (state : IterState) : Related ρ (nextItem s state) (nextItem s' state) := by
  unfold nextItem
  split
  · refine .andThen fun cell? => ?_
    cases cell? <;> infer_instance
  · refine .andThen fun next? => ?_
    cases next? <;> infer_instance
  · infer_instance
  · infer_instance

instance : Related ρ (iterNext s) (iterNext s') := by
  refine .andThen fun iterators => ?_
  split
  · infer_instance
  · refine .andThen fun item? => ?_
    cases item? with
    | none => infer_instance
    | some item =>
      refine .andThen fun iterators => ?_
      dsimp only
      split
      · infer_instance
      · refine .andThen fun _ => ?_
        split <;> infer_instance

/-! ## Conditions -/

instance (setup : Block) (name : String) (negated : Bool) :
    Related ρ (checkPredicate s setup name negated) (checkPredicate s' setup name negated) :=
  related_checkPredicate Run.Relation.IsScoped.verdict setup name negated

end Scoped

mutual

theorem related_check [ρ.IsScoped] [Reentry.Parts ρ s s'] [Reentry.Functions ρ s s'] :
    ∀ c : Check, Related ρ (check s c) (check s' c)
  | .always => by unfold check; infer_instance
  | .iterNext => by unfold check; infer_instance
  | .and parts => by unfold check; exact related_checkAll parts
  | .or parts => by unfold check; exact related_checkAny parts
  | .predicate setup name negated => by unfold check; infer_instance

theorem related_checkAll [ρ.IsScoped] [Reentry.Parts ρ s s'] [Reentry.Functions ρ s s'] :
    ∀ parts : List Check, Related ρ (checkAll s parts) (checkAll s' parts)
  | [] => by unfold checkAll; infer_instance
  | part :: rest => by
    have := related_check part
    have := related_checkAll rest
    unfold checkAll
    infer_instance

theorem related_checkAny [ρ.IsScoped] [Reentry.Parts ρ s s'] [Reentry.Functions ρ s s'] :
    ∀ parts : List Check, Related ρ (checkAny s parts) (checkAny s' parts)
  | [] => by unfold checkAny; infer_instance
  | part :: rest => by
    have := related_check part
    have := related_checkAny rest
    unfold checkAny
    infer_instance

end

attribute [instance] related_check

/-! ## Host objects -/

section Host

variable [ρ.IsRecording] [Reentry.CallsBack ρ s s']

instance [ρ.IsLocal] (className : String) :
    Related ρ (objectNew s className) (objectNew s' className) := by
  unfold objectNew
  infer_instance

variable [ρ.IsScoped] [Reentry.Parts ρ s s'] [Reentry.Functions ρ s s']

instance (receiver : CellRef) (member : Option String) (args : List CellRef) :
    Related ρ (send s receiver member args) (send s' receiver member args) := by
  refine .andThen fun content => ?_
  split
  · infer_instance
  · infer_instance
  · cases member <;> infer_instance

instance (member className : Option String) :
    Related ρ (objectAccess s member className) (objectAccess s' member className) := by
  refine .andThen fun args => ?_
  split <;> infer_instance

end Host

/-! ## Control flow -/

section Flow

variable [ρ.IsScoped] [Reentry.Whole ρ s s'] [Reentry.Functions ρ s s']

instance (condition : Check) (onTrue : Block) (onFalse : Option Block) (resume : Option Cursor) :
    Related ρ (branch s condition onTrue onFalse resume)
      (branch s' condition onTrue onFalse resume) := by
  unfold branch
  cases onFalse <;>
  · dsimp only
    split <;> infer_instance

instance (increment : Option Block) (inner : Option Cursor) :
    Related ρ (loopIncrement s increment inner) (loopIncrement s' increment inner) := by
  cases increment with
  | none => unfold loopIncrement; infer_instance
  | some increment =>
    refine .andThen fun flow => ?_
    split <;> infer_instance

instance (body : Block) (increment : Option Block) (inner : Option Cursor) :
    Related ρ (loopBody s body increment inner) (loopBody s' body increment inner) := by
  refine .andThen fun _ => .andThen fun flow => ?_
  split <;> infer_instance

instance (condition : Check) (body : Block) (increment : Option Block) (round : Round) :
    Related ρ (loopRound s condition body increment round)
      (loopRound s' condition body increment round) := by
  cases round <;> unfold loopRound <;> infer_instance

instance (condition : Check) (body : Block) (increment : Option Block) (resume : Option Cursor) :
    Related ρ (loop s condition body increment resume)
      (loop s' condition body increment resume) := by
  have rounds : s.rounds = s'.rounds := Reentry.Whole.rounds ρ
  have turned :
      Related ρ (Run.iterate (loopRound s condition body increment) s.rounds (.ofCursor resume))
      (Run.iterate (loopRound s' condition body increment) s.rounds (.ofCursor resume)) :=
    Run.related_iterate (fun _ => inferInstance) _ _
  unfold loop
  rw [← rounds]
  exact .andThen fun flow => inferInstance

/-- A handler that fails takes its scope along. -/
instance (handler : Block) (resume : Option Cursor) :
    Related ρ (runHandler s handler resume) (runHandler s' handler resume) := by
  have := Run.Relation.IsScoped.popLocal (ρ := ρ)
  refine .passThen ⟨fun _ _ => ⟨_, rfl, rfl, rfl, rfl⟩⟩ fun result => ?_
  dsimp only
  infer_instance

end Flow

/-! ## Handlers -/

/-- Two evaluators that are related where throws are caught. -/
class Reentry.Handlers (ρ : Run.Relation) (s s' : Reentry) : Prop where
  catchThrow : ∀ handler var value, Related ρ (catchThrow s handler var value)
    (catchThrow s' handler var value)

attribute [instance] Reentry.Handlers.catchThrow

instance [ρ.IsCarried] [Reentry.Whole ρ s s'] : Reentry.Handlers ρ s s' where
  catchThrow handler var value := by
    refine .andThen fun _ => .andThen fun vars => ?_
    have named :
        Related ρ (Run.changeHeap (·.putVariable vars var value))
          (Run.changeHeap (·.putVariable vars var value)) :=
      .of_tables fun _ => rfl
    infer_instance

section Steps

variable [ρ.IsScoped] [ρ.IsAttentive] [ρ.IsRecording] [Reentry.Whole ρ s s']
  [Reentry.Functions ρ s s'] [Reentry.Handlers ρ s s']

instance (slot : Nat) (var : String) (result : Except Fault Flow) :
    Related ρ (traceCaught slot var result) (traceCaught slot var result) := by
  unfold traceCaught
  split <;> infer_instance

/-- A handler is not run on account of a fatal fault. -/
instance (body handler : Block) (var : String) (inner : Option Cursor) :
    Related ρ (tryBody s body handler var inner) (tryBody s' body handler var inner) := by
  refine .andThen fun slot => .andThen fun _ => ?_
  refine .attemptThen ⟨fun f _ => ?_⟩ fun result => ?_
  · unfold traceCaught
    infer_instance
  · refine .andThen fun _ => .andThen fun _ => .andThen fun flow => ?_
    split <;> infer_instance

instance (body handler : Block) (var : String) (resume : Option Cursor) :
    Related ρ (tryBlock s body handler var resume) (tryBlock s' body handler var resume) := by
  unfold tryBlock
  split <;> infer_instance

/-! ## Steps -/

/-- Every step passes on how the evaluators are related that it calls back. -/
theorem related_step (resume : Option Cursor) (i : Instruction) :
    Related ρ (step s resume i) (step s' resume i) := by
  cases i <;> unfold step <;> infer_instance

end Steps

/-! ## Blocks -/

/-- Nothing is done about a fatal fault of a step. -/
theorem flowOfStep_fatal {f : Fault} (fatal : f.isFatal) (line : UInt32) :
    flowOfStep line (.error f) = pure (.error f) := by
  cases f with
  | fatal text | taintViolation text => rfl
  | badIndex _ | badCast _ | nullDereference _ | concurrentModification _ | runtime _ | timeout _
  | thrown _ => cases fatal

instance [ρ.IsLocal] (line : UInt32) (result : Except Fault Flow) :
    Related ρ (flowOfStep line result) (flowOfStep line result) := by
  unfold flowOfStep
  split
  · infer_instance
  · infer_instance
  · split <;> infer_instance

/-- A computation that does not fail itself, whatever fault its result is about. -/
class Unfailing {α : Type} (x : Run α) : Prop where
  ends : ∀ m f m', x m = (.error (.fault f), m') → False

theorem Unfailing.attempt_settle {α : Type} (x : Run (Except Fault α)) [h : Unfailing x] :
    Run.attempt (x >>= Run.settle) = x := by
  funext m
  unfold Run.attempt
  rw [Run.bind_run]
  cases run : x m with
  | mk r m' =>
    match r with
    | .ok (.ok value) | .ok (.error f) | .error .exhausted => rfl
    | .error (.fault f) => exact (h.ends m f m' run).elim

instance {α : Type} (a : α) : Unfailing (pure a) := ⟨fun _ _ _ => nofun⟩

instance (f : Context → Context) : Unfailing (Run.changeContext f) := ⟨fun _ _ _ => nofun⟩

instance {α β : Type} (x : Run α) (f : α → Run β) [hx : Unfailing x] [hf : ∀ a, Unfailing (f a)] :
    Unfailing (x >>= f) where
  ends m e m' run := by
    rw [Run.bind_run] at run
    cases first : x m with
    | mk r m₁ =>
      rw [first] at run
      match r with
      | .ok a => exact (hf a).ends m₁ e m' run
      | .error .exhausted => cases run
      | .error (.fault f) => exact hx.ends m f m₁ first

theorem Unfailing.andThen {α β : Type} {x : Run α} {f : α → Run β} [Unfailing x]
    (h : ∀ a, Unfailing (f a)) :
    Unfailing (x >>= f) := inferInstance

instance {α : Type} (x : Run α) : Unfailing (Run.attempt x) where
  ends m f m' run := by
    unfold Run.attempt at run
    rcases first : x m with ⟨(_ | _) | _, m₁⟩
    all_goals
      rw [first] at run
      cases run

/-- The report and the wording of a fault that becomes a throw. -/
instance (line : UInt32) (result : Except Fault Flow) : Unfailing (flowOfStep line result) := by
  have worded (f : Fault) : Unfailing (Run.messageOf f) := ⟨fun _ _ _ => nofun⟩
  have written (message : String) : Unfailing (liftM (HeapM.text message) : Run CellRef) :=
    ⟨fun _ _ _ => nofun⟩
  have reported (message : String) : Unfailing (Run.reportError message line) := by
    refine ⟨fun m f m' run => ?_⟩
    obtain ⟨logs, reports⟩ := (Run.reports_reportError message line).run m
    rw [reports] at run
    cases run
  unfold flowOfStep
  split
  · infer_instance
  · infer_instance
  · split <;> infer_instance

variable {perform perform' : Option Cursor → Instruction → Run Flow}

/-- Steps fail in their outcome alone. -/
instance (index : Nat) (resume : Option Cursor) (list : List Step) :
    Unfailing (steps perform index resume list) := by
  induction list generalizing index resume with
  | nil =>
    unfold steps
    infer_instance
  | cons step rest ih =>
    cases step with
    | mk line instruction =>
      refine .andThen fun _ => .andThen fun result => .andThen fun outcome => ?_
      split <;> infer_instance

/-- Steps that are performed in related ways, failing with their outcome. -/
theorem related_steps [ρ.IsLocal] [ρ.IsAttentive]
    (h : ∀ resume i, Related ρ (perform resume i) (perform' resume i)) (index : Nat)
    (resume : Option Cursor) (list : List Step) :
    Related ρ (steps perform index resume list >>= Run.settle)
      (steps perform' index resume list >>= Run.settle) := by
  induction list generalizing index resume with
  | nil =>
    unfold steps
    infer_instance
  | cons step rest ih =>
    cases step with
    | mk line instruction =>
      have := h resume instruction
      unfold steps
      simp only [bind_assoc]
      refine .andThen fun _ => ?_
      refine .attemptThen ⟨fun f fatal => ?_⟩ fun result => ?_
      · rw [flowOfStep_fatal fatal, pure_bind]
        exact inferInstanceAs (FailsWith f (Run.fail f))
      · refine .andThen fun outcome => ?_
        split
        · exact ih (index + 1) none
        · infer_instance
        · infer_instance

/-- A bracket looks at the outcome of what it brackets. -/
theorem bracket_eq (source : Option String) (x : Run (Except Fault Flow)) [Unfailing x] :
    bracket source x = (do
      let marks ← Run.askContext (·.marks)
      Run.changeContext fun c => { c with sources := source.toList ++ c.sources }
      let outcome ← Run.attempt (x >>= Run.settle)
      Run.changeContext (closing source marks outcome)
      Run.settle outcome) := by
  rw [Unfailing.attempt_settle]
  rfl

/-- Blocks whose steps are performed in related ways. -/
theorem related_blockBy [ρ.IsLocal] [ρ.IsAttentive]
    (h : ∀ resume i, Related ρ (perform resume i) (perform' resume i)) (b : Block)
    (resume : Option Cursor) :
    Related ρ (blockBy perform b resume) (blockBy perform' b resume) := by
  unfold blockBy
  cases splitCursor resume with
  | mk start inner =>
    have := related_steps h start inner (b.steps.drop start)
    dsimp only
    rw [bracket_eq, bracket_eq]
    exact .andThen fun marks => .andThen fun _ =>
      .attemptThen ⟨fun _ _ => inferInstance⟩ fun _ => inferInstance

end CellScript.Eval
