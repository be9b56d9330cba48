import CellScript.Eval.Block
import CellScript.Proofs.Eval.Plain
import CellScript.Proofs.Eval.Raised

/-!
# Relations that evaluators carry

There are few places in which evaluators look at what monitors them. A relation is carried when it
is passed on there: by calls, which are counted and traced, by the contexts that are made for other
scripts, by conditions, which are traced, and by calls of the functions that show and set
diagnostics. Relations that hold whatever computations look at are carried.

## Main definitions

* `Eval.verdictOf` — the verdict of a predicate, with a trace of it.
* `Run.Relation.IsCarried` — relations that evaluators pass on.
* `Run.Relation.IsScoped` — relations that evaluators pass on, but for what is done about calls and
  handlers.

## Main statements

* Broad relations are carried.
-/

namespace CellScript

namespace Eval

/-- The verdict of a predicate on its operands, with a trace of it. -/
def verdictOf (predicate : Predicate) (name : String) (negated : Bool) (args : List CellRef) :
    Run Bool := do
  let described ← if (← Run.askContext (·.flags)).traceLogic then
      Run.askHeap fun h => some (describePredicate h name negated args)
    else pure none
  let verdict := (← predicate.decide name args) != negated
  if let some described := described then
    Run.traceLogic (described ++ " -> " ++ if verdict then "true" else "false")
  return verdict

end Eval

/-- A simple relation that is also passed on where evaluators look at what monitors them, and
through calls. -/
class Run.Relation.IsCarried (ρ : Run.Relation) : Prop extends ρ.IsSimple where
  dispatch : ∀ {x y : Run CellRef} (name : String) (args : List CellRef), Run.Related ρ x y →
    Run.Related ρ (Eval.dispatch name args x) (Eval.dispatch name args y)
  detached : ∀ {α : Type} {x y : Run α} (s : ScriptRef), Run.Related ρ x y →
    Run.Related ρ (Eval.newContext s >>= (Eval.within · x))
      (Eval.newContext s >>= (Eval.within · y))
  verdict : ∀ (predicate : Predicate) (name : String) (negated : Bool) (args : List CellRef),
    Run.Related ρ (Eval.verdictOf predicate name negated args)
      (Eval.verdictOf predicate name negated args)
  diagnose : ∀ {f : Function} {name : String} {m : Machine} (s s' : Reentry) (args : List CellRef),
    f.isDiagnostic →
    m.own.environment.functions.get? name = some f →
    ρ.holds (Eval.dispatch name args (Eval.evaluate s name args f))
      (Eval.dispatch name args (Eval.evaluate s' name args f)) m

/-- A local relation that is also passed on where conditions are traced, and where a container is
taken off the current level of the scope. -/
class Run.Relation.IsScoped (ρ : Run.Relation) : Prop extends ρ.IsLocal where
  popLocal : Run.Related ρ (Run.changeContext fun c => { c with scope := c.scope.popLocal })
    (Run.changeContext fun c => { c with scope := c.scope.popLocal })
  verdict : ∀ (predicate : Predicate) (name : String) (negated : Bool) (args : List CellRef),
    Run.Related ρ (Eval.verdictOf predicate name negated args)
      (Eval.verdictOf predicate name negated args)

namespace Eval

open Run (Related GivesUp Cleans)

variable {ρ : Run.Relation} {s s' : Reentry}

/-! ## Changes of the context and of scripts -/

section Steady

/-- A change of a context of which it is plain to see. -/
theorem steady {f : Context → Context}
    (same : ∀ c, (f c).script = c.script ∧ (f c).taint = c.taint ∧ (f c).maxDepth = c.maxDepth := by
      exact fun _ => ⟨rfl, rfl, rfl⟩)
    (trace : ∀ c, c.trace = [] →
      (f c).trace = [] := by first | exact fun _ empty => empty | exact fun _ _ => rfl)
    (under : ∀ c flags, f (c.under flags) = (f c).under flags := by exact fun _ _ => rfl) :
    Context.Steady f := ⟨same, trace, under⟩

instance (iterators : List IterState) : Context.Still fun c => { c with iterators } :=
  .of_steady steady

instance (state : IterState) :
    Context.Still fun c => { c with iterators := state :: c.iterators } := .of_steady steady

instance (depth : Nat) :
    Context.Still fun c => { c with iterators := truncateStack c.iterators depth } :=
      .of_steady steady

instance : Context.Still fun c => { c with iterators := c.iterators.tail } := .of_steady steady

instance (var : String) : Context.Still fun c => { c with handlers := var :: c.handlers } :=
  .of_steady steady

instance (depth : Nat) :
    Context.Still fun c => { c with handlers := truncateStack c.handlers depth } :=
      .of_steady steady

instance (source : Option String) :
    Context.Still fun c => { c with sources := source.toList ++ c.sources } := .of_steady steady

instance (vars : VarsRef) : Context.Steady fun c => { c with scope := c.scope.pushLocal vars } :=
  steady

instance (depth : Nat) : Context.Steady fun c => { c with scope := c.scope.truncateLocals depth } :=
  steady

instance : Context.Steady fun c => { c with scope := c.scope.popLocal } := steady

instance (depth : Nat) : Context.Still (·.truncateFrames depth) := .of_steady steady

instance : Context.Still (·.clearFrame) := .of_steady steady

instance : Context.Steady (·.settleTrace) := steady

instance (source : Option String) (level : ScopeLevel) (iterators : List IterState) :
    Context.Steady (enter source level iterators) := steady

instance (source : Option String) (marks : Marks) (outcome : Except Fault Flow) :
    Context.Still (closing source marks outcome) := by
  cases outcome with
  | ok flow => cases flow <;> exact .of_steady steady
  | error f => exact .of_steady steady

instance (name : String) (body : Block) : Script.Steady fun s =>
    { s with
      environment := { s.environment with inlines := s.environment.inlines.insert name body } } :=
  ⟨fun _ => rfl, fun _ => rfl, fun _ _ _ _ => id, fun _ _ => rfl⟩

/-- A definition makes a name stand for a closure. -/
instance (name : String) (closure : FunctionRef) :
    Script.Steady fun s =>
      { s with
        environment :=
          { s.environment with
            functions := s.environment.functions.insert name (.bound closure) } } where
  globals _ := rfl
  books _ := rfl
  functions kind bound script other stood := by
    by_cases same : name = other
    · subst same
      simp [bound]
    · simpa [Dictionary.get?_insert_of_ne _ same] using stood
  under _ _ := rfl

end Steady

/-! ## Calls -/

instance (name : String) (source : Option String) (line : UInt32) :
    Cleans (Run.changeOwnScript
      fun s => { s with profiler := s.profiler.record name source line 0 }) :=
  .changeOwnScript fun _ => ⟨rfl, rfl⟩

/-- A call that has failed is counted and traced, and its frames go. -/
instance (name : String) (c : Context) (described : Option String) :
    GivesUp (conclude name c described) where
  fails f _ := by
    unfold conclude
    refine .andThen fun _ => ?_
    cases described <;>
    · dsimp only
      split
      · exact .andThen fun _ => .andThen fun _ => inferInstance
      · exact .andThen fun _ => inferInstance

/-- The functions that show and set diagnostics do not call back. -/
theorem related_diagnostic [ρ.IsWatchful] (name : String) (args : List CellRef) {f : Function}
    (h : f.isDiagnostic) :
    Related ρ (evaluate s name args f) (evaluate s' name args f) := by
  induction f with
  | library f =>
    cases f with
    | debug | profile =>
      unfold evaluate Library.call
      infer_instance
    | _ => cases h
  | probe | bound => cases h
  | guarded policy inner ih =>
    have := ih h
    cases policy <;> unfold evaluate <;> infer_instance

theorem related_verdictOf [ρ.IsCurious] (predicate : Predicate) (name : String) (negated : Bool)
    (args : List CellRef) :
    Related ρ (verdictOf predicate name negated args) (verdictOf predicate name negated args) := by
  refine .andThen fun flags => ?_
  dsimp only
  split
  all_goals
    refine .andThen fun described => ?_
    cases described <;> infer_instance

instance [ρ.IsCarried] : ρ.IsScoped where
  popLocal := inferInstance
  verdict := Run.Relation.IsCarried.verdict

section Broad

variable [ρ.IsBroad]

instance (frame : StackFrame) :
    Related ρ (Run.changeContext (·.recordFrame frame)) (Run.changeContext (·.recordFrame frame)) :=
  .of_broad fun _ => rfl

instance (message : String) (line : UInt32) :
    Related ρ (Run.report message line true) (Run.report message line true) :=
  .of_broad fun _ => rfl

instance (f : Nat → Nat) :
    Related ρ (Run.changeMachine fun m => { m with activeCalls := f m.activeCalls })
    (Run.changeMachine fun m => { m with activeCalls := f m.activeCalls }) := .of_broad fun _ => rfl

instance (name : String) (source : Option String) (line : UInt32) :
    Related ρ (Run.changeOwnScript
      fun s => { s with profiler := s.profiler.record name source line 0 })
      (Run.changeOwnScript fun s => { s with profiler := s.profiler.record name source line 0 }) :=
  .of_broad (fun _ => rfl) fun m =>
    .of_quiet ⟨m.code_modify m.context.script fun _ => ⟨rfl, rfl⟩, rfl, rfl, rfl, rfl⟩

instance (name : String) (c : Context) (described : Option String) (result : Except Fault CellRef) :
    Related ρ (conclude name c described result) (conclude name c described result) := by
  unfold conclude
  refine .andThen fun _ => ?_
  cases result with
  | ok value => cases described <;> dsimp only <;> split <;> infer_instance
  | error f =>
    cases described <;>
    · dsimp only
      split
      · exact .andThen fun _ => .andThen fun _ => inferInstance
      · exact .andThen fun _ => inferInstance

theorem related_dispatch (name : String) (args : List CellRef) {x y : Run CellRef} [Related ρ x y] :
    Related ρ (dispatch name args x) (dispatch name args y) := by
  have made (c : Context) (described : Option String) : Related ρ
      (do
        Run.changeMachine fun m => { m with activeCalls := m.activeCalls + 1 }
        conclude name c described (← Run.attempt x))
      (do
        Run.changeMachine fun m => { m with activeCalls := m.activeCalls + 1 }
        conclude name c described (← Run.attempt y)) :=
    .andThen fun _ => .attemptThen inferInstance fun _ => inferInstance
  refine .andThen fun c => .andThen fun active => ?_
  dsimp only
  split <;> split <;> infer_instance

theorem related_newContext (script : ScriptRef) :
    Related ρ (newContext script) (newContext script) :=
  .of_broad fun _ => rfl

/-- Relations that hold whatever computations look at are carried. -/
instance : ρ.IsCarried where
  dispatch name args _ := related_dispatch name args
  detached s _ := .seq (related_newContext s) fun _ => inferInstance
  verdict := related_verdictOf
  diagnose {f name m} s s' args h _ :=
    have : Related ρ (evaluate s name args f) (evaluate s' name args f) :=
      related_diagnostic name args h
    (related_dispatch name args).holds m

end Broad

end Eval

end CellScript
