import CellScript.Proofs.Eval.Dispatch
import CellScript.Proofs.Eval.Hook
import CellScript.Proofs.Eval.Plain
import CellScript.Proofs.Scope.Level

/-!
# Guarded evaluators

Whatever is computed in a call keeps to the level of the call. To say this of every moment, an
evaluator is guarded: it stops where a block, a step or a call begins and something is so. What
plain operations keep, and what is kept or stopped where levels are entered and left, is kept by
everything that the evaluator does unless it is stopped.

## Main definitions

* `Eval.stopping` — evaluators that stop where blocks, steps and calls begin.
* `Guard` — something that is kept unless an evaluator is stopped.
* `Run.guarded` — this as a relation between an evaluator and the one that is stopped.

## Main statements

* `Eval.whole_guarded` — everything that the evaluator does is guarded.
-/

namespace CellScript

open Run (Related)

/-- What looking at the fault of a computation makes of what it comes to. -/
def Run.looked {α : Type} : Except Stop α × Machine → Except Stop (Except Fault α) × Machine
  | (.ok a, m) => (.ok (.ok a), m)
  | (.error (.fault f), m) => (.ok (.error f), m)
  | (.error .exhausted, m) => (.error .exhausted, m)

namespace Eval

open Classical in
/-- Be stopped where something is so. -/
noncomputable def stopIf {α : Type} (stop : Machine → Prop) (x : Run α) : Run α :=
  fun m => if stop m then (.error .exhausted, m) else x m

/-- Blocks, steps and calls are stopped where something is so, which may depend on the block that
begins. -/
noncomputable def stopping (stop : Option Block → Machine → Prop) : Hook where
  block b _ := stopIf (stop (some b))
  step _ _ := stopIf (stop none)
  call := stopIf (stop none)
  invoke := stopIf (stop none)

theorem stopIf_of {α : Type} {stop : Machine → Prop} {m : Machine} (x : Run α) (h : stop m) :
    stopIf stop x m = (.error .exhausted, m) := if_pos h

theorem stopIf_of_not {α : Type} {stop : Machine → Prop} {m : Machine} (x : Run α) (h : ¬ stop m) :
    stopIf stop x m = x m := if_neg h

end Eval

/-- Something that computations keep, or they are stopped. -/
structure Guard where
  /-- what is kept -/
  ok : Machine → Prop
  /-- where blocks, steps and calls are stopped -/
  stop : Option Block → Machine → Prop
  /-- whether anything is stopped -/
  lax : Prop
  strict : ∀ {b m}, ok m → stop b m → lax
  shifts : ∀ {m m'}, ok m → m.Shifts m' → ok m'
  settles : ∀ {m : Machine}, ok m → ok { m with context := m.context.settleTrace }
  body : ∀ {f c m m₁}, m.heap.closure? f = some c → ok m → m.Enters f m₁ → lax ∧
    stop (some c.body) m₁ ∨
    ok m₁ ∧ ∀ m₂ m', ok m₂ → m₂.Exits f m' → m.Frames m' → ok m'
  entered : ∀ {s m}, ok m → ok (m.entered s)
  back : ∀ {m m₁ : Machine}, ok m → ok m₁ → m.Frames { m₁ with context := m.context } →
    ok { m₁ with context := m.context }

namespace Guard

variable {α β : Type} {G : Guard} {m m₁ : Machine}

/-- What an evaluator comes to, and what it comes to when it is stopped: outer levels are framed,
and what the guard keeps is kept unless the evaluator is stopped. -/
structure Covers (G : Guard) (m : Machine) (e e' : Except Stop α × Machine) : Prop where
  frames : e.1 ≠ .error .exhausted → m.Frames e.2
  guarded : G.ok m → G.lax ∧ e'.1 = .error .exhausted ∨ e' = e ∧
    (e.1 ≠ .error .exhausted → G.ok e.2)

namespace Covers

variable {e e' : Except Stop α × Machine} {x y : Run α}

theorem of_shifts (h : m.Shifts e.2) : G.Covers m e e :=
  ⟨fun _ => h.toFrames, fun ok => .inr ⟨rfl, fun _ => G.shifts ok h⟩⟩

/-- Going on from another machine. -/
theorem after (first : m.Frames m₁) (kept : G.ok m → G.ok m₁) (h : G.Covers m₁ e e') :
    G.Covers m e e' :=
  ⟨fun ends => first.trans (h.frames ends), fun ok => h.guarded (kept ok)⟩

theorem afterShifts (first : m.Shifts m₁) (h : G.Covers m₁ e e') : G.Covers m e e' :=
  h.after first.toFrames fun ok => G.shifts ok first

/-- What is computed on a visit somewhere else. -/
theorem visit {K : Except Stop α × Machine → Except Stop β × Machine} (inside : G.Covers m₁ e e')
    (dry : ∀ e, e.1 = .error .exhausted → (K e).1 = .error .exhausted)
    (frames : e.1 ≠ .error .exhausted → m₁.Frames e.2 → m.Frames (K e).2)
    (enters : G.ok m → G.lax ∧ e'.1 = .error .exhausted ∨ G.ok m₁ ∧
      (e.1 ≠ .error .exhausted → G.ok e.2 → m.Frames (K e).2 → G.ok (K e).2)) :
    G.Covers m (K e) (K e') := by
  have framed (ends : (K e).1 ≠ .error .exhausted) : m.Frames (K e).2 :=
    frames (mt (dry e) ends) (inside.frames (mt (dry e) ends))
  refine ⟨framed, fun ok => ?_⟩
  rcases enters ok with ⟨lax, stopped⟩ | ⟨ok₁, back⟩
  · exact .inl ⟨lax, dry e' stopped⟩
  · rcases inside.guarded ok₁ with ⟨lax, stopped⟩ | ⟨same, ok₂⟩
    · exact .inl ⟨lax, dry e' stopped⟩
    · exact .inr ⟨by rw [same], fun ends => back (mt (dry e) ends) (ok₂ (mt (dry e) ends))
        (framed ends)⟩

theorem bind {f g : α → Run β} (h : G.Covers m (x m) (y m))
    (next : ∀ a m', x m = (.ok a, m') → G.Covers m' (f a m') (g a m')) :
    G.Covers m ((x >>= f) m) ((y >>= g) m) := by
  have stops (stopped : (y m).1 = .error .exhausted) : ((y >>= g) m).1 = .error .exhausted := by
    rw [Run.bind_run]
    generalize y m = e at stopped
    obtain ⟨r, m'⟩ := e
    cases stopped
    rfl
  have same (eq : y m = x m) : (y >>= g) m = (x >>= g) m := by rw [Run.bind_run, Run.bind_run, eq]
  rcases run : x m with ⟨stop | a, m₁⟩
  · have onward (f : α → Run β) : (x >>= f) m = (.error stop, m₁) := by rw [Run.bind_run, run]
    rw [onward f]
    refine ⟨fun ends => ?_, fun ok => ?_⟩
    · have framed := h.frames
      rw [run] at framed
      exact framed fun dry => ends (by cases dry; rfl)
    · rcases h.guarded ok with ⟨lax, stopped⟩ | ⟨eq, ok₁⟩
      · exact .inl ⟨lax, stops stopped⟩
      · rw [run] at ok₁
        exact .inr ⟨(same eq).trans (onward g), fun ends => ok₁ fun dry => ends (by cases dry; rfl)⟩
  · have onward (f : α → Run β) : (x >>= f) m = f a m₁ := by rw [Run.bind_run, run]
    have after := next a m₁ run
    rw [onward f]
    refine ⟨fun ends => ?_, fun ok => ?_⟩
    · have framed := h.frames
      rw [run] at framed
      exact (framed nofun).trans (after.frames ends)
    · rcases h.guarded ok with ⟨lax, stopped⟩ | ⟨eq, ok₁⟩
      · exact .inl ⟨lax, stops stopped⟩
      · rw [run] at ok₁
        rw [same eq, onward g]
        exact after.guarded (ok₁ nofun)

/-- Looking at the fault of a computation. -/
theorem attempt (h : G.Covers m (x m) (y m)) : G.Covers m (Run.attempt x m) (Run.attempt y m) := by
  refine visit (K := Run.looked) h (fun e stopped => ?_) (fun ends framed => ?_)
    fun ok => .inr ⟨ok, fun ends ok₁ _ => ?_⟩
  · rcases e with ⟨(_ | _) | _, _⟩ <;> first | rfl | cases stopped
  · generalize x m = e at ends framed
    rcases e with ⟨(_ | _) | _, _⟩ <;> exact framed
  · generalize x m = e at ends ok₁
    rcases e with ⟨(_ | _) | _, _⟩ <;> exact ok₁

theorem attemptThen {f g : Except Fault α → Run β} (h : G.Covers m (x m) (y m))
    (next : ∀ r m', Run.attempt x m = (.ok r, m') → G.Covers m' (f r m') (g r m')) :
    G.Covers m ((Run.attempt x >>= f) m) ((Run.attempt y >>= g) m) :=
  h.attempt.bind next

end Covers

/-- An evaluator that stops at blocks where the guard says so. -/
class Stops (G : Guard) (s : Reentry) : Prop where
  block : ∀ b resume m, G.stop (some b) m → (s.block b resume m).1 = .error .exhausted

end Guard

namespace Run

variable {α β : Type} {G : Guard} {x y : Run α}

/-- An evaluator, and the evaluator that is stopped. -/
def guarded (G : Guard) : Relation :=
  .plain (fun x y m => G.Covers m (x m) (y m)) (fun _ serves _ => .of_shifts serves.stays.shifts)
    fun h next => h.bind next

instance : (guarded G).IsSighted where
  serves serves _ := .of_shifts serves.stays.shifts

instance : (guarded G).IsRecording where
  throwText {description text m} :=
    .of_shifts (Host.serves_throwText description text m).stays.shifts

instance : (guarded G).IsLocal where
  keeps _ _ _ _ stays := .of_shifts stays.shifts
  attempt h _ next := h.attemptThen next

instance : (guarded G).IsAttentive where
  attempt h _ next := h.attemptThen next

instance : (guarded G).IsScoped where
  popLocal :=
    ⟨fun _ => .of_shifts (.narrow rfl rfl (fun _ => ⟨rfl, rfl⟩) ScopeLevel.locals_pop_sublist)⟩
  verdict := Eval.related_verdictOf

instance (x y : Run α) [h : Related (guarded G) x y] :
    Related (guarded G) (Run.attempt x) (Run.attempt y) :=
  ⟨fun m => (h.holds m).attempt⟩

end Run

namespace Eval

open Run (guarded)

variable {G : Guard} {m : Machine} {s s' : Reentry} {f : FunctionRef} {c : Closure}

/-! ## Calls -/

theorem stays_conclude (name : String) (c : Context) (described : Option String)
    (r : Except Fault CellRef) (m : Machine) : m.Stays (conclude name c described r m).2 := by
  obtain ⟨logs, run⟩ := conclude_run name c described r m
  rw [run]
  refine .of_code ?_ ?_ (.of_vars rfl) rfl fun i => ?_
  · cases r with
    | ok value => rfl
    | error f =>
      cases fatal : f.isFatal <;> simp [Machine.concluded, Context.concluded, fatal] <;> rfl
  · cases r with
    | ok value => rfl
    | error f =>
      cases fatal : f.isFatal <;> simp [Machine.concluded, Context.concluded, fatal] <;> rfl
  · unfold Machine.concluded
    split
    · rcases Machine.getD_modify m.scripts m.context.script.index i (·.counted name c) with
        same | changed
      · exact congrArg Script.globals same
      · exact (congrArg Script.globals changed).trans rfl
    · rfl

/-- Inside of a call, which is counted. -/
def counted (m : Machine) : Machine :=
  { m with activeCalls := m.activeCalls + 1 }

theorem covers_dispatch {x y : Run CellRef} (name : String) (args : List CellRef)
    (h : G.Covers (counted m) (x (counted m)) (y (counted m))) :
    G.Covers m (dispatch name args x m) (dispatch name args y m) := by
  obtain ⟨described, called⟩ := dispatch_run name args m
  rw [called x, called y]
  split
  · exact .of_shifts (Machine.Stays.refl m).shifts
  · have begun : m.Stays (counted m) := .of_code
    refine .afterShifts begun.shifts ?_
    exact h.attemptThen fun r m' _ =>
      .of_shifts (stays_conclude name m.context described r m').shifts

/-- What is computed in a context of its own, from where it begins. -/
theorem detached_run {α : Type} (script : ScriptRef) (x : Run α) (m : Machine) :
    (newContext script >>= (within · x)) m = Run.leaving m.context (x (m.entered script)) := by
  rw [Run.newContext_within, Run.within_eq]
  rfl

/-- A call in a context of its own. -/
theorem covers_detached {α : Type} {x y : Run α} (script : ScriptRef)
    (h : G.Covers (m.entered script) (x (m.entered script)) (y (m.entered script))) :
    G.Covers m ((newContext script >>= (within · x)) m)
      ((newContext script >>= (within · y)) m) := by
  rw [detached_run, detached_run]
  refine .visit (K := Run.leaving m.context) h
    (fun e stopped => (Run.leaving_fst _ e).trans stopped)
    (fun ends framed => ?_) fun ok => .inr ⟨G.entered ok, fun ends ok₁ framed => ?_⟩
  · generalize x (m.entered script) = e at ends framed
    rcases e with ⟨(_ | _) | _, m₁⟩
    · exact framed.back
    · exact absurd rfl ends
    · exact framed.back
  · generalize x (m.entered script) = e at ends ok₁ framed
    rcases e with ⟨(_ | _) | _, m₁⟩
    · exact G.back ok ok₁ framed
    · exact absurd rfl ends
    · exact G.back ok ok₁ framed

/-- What is computed if a script is loaded. -/
def ifLoaded (script : ScriptRef) (fault : Fault) (x : Run CellRef) : Run CellRef := do
  if !(← isLoaded script) then Run.fail fault
  x

theorem ifLoaded_run (script : ScriptRef) (fault : Fault) (x : Run CellRef) (m : Machine) :
    ifLoaded script fault x m =
      if (m.scripts.getD script.index default).loaded then x m else (.error (.fault fault), m) := by
  rw [ifLoaded, Run.bind_run, isLoaded, Run.ask_run]
  cases (m.scripts.getD script.index default).loaded <;> rfl

theorem covers_ifLoaded {x y : Run CellRef} (script : ScriptRef) (fault : Fault)
    (h : G.Covers m (x m) (y m)) :
    G.Covers m (ifLoaded script fault x m) (ifLoaded script fault y m) := by
  rw [ifLoaded_run, ifLoaded_run]
  split
  · exact h
  · exact .of_shifts (Machine.Stays.refl m).shifts

section Calls

variable [Reentry.Whole (guarded G) s s']

instance (f : FunctionRef) (outcome : Outcome) :
    Related (guarded G) (closeCall s f outcome) (closeCall s' f outcome) := by
  cases outcome with
  | value cell => unfold closeCall; infer_instance
  | callcc target =>
    refine .andThen fun _ => .andThen fun me => ?_
    exact .passThen ⟨fun _ _ => ⟨_, rfl, rfl, rfl, rfl⟩⟩ fun _ => inferInstance

variable [G.Stops s']

theorem covers_runBody (m : Machine) (found : m.heap.closure? f = some c) (message : Option String)
    (args : List CellRef) :
    G.Covers m (runBody s f c message args m) (runBody s' f c message args m) := by
  obtain ⟨level, cursor, iterators, h, entered, entry⟩ := entryOf_run f c m
  have enters := enters_inBody found entry message args iterators
  rw [runBody_run entered, runBody_run entered]
  generalize inBody f c message args level iterators { m with heap := h } = m₁ at enters
  have inside : G.Covers m₁ (s.block c.body cursor m₁) (s'.block c.body cursor m₁) :=
    (Reentry.Whole.block (ρ := guarded G) c.body cursor).holds m₁
  have ended {e : Except Stop Flow × Machine} (ends : e.1 ≠ .error .exhausted) : e.2.Exits f
      (proceed (leaveBody f c.source { m with heap := h }.context.iterators.length) e).2 := by
    rcases e with ⟨(fault | _) | flow, m₂⟩
    · obtain ⟨_, _, run, -, exits⟩ :=
          leaveBody_run f c.source m.context.iterators.length (.error fault) m₂
      simpa only [proceed, run] using exits
    · exact absurd rfl ends
    · obtain ⟨_, _, run, -, exits⟩ :=
          leaveBody_run f c.source m.context.iterators.length (.ok flow) m₂
      simpa only [proceed, run] using exits
  refine .visit inside (fun e stopped => ?_) (fun ends framed => enters.frames framed (ended ends))
    fun ok => ?_
  · obtain ⟨r, m₂⟩ := e
    cases stopped
    rfl
  · rcases G.body found ok enters with ⟨lax, stopped⟩ | ⟨ok₁, back⟩
    · exact .inl ⟨lax, Guard.Stops.block c.body cursor m₁ stopped⟩
    · exact .inr ⟨ok₁, fun ends ok₂ => back _ _ ok₂ (ended ends)⟩

theorem covers_runClosure (m : Machine) (found : m.heap.closure? f = some c)
    (message : Option String) (args : List CellRef) :
    G.Covers m (runClosure s f c message args m) (runClosure s' f c message args m) :=
  .bind (covers_runBody m found message args) fun outcome m' _ =>
    Related.holds (ρ := guarded G) (x := closeCall s f outcome) (y := closeCall s' f outcome) m'

theorem covers_callDetached (m : Machine) (found : m.heap.closure? f = some c)
    (message : Option String) (args : List CellRef) :
    G.Covers m (callDetached s f c message args m) (callDetached s' f c message args m) := by
  have inside : (counted (m.entered c.owner)).heap.closure? f = some c := found
  exact covers_ifLoaded c.owner _
    (covers_detached c.owner
      (covers_dispatch c.describe args (covers_runClosure _ inside message args)))

end Calls

/-! ## Inline blocks -/

/-- What is done when an inline block has ended. -/
def inlineEnd (name : String) (depth : Nat) (r : Except Fault Flow) : Run CellRef := do
  let _ ← Run.killFrame
  Run.changeContext fun c => { c with scope := c.scope.truncateLocals depth }
  match r with
  | .error f => Run.fail f
  | .ok (.return value) => return value
  | .ok (.throw value) => Run.fail (.thrown value)
  | .ok flow => if flow.suspends then Run.fail (.runtime (.suspendedInline name)) else HeapM.null

/-- An inline block begins with a new container on the level of the caller. -/
theorem runInline_run (name : String) (block : Block) (args : List CellRef) (m : Machine) :
    ∃ m₁, m.Shifts m₁ ∧
    m₁.context.scope = m.context.scope.pushLocal m.heap.newVars.1 ∧
      ∀ self : Reentry, runInline self name block args m =
        (Run.attempt (self.block block none) >>= inlineEnd name m.context.scope.localDepth) m₁ := by
  obtain ⟨_, h, bound⟩ := total_bindArguments m.heap.newVars.1 none args m.heap.newVars.2
  have named : m.heap.newVars.2.KeepsBut (some m.heap.newVars.1) h := by
    have vars :=
      @HeapM.CalmBut.vars _ (some m.heap.newVars.1) (bindArguments m.heap.newVars.1 none args)
        inferInstance m.heap.newVars.2
    rwa [bound] at vars
  have functions : h.functions = m.heap.functions := by
    have same :=
      @HeapM.CalmBut.functions _ (some m.heap.newVars.1) (bindArguments m.heap.newVars.1 none args)
        inferInstance m.heap.newVars.2
    rwa [bound] at same
  have kept := (m.heap.keepsBut_newVars none).fresh named (Nat.le_refl _)
  have grown : m.heap.vars.size < m.heap.newVars.2.vars.size := by simp [Heap.newVars]
  refine ⟨{ m with
    heap := h, context :=
      { m.context with scope := m.context.scope.pushLocal m.heap.newVars.1 }.createFrame },
    .pushLocal rfl rfl ⟨Nat.le_refl _, Nat.lt_of_lt_of_le grown named.1⟩ kept functions,
    rfl, fun self => ?_⟩
  change (liftM (bindArguments m.heap.newVars.1 none args) >>= _ : Run _)
    { m with heap := m.heap.newVars.2 } = _
  rw [Run.bind_run, Run.liftM_heap, Run.onHeap_run, bound]
  rfl

section Calls

variable [Reentry.Whole (guarded G) s s']

theorem guarded_runInline (name : String) (block : Block) (args : List CellRef) :
    Related (guarded G) (runInline s name block args) (runInline s' name block args) := by
  refine ⟨fun m => ?_⟩
  obtain ⟨m₁, shifts, -, run⟩ := runInline_run name block args m
  have cut : Related (guarded G)
      (Run.changeContext fun c =>
        { c with scope := c.scope.truncateLocals m.context.scope.localDepth })
      (Run.changeContext fun c =>
        { c with scope := c.scope.truncateLocals m.context.scope.localDepth }) :=
    ⟨fun _ => .of_shifts (.narrow (g := (·.truncate m.context.scope.localDepth)) rfl rfl
      (fun _ => ⟨rfl, rfl⟩)
      (ScopeLevel.locals_truncate_sublist · _))⟩
  have ends (r : Except Fault Flow) :
      Related (guarded G) (inlineEnd name m.context.scope.localDepth r)
      (inlineEnd name m.context.scope.localDepth r) := by
    refine .andThen fun _ => .seq cut fun _ => ?_
    split <;> infer_instance
  change G.Covers m (runInline s name block args m) (runInline s' name block args m)
  rw [run, run]
  refine .afterShifts shifts (.attemptThen ?_ fun r m' _ => (ends r).holds m')
  exact (Reentry.Whole.block (ρ := guarded G) block none).holds m₁

/-! ## Functions -/

variable [G.Stops s']

theorem guarded_evaluate (name : String) (args : List CellRef) (function : Function) :
    Related (guarded G) (evaluate s name args function) (evaluate s' name args function) := by
  by_cases diagnostic : function.isDiagnostic
  · exact related_diagnostic name args diagnostic
  · induction function with
    | library f =>
      unfold evaluate
      exact Library.related_call args f fun settles => absurd settles diagnostic
    | probe f =>
      unfold evaluate
      infer_instance
    | bound f =>
      refine .flow fun m _ _ asked => ?_
      cases asked
      dsimp only
      cases found : m.heap.closure? f with
      | none => exact Related.holds m
      | some c =>
        refine (guarded G).bind (Related.holds (ρ := guarded G) (x := ownClosure? f)
          (y := ownClosure? f) m)
          fun own _ asked => ?_
        cases asked
        split
        · exact covers_runClosure _ found none args
        · exact covers_callDetached _ found none args
    | guarded policy inner ih =>
      have := ih diagnostic
      cases policy <;> unfold evaluate <;> infer_instance

theorem guarded_callFunction (name : String) (args : List CellRef) :
    Related (guarded G) (callFunction s name args) (callFunction s' name args) := by
  refine .atScript fun m => ?_
  dsimp only
  split
  · exact covers_dispatch name args ((guarded_evaluate name args _).holds _)
  · split
    · exact covers_dispatch name args ((guarded_runInline name _ args).holds _)
    · exact Related.holds m

theorem guarded_invoke (f : FunctionRef) (message : Option String) (args : List CellRef) :
    Related (guarded G) (invoke s f message args) (invoke s' f message args) := by
  refine .flow fun m _ _ asked => ?_
  cases asked
  dsimp only
  cases called : m.heap.callable f with
  | closure c =>
    have found : m.heap.closure? f = some c := by simp [Heap.closure?, called]
    exact covers_callDetached _ found message args
  | named name owner =>
    exact covers_ifLoaded owner _ (covers_detached owner ((guarded_callFunction name args).holds _))
  | host _ does => exact Related.holds m

theorem guarded_callValue (target : CellRef) (message : Option String) (args : List CellRef) :
    Related (guarded G) (callValue s target message args) (callValue s' target message args) := by
  refine .andThen fun content => ?_
  split
  · rename_i f
    refine .andThen fun script => .flow fun m _ _ asked => ?_
    cases asked
    dsimp only
    cases called : m.heap.callable f with
    | closure c =>
      have found : m.heap.closure? f = some c := by simp [Heap.closure?, called]
      have inside : (counted m).heap.closure? f = some c := found
      dsimp only
      split
      · exact covers_dispatch c.describe args (covers_runClosure _ inside message args)
      · exact covers_callDetached _ found message args
    | named name owner =>
      dsimp only
      split
      · exact (guarded_callFunction name args).holds m
      · exact (guarded_invoke f message args).holds m
    | host _ does => exact Related.holds m
  · have function (name : String) (args : List CellRef) :
        Related (guarded G) (callFunction s name args) (callFunction s' name args) :=
      guarded_callFunction name args
    infer_instance
  all_goals infer_instance

instance : Reentry.Functions (guarded G) s s' where
  function := guarded_callFunction
  value := guarded_callValue
  invoke := guarded_invoke

instance : Reentry.Handlers (guarded G) s s' where
  catchThrow handler var value := by
    refine ⟨fun m => ?_⟩
    change G.Covers m (catchThrow s handler var value m) (catchThrow s' handler var value m)
    rw [catchThrow_run, catchThrow_run]
    have bound := m.heap.newVars.2.keepsBut_putVariable m.heap.newVars.1 var value
    have grown : m.heap.vars.size < m.heap.newVars.2.vars.size := by simp [Heap.newVars]
    have shifts :
        ({ m with context := m.context.settleTrace } : Machine).Shifts (caught var value m) :=
      .pushLocal rfl rfl ⟨Nat.le_refl _, Nat.lt_of_lt_of_le grown bound.1⟩
        ((m.heap.keepsBut_newVars none).fresh bound (Nat.le_refl _)) rfl
    refine .after m.frames_settleTrace G.settles (.afterShifts shifts ?_)
    exact Related.holds (ρ := guarded G) (x := runHandler s handler none)
      (y := runHandler s' handler none) _

end Calls

/-! ## Evaluators -/

theorem related_stopIf {α : Type} {x y : Run α} (b? : Option Block) (h : Related (guarded G) x y) :
    Related (guarded G) x (stopIf (G.stop b?) y) := by
  refine ⟨fun m => ?_⟩
  change G.Covers m (x m) (stopIf (G.stop b?) y m)
  by_cases stops : G.stop b? m
  · exact ⟨(h.holds m).frames,
      fun ok => .inl ⟨G.strict ok stops, congrArg Prod.fst (stopIf_of y stops)⟩⟩
  · rw [stopIf_of_not y stops]
    exact h.holds m

instance : Hook.none.Related (guarded G) (stopping G.stop) where
  block b _ := related_stopIf (some b)
  step _ _ := related_stopIf none
  call := related_stopIf none
  invoke := related_stopIf none
  callBack h := by
    refine .andThen fun result => ?_
    split <;> infer_instance

instance (n : Nat) : G.Stops (hooked (stopping G.stop) n) where
  block b resume m stopped := by
    cases n with
    | zero => rfl
    | succ n => exact congrArg Prod.fst (stopIf_of _ stopped)

/-- Everything that the evaluator does is guarded. -/
instance whole_guarded (n : Nat) :
    Reentry.Whole (guarded G) (reentry n) (hooked (stopping G.stop) n) := by
  rw [← hooked_none]
  exact whole_hooked_of (fun n _ => ⟨inferInstance, inferInstance⟩) n

end Eval

end CellScript
