import CellScript.Proofs.Chronicle.Depth
import CellScript.Proofs.Engine.Reachable

/-!
# The depth of calls in engines

Between requests no call is in progress in an engine, and during a request there are never more than
its configuration allows.

## Main definitions

* `Engine.Hosted` — what an engine comes to whose host leaves the count of calls alone.
* `Engine.Idle` — a machine between requests.
* `Engine.Bounded` — the calls of a computation that begins in such a machine.

## Main statements

* `Engine.Hosted.idle` — no call is in progress between requests.
* `Engine.Hosted.calls_bounded` — calls during requests.
-/

namespace CellScript

namespace Engine

/-- What an engine comes to that loads programs, runs and calls their scripts, and whose host
changes all else that it may change, but neither how many calls are in progress nor how many there
may be. -/
inductive Hosted : Engine → Prop
  | create (config : EngineConfig) (console : Console) (system : System) :
    Hosted (.create config console system)
  | withSharedGlobals {e : Engine} : Hosted e → Hosted e.withSharedGlobals
  | withProbes {e : Engine} : Hosted e → Hosted e.withProbes
  | load {e : Engine} {p : Program} : Hosted e → Hosted (Engine.load p e).2
  | serve {e : Engine} {n : Nat} {s : ScriptRef} {request : Request} : Hosted e →
    (request.serve (Eval.reentry n) s e.machine).1 ≠ .error .exhausted →
    Hosted (perform (request.serve (Eval.reentry n) s) e).2
  /-- the host calls a function itself -/
  | invoke {e : Engine} {n : Nat} {f : FunctionRef} {message : Option String}
    {args : List CellRef} : Hosted e →
    (Eval.invoke (Eval.reentry n) f message args e.machine).1 ≠ .error .exhausted →
    Hosted (perform (Eval.invoke (Eval.reentry n) f message args) e).2
  | undefine {e : Engine} {s : ScriptRef} {function : String} :
    Hosted e → Hosted (Engine.undefine s function e).2
  | publish {e : Engine} {s : ScriptRef} {function : String} :
    Hosted e → Hosted (Engine.publish s function e).2
  | host {e : Engine} {m : Machine} : Hosted e → m.activeCalls = e.machine.activeCalls →
    m.context.maxDepth = e.machine.context.maxDepth →
    m.limits = e.machine.limits →
    Hosted { e with machine := m }

/-- No call is in progress, and all scripts allow as many calls as one another. -/
structure Idle (most : Nat) (m : Machine) : Prop where
  calls : m.activeCalls = 0
  here : m.context.maxDepth ≤ most
  scripts : ∀ limit ∈ m.limits, limit = most

namespace Idle

variable {most : Nat} {m m' : Machine}

/-- Machines that have as many calls in progress and allow as many. -/
theorem of_same (idle : Idle most m) (calls : m'.activeCalls = m.activeCalls)
    (here : m'.context.maxDepth = m.context.maxDepth) (limits : m'.limits = m.limits) :
    Idle most m' :=
  ⟨calls.trans idle.calls, here.trans_le idle.here, limits ▸ idle.scripts⟩

/-- What is computed leaves no call in progress. -/
theorem after {α : Type} {h : List Event} {ended : Except Stop α × Machine} (idle : Idle most m)
    (tallies : m.Tallies h ended) (ends : ended.1 ≠ .error .exhausted) : Idle most ended.2 :=
  idle.of_same (tallies.closed ends).2 (tallies.here ends).2 tallies.limits

/-- A script allows as many calls as all others, or none if it does not exist. -/
theorem script (idle : Idle most m) (s : ScriptRef) :
    (m.scripts.getD s.index default).config.maxCallDepth = if s.index < m.scripts.size then most
      else 0 := by
  by_cases known : s.index < m.scripts.size
  · rw [if_pos known]
    refine idle.scripts _ (Array.mem_map.mpr ⟨_, ?_, rfl⟩)
    simp [Array.getD_eq_getD_getElem?, known]
  · rw [if_neg known, Machine.getD_missing known]
    rfl

/-- One more script, of which the definitions are bound. -/
theorem install (idle : Idle most m) {script : Script}
    (allows : script.config.maxCallDepth = most) :
    Idle most (Eval.install script m).2 := by
  let bound : Run Unit :=
    Eval.newContext ⟨m.scripts.size⟩ >>= (Eval.within · (Eval.hoist script.main.steps))
  have added : Idle most { m with scripts := m.scripts.push script } := by
    refine ⟨idle.calls, idle.here, fun limit among => ?_⟩
    simp only [Machine.limits, Array.map_push, Array.mem_push] at among
    obtain among | rfl := among
    · exact idle.scripts limit among
    · exact allows
  have installed : Eval.install script m =
      (bound >>= fun _ => pure ⟨m.scripts.size⟩) { m with scripts := m.scripts.push script } := by
    simp only [bound, bind_assoc]
    rfl
  have related : Run.Related Run.chronicled bound bound :=
    Run.Relation.IsCarried.detached _ (Eval.related_hoist script.main.steps)
  obtain ⟨h, chronicles⟩ := related.holds { m with scripts := m.scripts.push script }
  have ends : (bound { m with scripts := m.scripts.push script }).1 ≠ .error .exhausted := by
    simp only [bound]
    rw [Run.newContext_within, Run.within_eq, Run.leaving_fst]
    obtain ⟨_, _, run⟩ := Eval.total_hoist script.main.steps
      (({ m with scripts := m.scripts.push script } : Machine).entered ⟨m.scripts.size⟩)
    exact fun same => nomatch (congrArg Prod.fst run).symm.trans same
  have after := added.after chronicles.tallies ends
  rw [installed, Run.bind_run]
  revert after
  rcases bound { m with scripts := m.scripts.push script } with ⟨_ | _, _⟩ <;> exact id

end Idle

/-- Loading a program. -/
theorem idle_load {e : Engine} (idle : Idle e.config.maxCallDepth e.machine) (p : Program) :
    Idle e.config.maxCallDepth (Engine.load p e).2.machine := by
  obtain ⟨globals, m, made, same⟩ : ∃ globals m, e.globalsFor e.machine = (.ok globals, m) ∧
      m = { e.machine with heap := m.heap } := by
    unfold globalsFor
    cases e.globals with
    | some vars => exact ⟨_, _, rfl, rfl⟩
    | none => exact ⟨_, _, rfl, rfl⟩
  have added : Idle e.config.maxCallDepth m := by
    rw [same]
    exact idle.of_same rfl rfl rfl
  change Idle _ ((e.globalsFor >>= fun globals => Eval.install (e.scriptOf p globals)) e.machine).2
  rw [Run.bind_of_ok made]
  exact added.install rfl

theorem config_publish (e : Engine) (s : ScriptRef) (function : String) :
    (Engine.publish s function e).2.config = e.config := by
  change ((Engine.publish s function).run e).2.config = _
  cases known : (e.script s).environment.functions.get? function <;>
  · simp only [Engine.publish, StateT.run_bind, StateT.run_get, pure_bind, known]
    rfl

/-- Between requests no call is in progress, and scripts allow what the configuration says. -/
theorem Hosted.idle {e : Engine} (hosted : Hosted e) : Idle e.config.maxCallDepth e.machine := by
  induction hosted with
  | create config console system =>
    exact ⟨rfl, Nat.zero_le _, fun limit among => by simp [Engine.create, Machine.limits] at among⟩
  | withSharedGlobals _ idle => exact idle.of_same rfl rfl rfl
  | withProbes _ idle => exact idle
  | @load _ p _ idle => exact idle_load idle p
  | @serve e n s request _ ends idle =>
    obtain ⟨h, chronicles⟩ := request.chronicle n s e.machine
    exact idle.after chronicles.tallies ends
  | @invoke e n f message args _ ends idle =>
    obtain ⟨h, chronicles⟩ := Eval.chronicle_invoke n f message args e.machine
    exact idle.after chronicles.tallies ends
  | @undefine e s _ _ idle =>
    exact idle.of_same rfl rfl (e.machine.limits_modify s.index fun _ => rfl)
  | @publish e s function _ idle =>
    rw [config_publish, (publish_run e s function).1]
    exact idle
  | host _ calls here limits idle => exact idle.of_same calls here limits

/-- The calls of a computation that begins while none is in progress. -/
structure Bounded (most : Nat) (x : Run CellRef) (m : Machine) (h : List Event) : Prop where
  chronicles : x.Chronicles m h
  /-- there are never more calls in progress -/
  bound : ∀ p, p <+: h → ∃ inside, openCalls [] p = some inside ∧ inside.length ≤ most
  /-- a call is refused where there is no room for it, and only there -/
  fits : Fits 0 h
  limit : ∀ e ∈ h, ∀ c, e.tried? = some c → c.script.index < m.scripts.size → c.limit = most
  /-- when it has come to an end, so has each call that was entered -/
  closed : (x m).1 ≠ .error .exhausted → openCalls [] h = some [] ∧ (x m).2.activeCalls = 0

theorem Idle.bounded {most : Nat} {m : Machine} (idle : Idle most m) {x : Run CellRef}
    (granted : x.Granted m) :
    ∃ h, Bounded most x m h := by
  obtain ⟨h, chronicles, grants⟩ := granted
  have tallies := chronicles.tallies
  obtain ⟨inside, opened, -⟩ := tallies.opened
  have limits (c : Call) : (m.scripts.getD c.script.index default).config.maxCallDepth ≤ most := by
    rw [idle.script c.script]
    split <;> omega
  have fits : Fits 0 h := idle.calls ▸ tallies.fits
  refine ⟨h, chronicles, fun p part => ?_, fits, fun e happens c tried known => ?_, fun ends => ?_⟩
  · have bound :=
      fits.bound opened (Nat.zero_le most)
        (fun e happens c tried => grants e happens c tried ▸ limits c) part
    simpa using bound
  · rw [grants e happens c tried, idle.script c.script, if_pos known]
  · obtain ⟨closed, calls⟩ := tallies.closed ends
    exact ⟨closed, calls.trans idle.calls⟩

/-- The depth of calls is bounded, and calls give back what they take. Whatever a host has done with
an engine so far, no call is in progress when it runs or calls a script, or calls a function itself.
While that goes on there are never more calls in progress than the configuration allows, in all
contexts together: of functions and closures, inline blocks, targets of `callcc`, generators, calls
back from host code and policies of maps. A call is refused when there is no room for it, and only
then. It fails then with a fault at run time, whatever it would have run, and the machine stays as
it is. When the request has come to its end, in any way, no call is in progress; and so it is with
every call in it, which leaves as many calls in progress as it has found. -/
theorem Hosted.calls_bounded {e : Engine} (hosted : Hosted e) (n : Nat) :
    (∀ s request, ∃ h, Bounded e.config.maxCallDepth (Request.serve (Eval.reentry n) s request)
      e.machine h) ∧
    (∀ f message args, ∃ h, Bounded e.config.maxCallDepth
      (Eval.invoke (Eval.reentry n) f message args) e.machine h) ∧
    (∀ name args (x : Run CellRef) (m : Machine), m.context.maxDepth ≤ m.activeCalls →
      Eval.dispatch name args x m =
        (.error (.fault (.runtime (.callDepth m.context.maxDepth))), m)) ∧
    ∀ name args (x : Run CellRef) m h, (Eval.dispatch name args x).Chronicles m h →
      (Eval.dispatch name args x m).1 ≠ .error .exhausted →
      (Eval.dispatch name args x m).2.activeCalls = m.activeCalls := by
  have idle := hosted.idle
  refine ⟨fun s request => ?_, fun f message args => ?_,
    fun name args x m => Eval.dispatch_refused name args x, fun name args x m h chronicles ends =>
      (chronicles.tallies.closed ends).2⟩
  · exact idle.bounded (request.granted n s e.machine)
  · exact idle.bounded (Eval.granted_invoke n f message args e.machine)

/-- A function that calls itself without end. -/
def endless : Body :=
  .mk none 1
    [.define "&f" (.mk none 2 [.flow .return (some (.call "&f" []))]) false,
      .flow .return (some (.call "&f" []))]

/-- An engine that has loaded it and allows two calls. -/
def endlessEngine : Engine :=
  (Engine.load (.ofBlock "main" endless.build)
    (.create { EngineConfig.standard with maxCallDepth := 2 } (.ofInput []))).2

/-- A run in which a call is refused. -/
theorem Hosted.calls_bounded_endless :
    let ended := Request.run.serve (Eval.reentry 20) ⟨0⟩ endlessEngine.machine
    Hosted endlessEngine ∧ (ended.2.logs.getD 0 []).any
      (·.message = "stack overflow: call depth exceeded 2") ∧
      ∃ h, Bounded 2 (Request.run.serve (Eval.reentry 20) ⟨0⟩) endlessEngine.machine h ∧
        openCalls [] h = some [] ∧
        ended.2.activeCalls = 0 := by
  intro ended
  have hosted : Hosted endlessEngine := .load (.create _ _ _)
  have most : endlessEngine.config.maxCallDepth = 2 := by decide +kernel
  have run :
      ended.1.isOk ∧ (ended.2.logs.getD 0 []).any
        (·.message = "stack overflow: call depth exceeded 2") := by
    decide +kernel
  subst ended
  generalize endlessEngine = e at hosted most run ⊢
  obtain ⟨h, bounded⟩ := (Hosted.calls_bounded hosted 20).1 ⟨0⟩ .run
  rw [most] at bounded
  have closed := bounded.closed fun exhausted => by
    rw [exhausted] at run
    cases run.1
  exact ⟨hosted, run.2, h, bounded, closed⟩

end Engine

end CellScript
