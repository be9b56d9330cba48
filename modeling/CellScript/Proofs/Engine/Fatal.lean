import CellScript.Proofs.Engine.Run
import CellScript.Proofs.Eval.Hook

/-!
# Fatal faults end runs

When a fatal fault or a taint violation comes up in a run, nothing more is evaluated. To say so, the
run is compared with one that stops there: wherever a block, a step or a call ends with a fault of
the kind. What the plain run does from there on is to clean up, and to fail with a fault of the
kind.

## Main definitions

* `Fatality` — the kinds of faults that no script can catch.
* `Run.halt` — stop at a fault of a kind.
* `Run.FailsAt` — a computation fails where another one stops.
* `Run.failing` — this as a relation that evaluators pass on.

## Main statements

* `Engine.Request.fatal_ends_run` — runs fail where a fatal fault comes up.
-/

namespace CellScript

/-- The kinds of faults that no script can catch. -/
inductive Fatality where
  | fatal
  | taintViolation
  deriving DecidableEq, Repr

namespace Fatality

/-- A fault of the kind. -/
def fault : Fatality → String → Fault
  | .fatal => .fatal
  | .taintViolation => .taintViolation

/-- A fault of the kind in host code. -/
def hostFault : Fatality → String → HostFault
  | .fatal => .fatal
  | .taintViolation => .taintViolation

theorem isFatal_fault (kind : Fatality) (text : String) : (kind.fault text).isFatal := by
  cases kind <;> rfl

/-- A function that host code has called fails the host code in the same way. -/
theorem faultOf_fault (kind : Fatality) (text : String) (h : Heap) :
    ∃ text', Host.faultOf h (kind.fault text) = kind.hostFault text' := by
  cases kind
  · exact ⟨_, rfl⟩
  · exact ⟨text, rfl⟩

/-- A script fails as host code does that it has called. -/
theorem passesOn {α β : Type} (kind : Fatality) {k : Except HostFault α → Run β}
    (h : Host.PassesOn k) (text : String) :
    k (.error (kind.hostFault text)) = Run.fail (kind.fault text) := by
  cases kind
  · exact h.fatal text
  · exact h.taint text

/-- The text of a fault, when it is of the kind. -/
def text? : Fatality → Fault → Option String
  | .fatal, .fatal text => some text
  | .taintViolation, .taintViolation text => some text
  | _, _ => none

theorem text?_fault (kind : Fatality) (text : String) :
    kind.text? (kind.fault text) = some text := by
  cases kind <;> rfl

theorem eq_fault_of_text? {kind : Fatality} {f : Fault} {text : String}
    (h : kind.text? f = some text) :
    f = kind.fault text := by
  cases kind <;> cases f <;> cases h <;> rfl

end Fatality

namespace Run

variable {α β : Type}

/-- Stop where a fault of a kind comes up, and mark the machine. -/
def halt (kind : Fatality) (mark : Machine → Machine) (x : Run α) : Run α := fun m =>
  match x m with
  | (.error (.fault f), m') =>
    match kind.text? f with
    | some _ => (.error .exhausted, mark m')
    | none => (.error (.fault f), m')
  | ended => ended

/-- `x` fails with a fault of a kind where `y` stops and leaves its mark. Nothing but cleaning up
has been done since. Where `y` does not stop, it is the same as `x`; this can be told from the
mark. -/
def FailsAt (kind : Fatality) (x : Run α) (y : (Machine → Machine) → Run α) (m : Machine) : Prop :=
  (∀ mark, y mark m = x m) ∨
    ∃ text m₂, x m = (.error (.fault (kind.fault text)), m₂) ∧
      ∀ mark, ∃ m₁, y mark m = (.error .exhausted, mark m₁) ∧ m₁.Unmoved m₂

/-- The outcome of host code that has failed with a fault of a kind. -/
inductive HostFailed (kind : Fatality) : Except Stop (Except HostFault α) → Prop where
  | fault (text : String) : HostFailed kind (.error (.fault (kind.fault text)))
  | host (text : String) : HostFailed kind (.ok (.error (kind.hostFault text)))

variable {kind : Fatality} {mark : Machine → Machine}

/-- `x` fails with a fault of a kind where `y` stops with a mark, or they do the same. -/
def Failing (kind : Fatality) (mark : Machine → Machine) (x y : Run α) (m : Machine) : Prop :=
  x m = y m ∨ ∃ text m₁ m₂, y m = (.error .exhausted, mark m₁) ∧
  x m = (.error (.fault (kind.fault text)), m₂) ∧
    m₁.Unmoved m₂

/-- The same of host code, which may fail in its own way. -/
def HostFailing (kind : Fatality) (mark : Machine → Machine) (x y : HostRun α)
    (m : Machine) : Prop :=
  x m = y m ∨ ∃ r m₁ m₂, y m = (.error .exhausted, mark m₁) ∧ x m = (r, m₂) ∧ HostFailed kind r ∧
  m₁.Unmoved m₂

theorem Failing.bind {x y : Run α} {f g : α → Run β} {m : Machine} (h : Failing kind mark x y m)
    (next : ∀ a m', x m = (.ok a, m') → Failing kind mark (f a) (g a) m') :
    Failing kind mark (x >>= f) (y >>= g) m := by
  obtain same | ⟨text, m₁, m₂, stops, fails, unmoved⟩ := h
  · unfold Failing
    rw [bind_run, bind_run, ← same]
    cases run : x m with
    | mk r m' =>
      cases r with
      | ok a => exact next a m' run
      | error stop => exact .inl rfl
  · exact .inr ⟨text, m₁, m₂, by rw [bind_run, stops], by rw [bind_run, fails], unmoved⟩

/-- Where a fault of the kind is looked at, nothing is done about it. -/
theorem Failing.attempt {x y : Run α} {f g : Except Fault α → Run β} {m : Machine}
    (h : Failing kind mark x y m) (gives : GivesUp f)
    (next : ∀ r m', Run.attempt x m = (.ok r, m') → Failing kind mark (f r) (g r) m') :
    Failing kind mark (Run.attempt x >>= f) (Run.attempt y >>= g) m := by
  obtain same | ⟨text, m₁, m₂, stops, fails, unmoved⟩ := h
  · have attempted : Failing kind mark (Run.attempt x) (Run.attempt y) m :=
      .inl (by rw [attempt_run, attempt_run, same])
    exact attempted.bind next
  · obtain ⟨m₃, run, unmoved'⟩ := (gives.fails _ (kind.isFatal_fault text)).ends m₂
    refine .inr ⟨text, m₁, m₃, ?_, ?_, unmoved.trans unmoved'⟩
    · rw [bind_run, attempt_run, stops]
    · rw [bind_run, attempt_run, fails]
      exact run

theorem HostFailing.bind {x y : HostRun α} {f g : α → HostRun β} {m : Machine}
    (h : HostFailing kind mark x y m)
    (next : ∀ a m', x m = (.ok (.ok a), m') → HostFailing kind mark (f a) (g a) m') :
    HostFailing kind mark (x >>= f) (y >>= g) m := by
  unfold HostFailing
  rw [Host.bind_run, Host.bind_run]
  obtain same | ⟨r, m₁, m₂, stops, fails, failed, unmoved⟩ := h
  · rw [← same]
    cases run : x m with
    | mk r m' =>
      match r with
      | .ok (.ok a) => exact next a m' run
      | .ok (.error e) | .error stop => exact .inl rfl
  · rw [stops, fails]
    cases failed with
    | fault text => exact .inr ⟨_, m₁, m₂, rfl, rfl, .fault text, unmoved⟩
    | host text => exact .inr ⟨_, m₁, m₂, rfl, rfl, .host text, unmoved⟩

/-- What host code has failed with comes back to the script. -/
theorem HostFailing.ends {x y : HostRun α} {f g : Except HostFault α → Run β} {m : Machine}
    (h : HostFailing kind mark x y m) (passes : Host.PassesOn f)
    (next : ∀ r m', x m = (.ok r, m') → Failing kind mark (f r) (g r) m') :
    Failing kind mark (x.run >>= f) (y.run >>= g) m := by
  obtain same | ⟨r, m₁, m₂, stops, fails, failed, unmoved⟩ := h
  · exact Failing.bind (.inl same) next
  · have stopped : (y.run >>= g) m = (.error .exhausted, mark m₁) := by
      rw [bind_run, show y.run m = _ from stops]
    cases failed with
    | fault text =>
      exact .inr ⟨text, m₁, m₂, stopped, by rw [bind_run, show x.run m = _ from fails], unmoved⟩
    | host text =>
      refine .inr ⟨text, m₁, m₂, stopped, ?_, unmoved⟩
      rw [bind_run, show x.run m = _ from fails]
      dsimp only
      rw [kind.passesOn passes]
      rfl

/-- Where `y` stops at a fault, `x` fails. -/
def failing (kind : Fatality) (mark : Machine → Machine) : Relation where
  holds := Failing kind mark
  onHost := HostFailing kind mark
  serves _ _ _ := .inl rfl
  bind h next := h.bind next
  hostServes _ _ _ := .inl rfl
  hostRun {α x y m} h := by
    unfold HostFailing
    rw [Host.run_run, Host.run_run]
    obtain same | ⟨text, m₁, m₂, stops, fails, unmoved⟩ := h
    · exact .inl (by rw [same])
    · exact .inr ⟨_, m₁, m₂, by rw [stops], by rw [fails], .fault text, unmoved⟩
  hostBind h next := h.bind next
  hostEnds h passes next := h.ends passes next

instance : (failing kind mark).IsGeneral where
  keeps _ := .inl rfl
  attempt h gives next := h.attempt gives next

/-- Stopping at faults of the kind as well. -/
theorem Failing.halt {x y : Run α} {m : Machine} (h : Failing kind mark x y m) :
    Failing kind mark x (Run.halt kind mark y) m := by
  unfold Failing Run.halt
  obtain same | ⟨text, m₁, m₂, stops, fails, unmoved⟩ := h
  · rw [← same]
    cases run : x m with
    | mk r m' =>
      match r with
      | .ok a | .error .exhausted => exact .inl rfl
      | .error (.fault f) =>
        dsimp only
        cases found : kind.text? f with
        | none => exact .inl rfl
        | some text =>
          exact .inr ⟨text, m', m', rfl, by rw [Fatality.eq_fault_of_text? found], .refl m'⟩
  · rw [stops]
    exact .inr ⟨text, m₁, m₂, rfl, fails, unmoved⟩

theorem related_halt {x y : Run α} (h : Related (failing kind mark) x y) :
    Related (failing kind mark) x (Run.halt kind mark y) :=
  ⟨fun m => (h.holds m).halt⟩

/-- Host code that calls back passes on what the call has failed with. -/
theorem related_callBack {s s' : Reentry} {f : FunctionRef} {message : Option String}
    {args : List CellRef}
    (h : Related (failing kind mark) (s.invoke f message args) (s'.invoke f message args)) :
    Host.Related (failing kind mark) (Host.callBack s f message args)
      (Host.callBack s' f message args) where
  holds m := by
    change HostFailing kind mark _ _ m
    unfold HostFailing Host.callBack
    rw [Host.bind_run, Host.bind_run, Host.run_run, Host.run_run, attempt_run, attempt_run]
    obtain same | ⟨text, m₁, m₂, stops, fails, unmoved⟩ := h.holds m
    · exact .inl (by rw [same])
    · obtain ⟨text', told⟩ := kind.faultOf_fault text m₂.heap
      rw [stops, fails]
      refine .inr ⟨.ok (.error (kind.hostFault text')), m₁, m₂, rfl, ?_, .host text', unmoved⟩
      rw [← told]
      rfl

/-- Stopping at faults of a kind, with something done before all blocks in both evaluators. -/
instance (act : Block → Option Cursor → Run Unit) :
    (Eval.Hook.before act).Related (failing kind mark)
    ((Eval.Hook.before act).around (Run.halt kind mark)) where
  block b resume h := by
    have acted : Related (failing kind mark) (act b resume) (act b resume) := ⟨fun _ => .inl rfl⟩
    exact related_halt (.seq acted fun _ => h)
  step _ _ h := related_halt h
  call h := related_halt h
  invoke h := related_halt h
  callBack h := related_callBack h

/-- A computation that stops at faults of a kind does not end with one. -/
theorem halt_ne (x : Run α) (m : Machine) (text : String) (m' : Machine) :
    Run.halt kind mark x m ≠ (.error (.fault (kind.fault text)), m') := by
  unfold Run.halt
  rcases x m with ⟨(f | _) | _, m₁⟩
  · dsimp only
    cases found : kind.text? f with
    | some _ => nofun
    | none =>
      rintro ⟨⟩
      rw [kind.text?_fault] at found
      cases found
  · nofun
  · nofun

/-- Where a computation fails with a fault of the kind, the one that stops there has stopped,
whatever the mark; otherwise it has not. -/
theorem failsAt {x : Run α} {y : (Machine → Machine) → Run α}
    (h : ∀ mark, Related (failing kind mark) x (y mark)) (m : Machine) :
    FailsAt kind x (fun mark => Run.halt kind mark (y mark)) m := by
  have stops (mark : Machine → Machine) : Failing kind mark x (Run.halt kind mark (y mark)) m :=
    ((h mark).holds m).halt
  by_cases fails : ∃ text m₂, x m = (.error (.fault (kind.fault text)), m₂)
  · obtain ⟨text, m₂, run⟩ := fails
    refine .inr ⟨text, m₂, run, fun mark => ?_⟩
    obtain same | ⟨text', m₁, m₂', stopped, run', unmoved⟩ := stops mark
    · exact (halt_ne _ _ _ _ (same.symm.trans run)).elim
    · obtain rfl : m₂' = m₂ := congrArg Prod.snd (run'.symm.trans run)
      exact ⟨m₁, stopped, unmoved⟩
  · refine .inl fun mark => ?_
    obtain same | ⟨text, m₁, m₂, -, run, -⟩ := stops mark
    · exact same.symm
    · exact absurd ⟨text, m₂, run⟩ fails

end Run

namespace Engine.Request

open Eval (hooked Hook)

variable (kind : Fatality) (act : Block → Option Cursor → Run Unit)

/-- A fatal fault or a taint violation ends the run in which it comes up. The run is compared with
one that stops at faults of the kind, wherever a block, a step or a call has ended with one. Both
may do something before each block, such as to write down that it begins; without that the first of
them is the evaluator. Either there is no difference, which means that no such fault comes up. Or
the run fails with a fault of the kind, and whatever was done before blocks has been done before the
other run stopped: no handler is run, nor any other block, and all that changes is that stacks are
cut and calls are counted. The same is true of calls of the host, and of anything that is computed
in a call, in a context of its own or as the body of a run. -/
theorem fatal_ends_run (m : Machine) :
    (∀ n, hooked (.before fun _ _ => pure ()) n = Eval.reentry n) ∧
    (∀ n s request, Run.FailsAt kind (serve (hooked (.before act) n) s request)
      (fun mark => (serve (hooked ((Hook.before act).around (Run.halt kind mark)) n) s request).halt
        kind mark) m) ∧
    (∀ n f message args, Run.FailsAt kind (Eval.invoke (hooked (.before act) n) f message args)
      (fun mark =>
        (Eval.invoke (hooked ((Hook.before act).around (Run.halt kind mark)) n) f message args).halt
          kind mark) m) ∧
    ∀ x : Run CellRef,
      (∀ name args, Run.FailsAt kind (Eval.dispatch name args x)
        (fun mark => (Eval.dispatch name args (x.halt kind mark)).halt kind mark) m) ∧
      (∀ c, Run.FailsAt kind (Eval.within c x)
        (fun mark => (Eval.within c (x.halt kind mark)).halt kind mark) m) ∧
      ∀ s, Run.FailsAt kind (Eval.runInContext s x)
        (fun mark => (Eval.runInContext s (x.halt kind mark)).halt kind mark) m := by
  refine ⟨fun n => ?_, fun n s request => Run.failsAt (fun mark => inferInstance) m,
    fun n f message args => Run.failsAt (fun mark => inferInstance) m, fun x => ?_⟩
  · have silent : Hook.before (fun _ _ => pure ()) = Hook.none := by
      simp only [Hook.before, Hook.none, pure_bind]
    rw [silent, Eval.hooked_none]
  · have stopped (mark : Machine → Machine) :
        Run.Related (Run.failing kind mark) x (x.halt kind mark) :=
      Run.related_halt ⟨fun _ => .inl rfl⟩
    exact ⟨fun name args => Run.failsAt (fun mark => have := stopped mark; inferInstance) m,
      fun c => Run.failsAt (fun mark => have := stopped mark; inferInstance) m,
      fun s => Run.failsAt (fun mark => have := stopped mark; inferInstance) m⟩

/-- A handler around a call that hands a tainted value to a sensitive function. -/
def guardedCall : Body :=
  .mk none 1
    [.try (.mk none 2 [.expr (.call "&sensitive" [.call "&taint" [.literal (.int 1)]])]) "$e"
      (.mk none 4 [.flow .return (some (.var "$e"))])]

example :
    let engine := withProbes (.create { EngineConfig.standard with taint := true } (.ofInput []))
    let loaded := (Engine.load (.ofBlock "main" guardedCall.build) engine).2
    (match (serve (Eval.reentry 30) ⟨0⟩ .run loaded.machine).1 with
      | .error (.fault (.taintViolation _)) => true
      | _ => false) = true := by
  decide +kernel

end Engine.Request

end CellScript
