import CellScript.Proofs.Eval.Dispatch
import CellScript.Proofs.Eval.Related
import CellScript.Proofs.Throw.Exposed

/-!
# The trace of a throw

Calls record themselves in the trace of their context when a throw passes through them. Between
throws there is no trace: whatever gives a value leaves none, and a handler begins without one. So
what is in the trace when a throw arrives is what it has passed through. To say which calls that
are, an evaluator is compared with the one that stops where the throw has come up.

Host code fails with faults of its own. When it throws a text, the call of it is recorded and a new
cell with the text is thrown. In all other cases nothing is recorded, since what host code calls
back is done in other contexts.

## Main definitions

* `Machine.HostThrew` — a throw has come out of host code.
* `Run.hosted` — nothing is recorded but the call of host code that throws.
* `Run.Worded`, `Run.Becomes` — what has become of a fault: it is what it was, or it was worded
  once, and reported then.
* `Run.Unwound` — what has become of a throw on its way from where another evaluator has stopped.
* `Run.Traced` — a computation leaves no trace but that of throws, which unwind from where another
  one stops.
* `Run.traced` — this as a relation that evaluators pass on.

## Main statements

* `Run.hosted_callBack` — calls back record nothing.
* `Run.Traced.dispatchAt` — the rule for calls.
* `Run.traced` is simple, and carried where nothing is exposed.
-/

namespace CellScript

/-! ## Throws out of host code -/

/-- A throw has come out of host code: the call of it is in the trace, with where it was made, and
what is thrown is an untainted text. -/
def Machine.HostThrew (m : Machine) (f : Fault) : Prop :=
  ∃ description cell text, m.context.trace =
    [⟨description, m.context.currentSource, m.context.line⟩] ∧
    f = .thrown cell ∧ m.heap.get cell = .clean (.text text)

namespace Run

variable {α β : Type}

/-- Nothing was recorded, except for a call of host code that has thrown. -/
def HostClear : Except Stop α × Machine → Prop
  | (.ok _, m) => m.context.trace = []
  | (.error (.fault f), m) => m.context.trace = [] ∨ m.HostThrew f
  | (.error .exhausted, _) => True

theorem HostClear.of_nil {e : Except Stop α × Machine} (h : e.2.context.trace = []) :
    HostClear e := by
  rcases e with ⟨(_ | _) | _, m⟩
  · exact .inl h
  · trivial
  · exact h

/-- From a machine without a trace, nothing is recorded but the call of host code that throws. -/
def Hosted (x : Run α) (m : Machine) : Prop :=
  m.context.trace = [] → HostClear (x m)

theorem Hosted.bind {x : Run α} {f : α → Run β} {m : Machine} (h : Hosted x m)
    (next : ∀ a m', x m = (.ok a, m') → Hosted (f a) m') : Hosted (x >>= f) m := by
  intro empty
  have clear := h empty
  rw [bind_run]
  cases run : x m with
  | mk r m' =>
    rw [run] at clear
    rcases r with (f | _) | a
    · exact clear
    · trivial
    · exact next a m' run clear

/-- Nothing is recorded but the call of host code that throws, as a relation that host code passes
on. -/
def hosted : Relation :=
  .plain (fun x _ => Hosted x) (fun _ _ settles empty => .of_nil (settles.trace empty)) Hosted.bind

instance : hosted.IsRecording where
  throwText {description text m} empty := by
    rw [Host.throwText_run]
    exact .inr ⟨description, _, text, congrArg (List.cons _) empty, rfl, by simp [Heap.get]⟩

/-- Host code that calls back records nothing in the context in which it was called. -/
theorem hosted_callBack {s : Reentry}
    (context : ∀ f message args m, (s.invoke f message args m).1 ≠ .error .exhausted →
      (s.invoke f message args m).2.context = m.context) : Reentry.CallsBack hosted s s := by
  refine ⟨fun f message args => ⟨fun m empty => ?_⟩⟩
  change HostClear (Host.callBack s f message args m)
  have still := context f message args m
  unfold Host.callBack
  rw [Host.bind_run, Host.run_run, attempt_run]
  revert still
  rcases s.invoke f message args m with ⟨(fault | _) | cell, m'⟩
  · exact fun still => (congrArg Context.trace (still nofun)).trans empty
  · exact fun _ => trivial
  · exact fun still => (congrArg Context.trace (still nofun)).trans empty

end Run

/-! ## Throws on their way -/

namespace Run

variable {α β : Type} {p q : CallPath} {m m₁ m₂ : Machine} {f f' : Fault}

/-- What has become of a fault that was `f` in `m`, and of which problems it was reported: it is
what it was, with nothing done but to clean up, or it was native, has been worded once, and is a
throw of the message since then. What is `near` was worded in the context of `m`. -/
inductive Worded (near : Prop) (m : Machine) (f : Fault) (m' : Machine) :
    Fault → List (ScriptRef × Warning) → Prop where
  | still (unmoved : m.Unmoved m') : Worded near m f m' f []
  | thrown {s : ScriptRef} {flags : DebugFlags} {w : Warning} {cell : CellRef}
      (native : ∀ cell, f ≠ .thrown cell) (message : w.message = m.heap.faultMessage f)
      (text : m'.heap.get cell = .clean (.text w.message))
      (here : near → s = m.context.script ∧ flags = m.context.flags) :
      Worded near m f m' (.thrown cell) (if flags.showErrors then [(s, w)] else [])

/-- A fault that was `f` in `m` has become `f'` in `m'`, it was reported when it was worded, and
what is `near` has stayed in the context of `m`. -/
structure Becomes (near : Prop) (m : Machine) (f : Fault) (m' : Machine) (f' : Fault) : Prop where
  told : ∃ problems, m.Reported problems m' ∧ Worded near m f m' f' problems
  here : near → m'.context.script = m.context.script ∧ m'.context.flags = m.context.flags

namespace Becomes

variable {near near' : Prop} {m' m'' : Machine} {f'' : Fault}

/-- Nothing is told of cleaning up. -/
theorem cleaned {c : Context}
    (here : near → c.script = m.context.script ∧ c.flags = m.context.flags) :
    Becomes near m f { m with context := c } f :=
  ⟨⟨[], ⟨[], ⟨rfl, rfl⟩, rfl⟩, .still ⟨rfl, rfl, rfl, rfl, rfl⟩⟩, here⟩

theorem refl (near : Prop) (m : Machine) (f : Fault) : Becomes near m f m f :=
  cleaned fun _ => ⟨rfl, rfl⟩

/-- It is worded once at most, as it is a throw then. -/
theorem trans (h : Becomes near m f m' f') (h' : Becomes near' m' f' m'' f'')
    (nearer : near → near') :
    Becomes near m f m'' f'' := by
  obtain ⟨problems, reported, worded⟩ := h.told
  obtain ⟨problems', reported', worded'⟩ := h'.told
  have here (n : near) :
      m''.context.script = m.context.script ∧ m''.context.flags = m.context.flags :=
    ⟨(h'.here (nearer n)).1.trans (h.here n).1, (h'.here (nearer n)).2.trans (h.here n).2⟩
  refine ⟨⟨_, reported.trans reported', ?_⟩, here⟩
  cases worded with
  | still unmoved =>
    cases worded' with
    | still unmoved' => exact .still (unmoved.trans unmoved')
    | thrown native message text here' =>
      refine .thrown native (message.trans (by rw [unmoved.heap])) text fun n => ?_
      exact ⟨(here' (nearer n)).1.trans (h.here n).1, (here' (nearer n)).2.trans (h.here n).2⟩
  | thrown native message text here' =>
    cases worded' with
    | still unmoved =>
      rw [List.append_nil]
      exact .thrown native message (by rw [unmoved.heap]; exact text) here'
    | thrown native' => exact absurd rfl (native' _)

end Becomes

/-- A fault has come up as `f` in `m₁`, on the path `q`, and has arrived as `f'` in `m₂`, on the
path `p`: it can still be caught, it is what it was or what it was worded as, and what is in the
trace is what was to be recorded. -/
structure Unwound (p : CallPath) (f : Fault) (q : CallPath) (m₁ : Machine) (f' : Fault)
    (m₂ : Machine) : Prop where
  catchable : ¬ f'.isFatal
  becomes : Becomes (q.away = false) m₁ f m₂ f'
  away : q.away = false → p.away = false
  frames : q.frames m₁ = p.frames m₂
  origin : m₁.context.trace = [] ∨ m₁.HostThrew f

namespace Unwound

/-- Where it has come up. -/
theorem origin_self (catchable : ¬ f.isFatal) (origin : m.context.trace = [] ∨ m.HostThrew f) :
    Unwound p f p m f m :=
  ⟨catchable, .refl _ m f, id, rfl, origin⟩

/-- A thrown cell is the same, with nothing done but to clean up. -/
theorem thrown (h : Unwound p f q m₁ f' m₂) (cell : CellRef) (eq : f = .thrown cell) :
    f' = .thrown cell ∧ m₁.Unmoved m₂ := by
  obtain ⟨_, -, worded⟩ := h.becomes.told
  cases worded with
  | still unmoved => exact ⟨eq, unmoved⟩
  | thrown native => exact absurd eq (native cell)

/-- A step on the way that records nothing. -/
theorem after {f'' : Fault} {m₃ : Machine} (h : Unwound p f q m₁ f' m₂) (catchable : ¬ f''.isFatal)
    (becomes : Becomes True m₂ f' m₃ f'') (trace : m₃.context.trace = m₂.context.trace) :
    Unwound p f q m₁ f'' m₃ where
  catchable := catchable
  becomes := h.becomes.trans becomes fun _ => trivial
  away := h.away
  frames := by
    rw [h.frames]
    unfold CallPath.frames
    rw [trace]
  origin := h.origin

/-- Cleaning up. -/
theorem cleaned (h : Unwound p f q m₁ f' m₂) {c : Context} (trace : c.trace = m₂.context.trace)
    (script : c.script = m₂.context.script) (flags : c.flags = m₂.context.flags) :
    Unwound p f q m₁ f' { m₂ with context := c } :=
  h.after h.catchable (.cleaned fun _ => ⟨script, flags⟩) trace

/-- Out of another context. -/
theorem back (h : Unwound p.leave f q m₁ f' m₂) {c : Context} (empty : c.trace = []) :
    Unwound p f q m₁ f' { m₂ with context := c } where
  catchable := h.catchable
  becomes := h.becomes.trans (.cleaned False.elim) fun near => Bool.noConfusion (h.away near)
  away near := Bool.noConfusion (h.away near)
  frames := by
    rw [h.frames]
    simp [CallPath.frames, CallPath.leave, empty]
  origin := h.origin

/-- Out of a call, which is recorded. -/
theorem concluded {name : String} {c : Context} {notes : List (ScriptRef × Warning)}
    (h : Unwound (p.enter ⟨name, c.currentSource, c.line⟩) f q m₁ f' m₂)
    (traces : ∀ note ∈ notes, note.2.trace) :
    Unwound p f q m₁ f' { m₂.concluded name c (.error f') with logs := m₂.noted notes } where
  catchable := h.catchable
  becomes := by
    have unmoved : m₂.Unmoved { m₂.concluded name c (.error f') with logs := m₂.noted notes } := by
      refine ⟨rfl, ?_, rfl, rfl, rfl⟩
      unfold Machine.concluded
      split
      · exact m₂.code_modify _ fun _ => ⟨rfl, rfl⟩
      · rfl
    have watchers :
        (m₂.concluded name c (.error f')).scripts.map Script.watchers =
          m₂.scripts.map Script.watchers :=
      m₂.map_concluded _ (fun _ => rfl) _
    obtain ⟨script, -, flags⟩ := Context.concluded_here name c m₂.context (.error f')
    have passes :
        Becomes True m₂ f' { m₂.concluded name c (.error f') with logs := m₂.noted notes } f' :=
      ⟨⟨[], .of_traces traces ⟨rfl, watchers⟩, .still unmoved⟩, fun _ => ⟨script, flags⟩⟩
    exact h.becomes.trans passes fun _ => trivial
  away near := (p.away_enter _).symm.trans (h.away near)
  frames := by
    rw [h.frames]
    unfold CallPath.frames CallPath.enter
    split
    · simp [*]
    · simp [*, Machine.concluded, Context.concluded, h.catchable, Context.recordFrame,
        Context.truncateFrames]
  origin := h.origin

end Unwound

/-- A value comes without a trace and, where throws are exposed, so does a fault that can be
caught. -/
def Clear (mark? : Option Mark) : Except Stop α × Machine → Prop
  | (.ok _, m) => m.context.trace = []
  | (.error (.fault f), m) => mark?.isSome → ¬ f.isFatal → m.context.trace = []
  | (.error .exhausted, _) => True

/-- A computation has failed where another one has stopped, or they have ended in the same way. -/
inductive Traces (mark? : Option Mark) (p : CallPath) :
    Except Stop α × Machine → Except Stop α × Machine → Prop where
  | same {e : Except Stop α × Machine} (clear : Clear mark? e) : Traces mark? p e e
  | unwound {mark : Mark} {f f' : Fault} {q : CallPath} {m₁ m₂ : Machine}
    (given : mark? = some mark) (unwound : Unwound p f q m₁ f' m₂) :
    Traces mark? p (.error (.fault f'), m₂) (.error .exhausted, mark f q m₁)

/-- From a machine without a trace, `x` fails where `y` stops, or they do the same. -/
def Traced (mark? : Option Mark) (p : CallPath) (x y : Run α) (m : Machine) : Prop :=
  m.context.trace = [] → Traces mark? p (x m) (y m)

variable {mark? : Option Mark} {mark : Mark} {x y : Run α}

theorem Clear.of_nil {e : Except Stop α × Machine} (h : e.2.context.trace = []) :
    Clear mark? e := by
  rcases e with ⟨(_ | _) | _, m⟩
  · exact fun _ _ => h
  · trivial
  · exact h

theorem Traced.bind {f g : α → Run β} (h : Traced mark? p x y m)
    (next : ∀ a m', x m = (.ok a, m') → Traced mark? p (f a) (g a) m') :
    Traced mark? p (x >>= f) (y >>= g) m := by
  intro empty
  have traces := h empty
  rw [bind_run, bind_run]
  generalize y m = e' at traces
  cases run : x m with
  | mk r m' =>
    rw [run] at traces
    cases traces with
    | same clear =>
      rcases r with (f | _) | a
      · exact .same clear
      · exact .same trivial
      · exact next a m' run clear
    | unwound given unwound => exact .unwound given unwound

/-- Where faults are passed on, the trace stays as it is. -/
theorem Traced.attempt {k : Except Fault α → Run β} (h : Traced mark? p x y m) (passes : Passes k)
    (next : ∀ r m', Run.attempt x m = (.ok r, m') → Traced mark? p (k r) (k r) m') :
    Traced mark? p (Run.attempt x >>= k) (Run.attempt y >>= k) m := by
  intro empty
  have traces := h empty
  rw [bind_run, bind_run, attempt_run, attempt_run]
  generalize y m = e' at traces
  cases run : x m with
  | mk r m' =>
    rw [run] at traces
    cases traces with
    | same clear =>
      rcases r with (f | _) | a
      · obtain ⟨c, passed, trace, -⟩ := passes.fails f m'
        dsimp only
        rw [passed]
        exact .same fun exposes catchable => trace.trans (clear exposes catchable)
      · exact .same trivial
      · exact next (.ok a) m' (by rw [attempt_run, run]) clear
    | @unwound mark f f' q m₁ _ given unwound =>
      obtain ⟨c, passed, trace, script, flags⟩ := passes.fails f' m'
      dsimp only
      rw [passed]
      exact .unwound given (unwound.cleaned trace script flags)

/-- A computation leaves no trace but that of throws, as a relation that is passed on. -/
def traced (mark? : Option Mark) (p : CallPath) : Relation :=
  .plain (Traced mark? p) (fun _ _ settles empty => .same (.of_nil (settles.trace empty)))
    Traced.bind

instance : (traced mark? p).IsSighted where
  serves _ settles empty := .same (.of_nil (settles.trace empty))

instance : (traced mark? p).IsSimple where
  keeps _ _ _ settles empty := .same (.of_nil (settles.trace empty))
  attempt h passes next := h.attempt passes next

instance : (traced none p).IsRecording where
  throwText _ := .same nofun

/-- Exposing what comes up in a computation. -/
theorem Related.exposed (h : Related (traced (some mark) p) x y) :
    Related (traced (some mark) p) x (y.expose (some mark) p) := by
  refine ⟨fun m empty => ?_⟩
  have traces : Traces (some mark) p (x m) (y m) := h.holds m empty
  change Traces (some mark) p (x m) (y.expose (some mark) p m)
  unfold expose
  dsimp only
  generalize x m = e, y m = e' at traces
  cases traces with
  | @same e clear =>
    rcases e with ⟨(f | _) | a, m'⟩
    · dsimp only
      cases fatal : f.isFatal with
      | true => exact .same clear
      | false =>
        have catchable : ¬ f.isFatal := by simp [fatal]
        exact .unwound rfl (.origin_self catchable (.inl (clear rfl catchable)))
    · exact .same trivial
    · exact .same clear
  | unwound given unwound => exact .unwound given unwound

/-- What comes out of host code is exposed there. -/
theorem Related.exposeHosted (h : Related hosted x x) :
    Related (traced (some mark) p) x (x.expose (some mark) p) := by
  refine ⟨fun m empty => ?_⟩
  have clear : HostClear (x m) := h.holds m empty
  change Traces (some mark) p (x m) (x.expose (some mark) p m)
  unfold expose
  dsimp only
  generalize x m = e at clear ⊢
  rcases e with ⟨(f | _) | a, m'⟩
  · dsimp only
    cases fatal : f.isFatal with
    | true => exact .same fun _ catchable => absurd fatal catchable
    | false => exact .unwound rfl (.origin_self (by simp [fatal]) clear)
  · exact .same trivial
  · exact .same clear

/-- Where it is exposed, nothing gets out that can be caught. -/
theorem expose_fatal {m' : Machine} (fails : x.expose (some mark) p m = (.error (.fault f), m')) :
    f.isFatal := by
  unfold expose at fails
  dsimp only at fails
  generalize x m = e at fails
  rcases e with ⟨(f' | _) | a, m₁⟩
  · cases fatal : f'.isFatal with
    | true =>
      simp only [fatal, if_true] at fails
      cases fails
      exact fatal
    | false =>
      simp only [fatal] at fails
      cases fails
  · cases fails
  · cases fails

/-- In a context of its own, a computation leaves no trace in the context in which it is made. -/
theorem Traced.detached (s : ScriptRef) (h : Related (traced mark? p.leave) x y) :
    Traced mark? p (Eval.newContext s >>= (Eval.within · x))
      (Eval.newContext s >>= (Eval.within · y)) m := by
  intro empty
  have traces : Traces mark? p.leave (x (m.entered s)) (y (m.entered s)) :=
    h.holds (m.entered s) rfl
  rw [newContext_within, newContext_within, within_eq, within_eq]
  change Traces mark? p (leaving m.context (x (m.entered s))) (leaving m.context (y (m.entered s)))
  generalize x (m.entered s) = e, y (m.entered s) = e' at traces
  cases traces with
  | @same e clear =>
    rcases e with ⟨(f | _) | a, m'⟩
    · exact .same fun _ _ => empty
    · exact .same trivial
    · exact .same empty
  | unwound given unwound => exact .unwound given (unwound.back empty)

/-! ## Calls -/

section Calls

variable {x y : Run CellRef} (name : String) (args : List CellRef)

/-- What a call comes to that has ended without a throw. -/
theorem clear_conclude (c : Context) (described : Option String) {r : Except Fault CellRef}
    (clear : ∀ a, r = .ok a → m.context.trace = [])
    (fatal : ∀ f, r = .error f → mark?.isSome → f.isFatal) :
    Clear mark? (Eval.conclude name c described r m) := by
  obtain ⟨logs, concluded⟩ := Eval.conclude_run name c described r m
  rw [concluded]
  cases r with
  | ok a => exact clear a rfl
  | error f => exact fun exposes catchable => absurd (fatal f rfl exposes) catchable

/-- A call whose throws are not exposed. -/
theorem Traced.dispatch (h : Related (traced none p) x y) :
    Traced none p (Eval.dispatch name args x) (Eval.dispatch name args y) m := by
  intro empty
  obtain ⟨described, called⟩ := Eval.dispatch_run name args m
  rw [called x, called y]
  split
  · exact .same fun _ _ => empty
  · have traces : Traces none p (x _) (y _) :=
      h.holds { m with activeCalls := m.activeCalls + 1 } empty
    rw [bind_run, bind_run, attempt_run, attempt_run]
    generalize x _ = e, y _ = e' at traces
    cases traces with
    | @same e clear =>
      rcases e with ⟨(f | _) | a, m'⟩
      · exact .same (clear_conclude name m.context described nofun nofun)
      · exact .same trivial
      · exact .same (clear_conclude name m.context described (fun _ _ => clear) nofun)
    | unwound given => cases given

/-- A call whose throws are exposed: those that have come up in it pass through it. -/
theorem Traced.dispatchAt {execute : CallPath → Run CellRef}
    (h : ∀ p, Related (traced (some mark) p) x (execute p)) :
    Traced (some mark) p (Eval.dispatch name args x)
      (Eval.dispatchAt (some mark) p name args execute) m := by
  intro empty
  let inside := p.enter ⟨name, m.context.currentSource, m.context.line⟩
  change Traces (some mark) p _
    (Eval.dispatch name args ((execute inside).expose (some mark) inside) m)
  obtain ⟨described, called⟩ := Eval.dispatch_run name args m
  rw [called x, called (expose (some mark) inside _)]
  split
  · exact .same fun _ _ => empty
  · have traces : Traces (some mark) inside (x _) (execute inside _) :=
      (h inside).holds { m with activeCalls := m.activeCalls + 1 } empty
    rw [bind_run, bind_run, attempt_run, attempt_run]
    unfold expose
    dsimp only
    generalize x _ = e, execute inside _ = e' at traces
    have unwinds {f f' : Fault} {q : CallPath} {m₁ m₂ : Machine}
      (unwound : Unwound inside f q m₁ f' m₂) :
        Traces (some mark) p (Eval.conclude name m.context described (.error f') m₂)
          (.error .exhausted, mark f q m₁) := by
      obtain ⟨notes, traces, concluded⟩ :=
          Eval.conclude_traces name m.context described (.error f') m₂
      rw [concluded]
      exact .unwound rfl (unwound.concluded traces)
    cases traces with
    | @same e clear =>
      rcases e with ⟨(f | _) | a, m'⟩
      · dsimp only
        cases fatal : f.isFatal with
        | true =>
          exact .same (clear_conclude name m.context described nofun fun | _, rfl, _ => fatal)
        | false =>
          have catchable : ¬ f.isFatal := by simp [fatal]
          exact unwinds (.origin_self catchable (.inl (clear rfl catchable)))
      · exact .same trivial
      · exact .same (clear_conclude name m.context described (fun _ _ => clear) nofun)
    | unwound given unwound =>
      cases given
      exact unwinds unwound

end Calls

end Run

end CellScript
