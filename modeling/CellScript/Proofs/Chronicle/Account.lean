import CellScript.Proofs.Chronicle.Flags
import CellScript.Proofs.Chronicle.Profile

/-!
# Accounts of calls

What watchers have been told and what profiles have counted is what the chronicle of a computation
says. Of each call that ends the watchers are told once, if calls are traced where it was made, and
the profile of its script counts it once, if calls are counted there.

## Main definitions

* `Machine.Accounts` — logs and profiles agree with a chronicle.
* `callsIn`, `tracesIn`, `toldIn` — the calls of a script, their traces, and what its watchers are
  told.
* `Accounted` — what is seen of the calls of a script.

## Main statements

* `Eval.dispatch_left` — what a call leaves that has ended.
* `Run.Chronicles.accounts` — the account of whatever is computed.
* `Run.Chronicles.uncounted` — in a blind computation there are no calls.
* `Run.Chronicles.accounted` — what is seen of calls that are traced and counted.
-/

namespace CellScript

/-! ## Calls that have ended -/

namespace Eval

variable {name : String} {args : List CellRef} {x : Run CellRef} {m m' : Machine}
  {r : Except Fault CellRef}

/-- A call that is made and has ended, with its arguments as they were when it was made. -/
theorem dispatch_made (room : ¬ m.context.maxDepth ≤ m.activeCalls)
    (run : x { m with activeCalls := m.activeCalls + 1 } = (r.mapError .fault, m')) :
    dispatch name args x m = conclude name m.context
      (if m.context.flags.traceCalls then some (Call.ofMachine m name args).args else none)
      r m' := by
  unfold dispatch
  simp only [Run.bind_run (Run.askContext id), Run.bind_run (Run.ask _), Run.askContext_run,
    Run.ask_run, id]
  cases traced : m.context.flags.traceCalls <;>
  · simp only [room, ↓reduceIte, Bool.false_eq_true, Run.bind_run, Run.pure_run, Run.askHeap_run,
      Run.changeMachine_run]
    rw [Run.attempt_run, run]
    cases r <;> rfl

/-- What a call leaves that has ended: its trace, and one more call in the profile. -/
theorem dispatch_left (room : ¬ m.context.maxDepth ≤ m.activeCalls)
    (run : x { m with activeCalls := m.activeCalls + 1 } = (r.mapError .fault, m'))
    (here : m'.context.script = m.context.script) :
    dispatch name args x m = (r.mapError .fault, { m'.concluded name m.context r with
      logs :=
        m'.noted (((Call.ofMachine m name args).ending (r.mapError .fault, m')).filterMap
          Event.note?) }) := by
  obtain ⟨logs, ended⟩ := dispatch_ended name args room run
  have told : (dispatch name args x m).2.logs = _ := congrArg (·.2.logs) (dispatch_made room run)
  rw [conclude_logs, ended, here] at told
  change logs = _ at told
  rw [ended, told]
  cases traced : m.context.flags.traceCalls <;> cases r <;>
    simp [Call.ending, Except.mapError, Event.note?, Call.ofMachine, traced] <;>
    rfl

end Eval

/-! ## Accounts -/

/-- From a machine and by a chronicle, logs and profiles have come to those of another machine. -/
structure Machine.Accounts (m : Machine) (h : List Event) (m' : Machine) : Prop where
  /-- the watchers were told what the chronicle says -/
  logs : m'.logs = m.noted (h.filterMap Event.note?)
  watchers : m'.scripts.map (·.watchers) = m.scripts.map (·.watchers)
  /-- each profile has counted the calls of its script -/
  counts : ∀ s : ScriptRef, s.index < m.scripts.size → (m'.scripts.getD s.index default).profiler =
    (m.scripts.getD s.index default).profiler.count
    ((h.filterMap Event.counted?).filter (·.script = s))

namespace Machine.Accounts

variable {m m' m'' : Machine} {h h' : List Event}

theorem size (accounts : m.Accounts h m') : m'.scripts.size = m.scripts.size := by
  simpa using congrArg Array.size accounts.watchers

/-- No call is made. -/
theorem of_tells {notes : List Warning} (tells : m.Tells notes m') :
    m.Accounts (notes.map (.note m.context.script m.context.flags)) m' where
  logs := by
    rw [tells.logs, List.filterMap_map]
    exact congrArg m.noted (congrFun (List.filterMap_eq_map (f := (m.context.script, ·))).symm
      notes)
  watchers := by
    have same := congrArg (Array.map (·.1)) tells.books
    rw [Array.map_map, Array.map_map] at same
    exact same
  counts s _ := by
    have uncounted :
        (notes.map (Event.note m.context.script m.context.flags)).filterMap Event.counted? =
        [] := by
      simp [List.filterMap_map, Event.counted?, Event.ended?, Function.comp_def]
    rw [uncounted]
    exact congrArg (·.2.1) (Machine.getD_of_map tells.books s.index)

/-- Flags are set. -/
theorem of_set {s : ScriptRef} {flags : DebugFlags} (tells : m.Tells [] m') :
    m.Accounts [.set s flags] m' :=
  have still := of_tells tells
  ⟨still.logs, still.watchers, still.counts⟩

/-- A computation that goes on. -/
theorem andThen (first : m.Accounts h m') (second : m'.Accounts h' m'') :
    m.Accounts (h ++ h') m'' where
  logs := by
    rw [List.filterMap_append]
    exact (Hears.trans ⟨first.logs, first.watchers⟩ ⟨second.logs, second.watchers⟩).logs
  watchers := second.watchers.trans first.watchers
  counts s known := by
    rw [second.counts s (first.size.symm ▸ known), first.counts s known, List.filterMap_append,
      List.filter_append]
    exact List.foldl_append.symm

/-- What is not looked at may be different. -/
theorem congr {m₀ m₁ : Machine} (accounts : m₀.Accounts h m') (logs : m₀.logs = m.logs)
    (scripts : m₀.scripts = m.scripts) (logs' : m₁.logs = m'.logs)
    (scripts' : m₁.scripts = m'.scripts) : m.Accounts h m₁ where
  logs := by
    rw [logs', accounts.logs]
    exact noted_congr (by rw [scripts]) logs _
  watchers := by rw [scripts', accounts.watchers, scripts]
  counts s := by
    rw [scripts', ← scripts]
    exact accounts.counts s

/-- What was computed in a context of its own. -/
theorem detached {α : Type} {s : ScriptRef} {ended : Except Stop α × Machine}
    (accounts : (m.entered s).Accounts h ended.2) :
    m.Accounts h (Run.leaving m.context ended).2 := by
  refine accounts.congr rfl rfl ?_ (Run.leaving_scripts ..)
  rcases ended with ⟨(_ | _) | _, m'⟩ <;> rfl

/-- A call that has ended, in the machine in which it has ended. -/
theorem ending {name : String} {args : List CellRef} {r : Except Fault CellRef}
    (here : m'.context.script = m.context.script) :
    m'.Accounts ((Call.ofMachine m name args).ending (r.mapError .fault, m'))
      { m'.concluded name m.context r with
      logs :=
        m'.noted (((Call.ofMachine m name args).ending (r.mapError .fault, m')).filterMap
          Event.note?) } where
  logs := rfl
  watchers := m'.map_concluded _ (fun _ => rfl) r
  counts s known := by
    have counted :
        ((Call.ofMachine m name args).ending (r.mapError .fault, m')).filterMap Event.counted? =
        if m.context.flags.profile then [Call.ofMachine m name args] else [] := by
      have leave (result source : Option String) :
          [Event.leave (Call.ofMachine m name args) result source].filterMap Event.counted? =
            if m.context.flags.profile then [Call.ofMachine m name args] else [] := by
        simp only [List.filterMap_cons, Event.counted?, Event.ended?, Option.filter]
        cases profiled : m.context.flags.profile <;> simp [Call.ofMachine, profiled]
      cases r <;> exact leave _ _
    rw [counted]
    unfold concluded
    cases profiled : m.context.flags.profile
    · rfl
    · simp only [if_true, here, Array.getD_eq_getD_getElem?, Array.getElem?_modify]
      by_cases same : m.context.script = s
      · subst same
        simp [known, Call.ofMachine]
        rfl
      · have apart : m.context.script.index ≠ s.index :=
          fun index => same (congrArg ScriptRef.mk index)
        simp [same, apart, Call.ofMachine]
        rfl

end Machine.Accounts

namespace Run

/-- Whatever is computed, watchers have been told and profiles have counted what the chronicle of it
says. -/
theorem Chronicles.accounts {α : Type} {x : Run α} {m : Machine} {h : List Event}
    (chronicles : Chronicles x m h) :
    m.Accounts h (x m).2 := by
  induction chronicles with
  | blind _ tells => exact .of_tells tells
  | @look _ f m => exact .of_tells (.look f m)
  | @setFlags flags m => exact .of_set (.setFlags flags m)
  | @keepFlags flags m => exact .of_set (.keepFlags flags m)
  | bind run _ _ first second =>
    rw [run] at first
    rw [bind_run, run]
    exact first.andThen second
  | stop run _ first =>
    rw [run] at first
    rw [bind_run, run]
    exact first
  | @attempt _ x m _ _ ih =>
    rw [attempt_run]
    revert ih
    rcases x m with ⟨(f | _) | a, m'⟩ <;> exact id
  | @detached _ x m s _ _ ih =>
    rw [newContext_within, within_eq]
    exact Machine.Accounts.detached ih
  | @refuse name args x m full =>
    rw [Eval.dispatch_refused name args x full]
    exact ⟨rfl, rfl, fun _ _ => rfl⟩
  | @call name args x m h room chronicles ih =>
    have inside : m.Accounts h (x { m with activeCalls := m.activeCalls + 1 }).2 :=
      ih.congr rfl rfl rfl rfl
    have here := chronicles.tallies.here
    have entered :
        m.Accounts (.enter (.ofMachine m name args) :: h)
          (x { m with activeCalls := m.activeCalls + 1 }).2 :=
      ⟨inside.logs, inside.watchers, inside.counts⟩
    rw [← List.cons_append]
    obtain ⟨r, m', run⟩ | ⟨m', run⟩ :=
        ended_or_exhausted x { m with activeCalls := m.activeCalls + 1 }
    · rw [run] at here entered ⊢
      have same := (here (by cases r <;> nofun)).1
      rw [Eval.dispatch_left room run same]
      exact entered.andThen (.ending same)
    · rw [run] at entered ⊢
      rw [Eval.dispatch_exhausted name args room run, Call.ending, List.append_nil]
      exact entered

/-- A blind computation makes no calls that would be counted: it would leave other counts behind. -/
theorem Chronicles.uncounted {α : Type} {x : Run α} {m : Machine} {h : List Event}
    (chronicles : Chronicles x m h) (blind : Blind x) {s : ScriptRef}
    (known : s.index < m.scripts.size) :
    (h.filterMap Event.counted?).filter (·.script = s) = [] := by
  have counts := congrArg Profiler.byLines (chronicles.accounts.counts s known)
  rw [(blind.script chronicles.accounts.size s.index).1, Profiler.byLines_count] at counts
  exact List.eq_nil_of_length_eq_zero (by omega)

/-- Other things than calls are told of as traces only where they are traced. -/
theorem Chronicles.notes {α : Type} {x : Run α} {m : Machine} {h : List Event}
    (chronicles : Chronicles x m h) {s : ScriptRef} {flags : DebugFlags} {w : Warning}
    (noted : .note s flags w ∈ h) (trace : w.trace) :
    flags.tracesMore := by
  induction chronicles with
  | blind _ tells =>
    obtain ⟨_, told, note⟩ := List.mem_map.mp noted
    cases note
    exact tells.traces w told trace
  | look => cases noted
  | setFlags | keepFlags | refuse => cases List.mem_singleton.mp noted
  | bind _ _ _ first second => exact (List.mem_append.mp noted).elim first second
  | stop _ _ ih | attempt _ ih | detached _ ih => exact ih noted
  | call _ _ ih =>
    rw [List.mem_cons, List.mem_append] at noted
    obtain same | inside | ending := noted
    · cases same
    · exact ih inside
    · obtain ⟨_, _, left⟩ := Call.mem_ending ending
      cases left

end Run

/-! ## The calls of a script -/

section Script

variable {α : Type} {s : ScriptRef} {h : List Event}

/-- What there is to an event of a script. -/
def Event.of (s : ScriptRef) (f : Event → Option α) (e : Event) : Option α :=
  if e.script = s then f e else none

/-- What the watchers of a script are told, in the order of time. -/
def toldIn (s : ScriptRef) (h : List Event) : List Warning :=
  h.filterMap (Event.of s fun e => e.note?.map (·.2))

/-- The calls of a script that have ended, in that order. -/
def callsIn (s : ScriptRef) (h : List Event) : List Call :=
  h.filterMap (Event.of s Event.ended?)

/-- Their traces. -/
def tracesIn (s : ScriptRef) (h : List Event) : List Warning :=
  h.filterMap (Event.of s Event.trace?)

theorem notes_eq_toldIn (s : ScriptRef) (h : List Event) :
    ((h.filterMap Event.note?).filter (·.1 = s)).map (·.2) = toldIn s h := by
  rw [List.filter_filterMap, List.map_filterMap]
  refine List.filterMap_congr fun e _ => ?_
  cases e with
  | leave c result source =>
    cases traced : c.flags.traceCalls <;> by_cases own : c.script = s <;>
      simp [Event.of, Event.script, Event.note?, traced, own]
  | note t flags w => by_cases own : t = s <;> simp [Event.of, Event.script, Event.note?, own]
  | enter c | refuse c | set t flags => simp [Event.of, Event.note?]

/-- Each call has one trace. -/
theorem length_tracesIn (s : ScriptRef) (h : List Event) :
    (tracesIn s h).length = (callsIn s h).length := by
  simp only [tracesIn, callsIn, List.length_filterMap_eq_countP]
  refine List.countP_congr fun e _ => ?_
  unfold Event.of
  split
  · cases e <;> simp [Event.trace?, Event.ended?]
  · rfl

/-- Where calls are counted, those are counted that have ended. -/
theorem counted_eq_callsIn (counted : ∀ e ∈ h, e.script = s → e.flags.profile) :
    (h.filterMap Event.counted?).filter (·.script = s) = callsIn s h := by
  rw [List.filter_filterMap]
  refine List.filterMap_congr fun e among => ?_
  cases e with
  | leave c result source =>
    by_cases own : c.script = s
    · have profile : c.flags.profile = true := counted _ among own
      simp [Event.of, Event.script, Event.counted?, Event.ended?, profile, own]
    · cases profile : c.flags.profile <;>
        simp [Event.of, Event.script, Event.counted?, Event.ended?, profile, own]
  | enter c | refuse c | note t flags w | set t flags =>
    simp [Event.of, Event.counted?, Event.ended?]

/-- Where calls are traced, the trace of a call that has ended is what is told of it. -/
theorem Event.trace_eq_note {e : Event} (traced : e.flags.traceCalls) {w : Warning}
    (trace : e.trace? = some w) :
    e.note? = some (e.script, w) := by
  cases e with
  | leave c result source =>
    have traced : c.flags.traceCalls = true := traced
    cases trace
    simp [note?, script, traced]
  | enter c | refuse c | note t flags w | set t flags => cases trace

/-- Where calls are traced, the watchers are told of those that have ended, in that order. -/
theorem tracesIn_sublist (traced : ∀ e ∈ h, e.script = s → e.flags.traceCalls) :
    (tracesIn s h).Sublist (toldIn s h) := by
  induction h with
  | nil => exact .slnil
  | cons e h ih =>
    obtain ⟨here, later⟩ := List.forall_mem_cons.mp traced
    have rest := ih later
    unfold tracesIn toldIn at rest ⊢
    cases trace : Event.of s Event.trace? e with
    | none =>
      rw [List.filterMap_cons_none trace]
      exact rest.trans ((List.sublist_cons_self e h).filterMap _)
    | some w =>
      have told : Event.of s (fun e => e.note?.map (·.2)) e = some w := by
        unfold Event.of at trace ⊢
        split at trace
        case isTrue own => simp [own, Event.trace_eq_note (here own) trace]
        case isFalse => cases trace
      rw [List.filterMap_cons_some trace, List.filterMap_cons_some told]
      exact rest.cons_cons w

/-- Where nothing else is traced, there are no other traces. -/
theorem traces_toldIn (traced : ∀ e ∈ h, e.script = s → e.flags.traceCalls)
    (notes : ∀ flags w, .note s flags w ∈ h → w.trace = false) :
    (toldIn s h).filter (·.trace) = tracesIn s h := by
  unfold toldIn
  rw [List.filter_filterMap]
  refine List.filterMap_congr fun e among => ?_
  unfold Event.of
  split
  case isTrue own =>
    cases e with
    | leave c result source =>
      have traced : c.flags.traceCalls = true := traced _ among own
      simp [Event.note?, Event.trace?, Call.trace, traced]
    | note t flags w =>
      obtain rfl : t = s := own
      simp [Event.note?, Event.trace?, notes flags w among]
    | enter c | refuse c | set t flags => rfl
  case isFalse => rfl

end Script

/-- What is seen of the calls of a script when a computation has come to its end, or has run out of
fuel. -/
structure Accounted {α : Type} (s : ScriptRef) (more : Bool) (h : List Event) (m : Machine)
    (ended : Except Stop α × Machine) : Prop where
  /-- each call that is entered comes to its end, after all those that are made in it -/
  nested : ended.1 ≠ .error .exhausted → ∀ before c rest, h = before ++ .enter c :: rest →
    ∃ inside result source after, rest = inside ++ .leave c result source :: after ∧
      openCalls [] inside = some []
  /-- the calls that end are those that were entered -/
  once : ended.1 ≠ .error .exhausted → (h.filterMap Event.entered?).Perm (h.filterMap Event.ended?)
  /-- a log that watches the script is told what the chronicle says, the latest first -/
  log : ∀ log < m.logs.size, (m.scripts.getD s.index default).watchers.count log = 1 →
    (∀ t : ScriptRef, t ≠ s → log ∉ (m.scripts.getD t.index default).watchers) →
    ended.2.logs.getD log [] = (toldIn s h).reverse ++ m.logs.getD log []
  /-- among that is one trace of each call, and of no other, in the order in which calls end -/
  traced : (tracesIn s h).Sublist (toldIn s h) ∧
    (more = false → (toldIn s h).filter (·.trace) = tracesIn s h)
  /-- each call is counted once under its name -/
  names : ∀ name, (ended.2.scripts.getD s.index default).profiler.callsOf name =
    (m.scripts.getD s.index default).profiler.callsOf name + (callsIn s h).countP (·.name = name)
  /-- each call is counted once at the line where it is made -/
  lines : ∀ source line, (ended.2.scripts.getD s.index default).profiler.callsAt (source, line) =
    (m.scripts.getD s.index default).profiler.callsAt (source, line) +
      (callsIn s h).countP fun c => c.source = source ∧ c.line = line
  /-- there are as many calls by name, and by line, as there are traces -/
  totals : (m.scripts.getD s.index default).profiler.byName.IsSorted →
    (ended.2.scripts.getD s.index default).profiler.byName.IsSorted ∧
      (ended.2.scripts.getD s.index default).profiler.byNames =
        (m.scripts.getD s.index default).profiler.byNames + (tracesIn s h).length ∧
      (ended.2.scripts.getD s.index default).profiler.byLines =
        (m.scripts.getD s.index default).profiler.byLines + (tracesIn s h).length

/-- Where all calls of a script are traced and counted, that is seen of them. -/
theorem Run.Chronicles.accounted {α : Type} {x : Run α} {m : Machine} {h : List Event}
    (chronicles : Chronicles x m h) {s : ScriptRef} {more : Bool} (known : s.index < m.scripts.size)
    (flags : ∀ e ∈ h, e.script = s → e.flags.calls = (true, true, more)) :
    Accounted s more h m (x m) := by
  have accounts := chronicles.accounts
  have traced (e : Event) (among : e ∈ h) (own : e.script = s) : e.flags.traceCalls :=
    congrArg Prod.fst (flags e among own)
  have counted (e : Event) (among : e ∈ h) (own : e.script = s) : e.flags.profile :=
    congrArg (·.2.1) (flags e among own)
  have counts := accounts.counts s known
  rw [counted_eq_callsIn counted] at counts
  refine ⟨fun ends before c rest split => ?_, fun ends => ?_, fun log bound once only => ?_,
    ⟨tracesIn_sublist traced, fun quiet => ?_⟩, fun name => ?_, fun source line => ?_,
    fun sorted => ?_⟩
  · exact openCalls_ends (split ▸ (chronicles.tallies.closed ends).1)
  · simpa using entered_perm (chronicles.tallies.closed ends).1
  · rw [accounts.logs, Machine.log_noted bound once only, notes_eq_toldIn]
  · refine traces_toldIn traced fun flags' w noted => ?_
    by_contra trace
    have traces := chronicles.notes noted (by simpa using trace)
    have calls := congrArg (·.2.2) (flags _ noted rfl)
    exact absurd (traces.symm.trans (calls.trans quiet)) (by decide)
  · rw [counts, Profiler.callsOf_count]
  · rw [counts, Profiler.callsAt_count]
    simp only [Prod.mk.injEq]
  · rw [counts, length_tracesIn]
    exact ⟨Profiler.sorted_count sorted _, Profiler.byNames_count sorted _,
      Profiler.byLines_count _ _⟩

end CellScript
