import CellScript.Proofs.Run.Agrees

/-!
# Monitored machines

Diagnostics are what monitors a run: the flags that say what is reported and counted, the counts of
calls, and the logs of the watchers. Whether warnings are thrown is not among them. A computation is
blind when it does the same under any monitor and leaves the monitor alone, except that it may write
to logs.

## Main definitions

* `Monitor`, `Machine.under` — what monitors a machine; the machine under another monitor.
* `Context.Apart`, `Machine.Apart` — questions whose answers have nothing to do with the monitor.
* `Machine.told`, `Machine.noted` — logs after watchers were told of something, or of several
  things.
* `Machine.Hears`, `Machine.Reported` — watchers were told some things; they were told of some
  problems.
* `Run.Reports`, `Run.OnlyTraces` — computations that only write to logs, and those that only write
  traces.
* `Run.Blind` — computations that do the same under any monitor.

## Main statements

* Instances of `Run.Blind` for sequencing, heap operations, questions and reports.
-/

namespace CellScript

/-- What monitors a machine: the flags of its context, the flags and the counts of calls of each
script, and logs. -/
structure Monitor where
  flags : DebugFlags
  scripts : Nat → DebugFlags × Profiler
  logs : Array (List Warning)

/-- Whether something else is traced than calls: conditions or taint. -/
def DebugFlags.tracesMore (flags : DebugFlags) : Bool :=
  flags.traceLogic || flags.traceTaint

/-- Other flags that throw warnings as before. -/
def DebugFlags.under (old flags : DebugFlags) : DebugFlags :=
  { flags with throwWarnings := old.throwWarnings }

def Context.under (c : Context) (flags : DebugFlags) : Context :=
  { c with flags := c.flags.under flags }

def Script.under (s : Script) (monitor : DebugFlags × Profiler) : Script :=
  { s with
    config := { s.config with debug := s.config.debug.under monitor.1 }
    profiler := monitor.2 }

namespace Machine

/-- The machine under another monitor. -/
def under (m : Machine) (o : Monitor) : Machine :=
  { m with
    context := m.context.under o.flags
    scripts := m.scripts.mapIdx fun i s => s.under (o.scripts i)
    logs := o.logs }

/-- What monitors a machine. -/
def monitor (m : Machine) : Monitor where
  flags := m.context.flags
  scripts i := ((m.scripts.getD i default).config.debug, (m.scripts.getD i default).profiler)
  logs := m.logs

/-- The script of the current context. -/
def own (m : Machine) : Script :=
  m.scripts.getD m.context.script.index default

/-- The logs after the watchers of a script have been told of something. -/
def told (m : Machine) (s : ScriptRef) (w : Warning) : Array (List Warning) :=
  (m.scripts.getD s.index default).watchers.foldl (fun logs i => logs.modify i (w :: ·)) m.logs

/-- The logs after watchers were told of some things, each with the script that they watch. -/
def noted (m : Machine) (notes : List (ScriptRef × Warning)) : Array (List Warning) :=
  notes.foldl (fun logs note => ({ m with logs } : Machine).told note.1 note.2) m.logs

variable {m : Machine} {o o' : Monitor}

@[simp] theorem under_monitor (m : Machine) : m.under m.monitor = m := by
  have scripts : (m.scripts.mapIdx fun i s => s.under (m.monitor.scripts i)) = m.scripts := by
    refine Array.ext (by simp) fun i h₁ h₂ => ?_
    simp [monitor, Script.under, DebugFlags.under, Array.getD_eq_getD_getElem?, h₂]
  simp only [under, scripts]
  rfl

@[simp] theorem under_under (m : Machine) (o o' : Monitor) : (m.under o).under o' = m.under o' := by
  simp [under, Context.under, Script.under, DebugFlags.under, Function.comp_def]

@[simp] theorem size_under (m : Machine) (o : Monitor) :
    (m.under o).scripts.size = m.scripts.size := by
  simp [under]

/-- A script that does not exist. -/
theorem getD_missing {i : Nat} (missing : ¬ i < m.scripts.size) :
    m.scripts.getD i default = default := by
  simp [Array.getD_eq_getD_getElem?, missing]

/-- A script of the machine under another monitor; one that does not exist is still the same. -/
theorem getD_under (m : Machine) (o : Monitor) (i : Nat) :
    (m.under o).scripts.getD i default =
      if i < m.scripts.size then (m.scripts.getD i default).under (o.scripts i) else default := by
  by_cases bound : i < m.scripts.size <;> simp [under, Array.getD_eq_getD_getElem?, bound]

theorem getD_under' (m : Machine) (o : Monitor) (i : Nat) :
    ∃ p, (m.under o).scripts.getD i default = (m.scripts.getD i default).under p := by
  rw [getD_under]
  split
  · exact ⟨_, rfl⟩
  · exact ⟨(default, default), rfl⟩

/-- A change of a script that has nothing to do with monitors. -/
theorem under_modify {f : Script → Script} (apart : ∀ s p, f (s.under p) = (f s).under p)
    (m : Machine) (i : Nat) (o : Monitor) :
    { m.under o with scripts := (m.under o).scripts.modify i f } =
      ({ m with scripts := m.scripts.modify i f } : Machine).under o := by
  have scripts : (m.under o).scripts.modify i f =
      (m.scripts.modify i f).mapIdx fun i s => s.under (o.scripts i) := by
    refine Array.ext (by simp) fun j h₁ h₂ => ?_
    simp only [under, Array.getElem_modify, Array.getElem_mapIdx]
    split
    · exact apart _ _
    · rfl
  rw [scripts]
  rfl

/-- A question to a machine whose answer has nothing to do with its monitor. -/
class Apart {α : Type} (f : Machine → α) : Prop where
  same : ∀ m o, f (m.under o) = f m

/-! ## Logs -/

section Logs

variable {m m' m'' : Machine} {notes notes' : List (ScriptRef × Warning)}

/-- What is the same of all scripts is the same of each. -/
theorem getD_of_map {β : Type} {f : Script → β} {m m' : Machine}
    (h : m'.scripts.map f = m.scripts.map f) (i : Nat) :
    f (m'.scripts.getD i default) = f (m.scripts.getD i default) := by
  have same : (m'.scripts.map f)[i]? = (m.scripts.map f)[i]? := congrArg (·[i]?) h
  simp only [Array.getElem?_map] at same
  simp only [Array.getD_eq_getD_getElem?]
  cases h₁ : m.scripts[i]? <;> cases h₂ : m'.scripts[i]? <;> simp_all

/-- What is told depends on who watches and on what has been told before. -/
theorem told_congr (watchers : m'.scripts.map (·.watchers) = m.scripts.map (·.watchers))
    (logs : m'.logs = m.logs) (s : ScriptRef) (w : Warning) : m'.told s w = m.told s w := by
  unfold told
  rw [getD_of_map (f := Script.watchers) watchers, logs]

theorem noted_append (m : Machine) (notes later : List (ScriptRef × Warning)) :
    m.noted (notes ++ later) = ({ m with logs := m.noted notes } : Machine).noted later :=
  List.foldl_append

theorem noted_congr (watchers : m'.scripts.map (·.watchers) = m.scripts.map (·.watchers))
    (logs : m'.logs = m.logs) (notes : List (ScriptRef × Warning)) :
    m'.noted notes = m.noted notes := by
  induction notes generalizing m m' with
  | nil => exact logs
  | cons note notes ih =>
    have told : m'.told note.1 note.2 = m.told note.1 note.2 :=
      told_congr watchers logs note.1 note.2
    exact @ih { m with logs := m.told note.1 note.2 } { m' with logs := m'.told note.1 note.2 }
      watchers told

/-- From a machine to another one, watchers were told some things and nothing else, and they are the
same. -/
structure Hears (m : Machine) (notes : List (ScriptRef × Warning)) (m' : Machine) : Prop where
  logs : m'.logs = m.noted notes
  watchers : m'.scripts.map (·.watchers) = m.scripts.map (·.watchers)

theorem Hears.trans (h : m.Hears notes m') (h' : m'.Hears notes' m'') :
    m.Hears (notes ++ notes') m'' where
  logs := by
    rw [h'.logs, noted_append]
    exact noted_congr (m := { m with logs := m.noted notes }) h.watchers h.logs _
  watchers := h'.watchers.trans h.watchers

/-- From a machine to another one, watchers were told of some problems, and beside them only
traces. -/
def Reported (m : Machine) (problems : List (ScriptRef × Warning)) (m' : Machine) : Prop :=
  ∃ notes, m.Hears notes m' ∧ notes.filter (!·.2.trace) = problems

theorem Reported.of_traces (traces : ∀ note ∈ notes, note.2.trace) (hears : m.Hears notes m') :
    m.Reported [] m' :=
  ⟨notes, hears, by simpa [List.filter_eq_nil_iff] using fun s w => traces (s, w)⟩

theorem Reported.trans {problems problems' : List (ScriptRef × Warning)}
    (h : m.Reported problems m') (h' : m'.Reported problems' m'') :
    m.Reported (problems ++ problems') m'' := by
  obtain ⟨notes, hears, rfl⟩ := h
  obtain ⟨notes', hears', rfl⟩ := h'
  exact ⟨notes ++ notes', hears.trans hears', List.filter_append notes notes'⟩

/-- Telling watchers of something adds no log. -/
theorem size_foldl_modify (watchers : List Nat) (w : Warning) (logs : Array (List Warning)) :
    (watchers.foldl (fun logs i => logs.modify i (w :: ·)) logs).size = logs.size := by
  induction watchers generalizing logs with
  | nil => rfl
  | cons i watchers ih => exact (ih _).trans Array.size_modify

theorem size_told (m : Machine) (s : ScriptRef) (w : Warning) : (m.told s w).size = m.logs.size :=
  size_foldl_modify _ w m.logs

/-- A log after watchers were told of something: it is there once for each time that the log is
among the watchers. -/
theorem log_told (s : ScriptRef) (w : Warning) {log : Nat} (bound : log < m.logs.size) :
    (m.told s w).getD log [] =
      List.replicate ((m.scripts.getD s.index default).watchers.count log) w ++
        m.logs.getD log [] := by
  unfold told
  generalize (m.scripts.getD s.index default).watchers = watchers
  suffices ∀ logs : Array (List Warning), log < logs.size →
      (watchers.foldl (fun logs i => logs.modify i (w :: ·)) logs).getD log [] =
        List.replicate (watchers.count log) w ++ logs.getD log [] from this m.logs bound
  induction watchers with
  | nil => exact fun _ _ => rfl
  | cons i watchers ih =>
    intro logs bound
    rw [List.foldl_cons, ih _ (by simpa using bound), List.count_cons]
    by_cases same : i = log
    · subst same
      simp [Array.getD_eq_getD_getElem?, bound, List.replicate_succ', Array.getElem_modify_self]
    · simp [Array.getD_eq_getD_getElem?, same, bound, Array.getElem_modify]

/-- A log that watches one script once is told what there is to tell of it. The latest comes
first. -/
theorem log_noted {s : ScriptRef} {log : Nat} (bound : log < m.logs.size)
    (once : (m.scripts.getD s.index default).watchers.count log = 1)
    (only : ∀ t : ScriptRef, t ≠ s → log ∉ (m.scripts.getD t.index default).watchers)
    {notes : List (ScriptRef × Warning)} :
    (m.noted notes).getD log [] = ((notes.filter (·.1 = s)).map (·.2)).reverse ++
      m.logs.getD log [] := by
  induction notes generalizing m with
  | nil => rfl
  | cons note notes ih =>
    have later :=
      ih (m := { m with logs := m.told note.1 note.2 }) ((m.size_told note.1 note.2).symm ▸ bound)
        once only
    refine later.trans ?_
    dsimp only
    rw [log_told note.1 note.2 bound]
    by_cases same : note.1 = s
    · rw [same, once]
      simp [same]
    · rw [List.count_eq_zero.mpr (only note.1 same)]
      simp [same]

/-- The problems in a log that watches one script once. The latest comes first. -/
theorem Reported.log {problems : List (ScriptRef × Warning)} (h : m.Reported problems m')
    {s : ScriptRef} {log : Nat} (bound : log < m.logs.size)
    (once : (m.scripts.getD s.index default).watchers.count log = 1)
    (only : ∀ t : ScriptRef, t ≠ s → log ∉ (m.scripts.getD t.index default).watchers) :
    (m'.logs.getD log []).filter (!·.trace) =
      ((problems.filter (·.1 = s)).map (·.2)).reverse ++ (m.logs.getD log []).filter
      (!·.trace) := by
  obtain ⟨notes, hears, rfl⟩ := h
  rw [hears.logs, log_noted bound once only, List.filter_append, List.filter_reverse,
    List.filter_map, List.filter_filter, List.filter_filter]
  simp only [Function.comp_def, Bool.and_comm]

end Logs

end Machine

/-- A question to a context whose answer has nothing to do with monitors. -/
class Context.Apart {α : Type} (f : Context → α) : Prop where
  same : ∀ c flags, f (c.under flags) = f c

namespace Run

variable {α β : Type}

/-! ## Reports -/

/-- A report cannot fail, and all that it does is to tell the watchers of the current script. Traces
are told where conditions or taint are traced. -/
def Reports (x : Run Unit) : Prop :=
  ∀ m : Machine, ∃ notes : List Warning, (∀ w ∈ notes, w.trace → m.context.flags.tracesMore) ∧
    x m = (.ok (), { m with logs := m.noted (notes.map (m.context.script, ·)) })

/-- All that a report changes is logs. -/
theorem Reports.run {x : Run Unit} (h : Reports x) (m : Machine) :
    ∃ logs, x m = (.ok (), { m with logs }) := by
  obtain ⟨notes, -, run⟩ := h m
  exact ⟨_, run⟩

/-- Telling the watchers of what is no trace, or what may be traced. -/
theorem reports_notify {w : Warning} {m : Machine} (trace : w.trace → m.context.flags.tracesMore) :
    ∃ notes : List Warning, (∀ w ∈ notes, w.trace → m.context.flags.tracesMore) ∧
      notify w m = (.ok (), { m with logs := m.noted (notes.map (m.context.script, ·)) }) :=
  ⟨[w], by simpa using trace, rfl⟩

theorem reports_report (message : String) (line : UInt32) : Reports (report message line false) :=
  fun _ => reports_notify nofun

/-- A report that is made when the flags of the context say so. -/
theorem reports_when (wanted : DebugFlags → Bool) {x : Context → Run Unit}
    (reports : ∀ c, Reports (x c)) : Reports (do
    let c ← askContext id
    if wanted c.flags then x c) := by
  intro m
  rw [bind_run, askContext_run]
  dsimp only
  split
  · exact reports m.context m
  · exact ⟨[], nofun, rfl⟩

/-- A report of nothing but traces, and not of calls. -/
def OnlyTraces (x : Run Unit) : Prop :=
  ∀ m : Machine, ∃ notes : List Warning, (∀ w ∈ notes, w.trace ∧ m.context.flags.tracesMore) ∧
    x m = (.ok (), { m with logs := m.noted (notes.map (m.context.script, ·)) })

theorem OnlyTraces.reports {x : Run Unit} (h : OnlyTraces x) : Reports x := by
  intro m
  obtain ⟨notes, traces, run⟩ := h m
  exact ⟨notes, fun w told _ => (traces w told).2, run⟩

theorem onlyTraces_when (wanted : DebugFlags → Bool)
    (more : ∀ flags, wanted flags → flags.tracesMore) (message : String) : OnlyTraces (do
      let c ← askContext id
      if wanted c.flags then report message c.line true) := by
  intro m
  rw [bind_run, askContext_run]
  dsimp only
  split
  · exact ⟨[_], by simpa using more m.context.flags ‹_›, rfl⟩
  · exact ⟨[], nofun, rfl⟩

theorem reports_reportError (message : String) (line : UInt32) :
    Reports (reportError message line) :=
  reports_when (·.showErrors) fun _ => reports_report message line

theorem onlyTraces_traceLogic (message : String) : OnlyTraces (traceLogic message) :=
  onlyTraces_when (·.traceLogic) (fun _ wanted => by simp [DebugFlags.tracesMore, wanted]) message

theorem reports_traceLogic (message : String) : Reports (traceLogic message) :=
  (onlyTraces_traceLogic message).reports

theorem reports_traceTaint (message : String) : Reports (traceTaint message) :=
  (onlyTraces_when (·.traceTaint) (fun _ wanted => by simp [DebugFlags.tracesMore, wanted])
    ("taint: " ++ message)).reports

theorem reports_warn (message : String) : Reports (warn message) :=
  reports_when (·.showWarnings) fun c => reports_report message c.line

/-- Going on after a report. -/
theorem Reports.andThen {lax : Prop} {x : Run Unit} (hx : Reports x) {f g : Unit → Run α}
    {post : Post α} {m : Machine} (next : ∀ logs, Agrees lax (f ()) (g ()) post { m with logs }) :
    Agrees lax (x >>= f) (x >>= g) post m := by
  obtain ⟨logs, run⟩ := hx.run m
  refine .bind (.inr ⟨rfl, ?_⟩)
  rw [run]
  exact next logs

/-! ## Blind computations -/

/-- A computation that does the same under any monitor, and that leaves the monitor alone but for
its logs. -/
class Blind (x : Run α) : Prop where
  runs : ∀ m o, ∃ logs, x (m.under o) = ((x m).1, (x m).2.under { o with logs })

/-- A computation that does not even write to logs. -/
theorem Blind.of_same {x : Run α} (h : ∀ m o, x (m.under o) = ((x m).1, (x m).2.under o)) :
    Blind x :=
  ⟨fun m o => ⟨o.logs, h m o⟩⟩

theorem Blind.of_reports {x : Run Unit} (h : Reports x) : Blind x where
  runs m o := by
    obtain ⟨logs, run⟩ := h.run (m.under o)
    obtain ⟨logs', run'⟩ := h.run m
    exact ⟨logs, by rw [run, run']; rfl⟩

instance (x : Run α) (f : α → Run β) [hx : Blind x] [hf : ∀ a, Blind (f a)] : Blind (x >>= f) where
  runs m o := by
    obtain ⟨logs, first⟩ := hx.runs m o
    rw [bind_run, bind_run, first]
    cases run : x m with
    | mk r m₁ =>
      cases r with
      | ok a => exact (hf a).runs m₁ { o with logs }
      | error stop => exact ⟨logs, rfl⟩

instance (a : α) : Blind (pure a) := .of_same fun _ _ => rfl

instance (f : Fault) : Blind (fail f : Run α) := .of_same fun _ _ => rfl

instance (stop : Stop) : Blind (throw stop : Run α) := .of_same fun _ _ => rfl

instance (f : Machine → α) [apart : Machine.Apart f] : Blind (ask f) := .of_same fun m o => by
  rw [ask_run, ask_run, apart.same]

instance (f : Context → α) [apart : Context.Apart f] : Blind (askContext f) :=
  .of_same fun m o => by
    rw [askContext_run, askContext_run]
    exact congrArg (fun a => (Except.ok a, m.under o)) (apart.same m.context o.flags)

instance (f : Heap → α) : Blind (askHeap f) := .of_same fun _ _ => rfl

instance (f : Heap → Heap) : Blind (changeHeap f) := .of_same fun _ _ => rfl

instance (op : HeapM α) : Blind (onHeap op) := .of_same fun m o => by
  have heap : (m.under o).heap = m.heap := rfl
  rw [onHeap_run, onHeap_run, heap]
  cases op m.heap with
  | mk r h => cases r <;> rfl

end Run

/-! ## Functions that show diagnostics -/

/-- Whether a library function shows or sets diagnostics. -/
def LibraryFunction.isDiagnostic : LibraryFunction → Bool
  | .debug | .profile => true
  | _ => false

/-- Whether a function is one of the library that shows or sets diagnostics. -/
def Function.isDiagnostic : Function → Bool
  | .library f => f.isDiagnostic
  | .guarded _ inner => inner.isDiagnostic
  | _ => false

/-! ## Questions -/

namespace Context

instance : Apart (·.script) := ⟨fun _ _ => rfl⟩

instance : Apart (·.scope) := ⟨fun _ _ => rfl⟩

instance : Apart (·.scope.localDepth) := ⟨fun _ _ => rfl⟩

instance : Apart (·.iterators) := ⟨fun _ _ => rfl⟩

instance : Apart (·.iterators.length) := ⟨fun _ _ => rfl⟩

instance : Apart (·.handlers.length) := ⟨fun _ _ => rfl⟩

instance : Apart (·.frameDepth) := ⟨fun _ _ => rfl⟩

instance : Apart (·.marks) := ⟨fun _ _ => rfl⟩

instance : Apart (·.currentSource) := ⟨fun _ _ => rfl⟩

instance : Apart (·.taint) := ⟨fun _ _ => rfl⟩

instance : Apart (·.lastTrace) := ⟨fun _ _ => rfl⟩

instance : Apart (·.flags.throwWarnings) := ⟨fun _ _ => rfl⟩

end Context

namespace Machine

instance : Apart (·.activeCalls) := ⟨fun _ _ => rfl⟩

instance : Apart (·.hosts) := ⟨fun _ _ => rfl⟩

instance (name : String) : Apart (·.hosts.lookup? name) := ⟨fun _ _ => rfl⟩

instance (c : HostClass) (name : String) : Apart (·.hosts.field c name) := ⟨fun _ _ => rfl⟩

instance (c : HostClass) (name : String) (arity : Nat) (isStatic : Bool) :
    Apart (·.hosts.methods c name arity isStatic) := ⟨fun _ _ => rfl⟩

end Machine

end CellScript
