import CellScript.Proofs.Chronicle.Depth
import CellScript.Proofs.Diagnostics.Inert

/-!
# Flags in chronicles

Calls are traced and counted as the flags say that are found in the context. A context that is made
for a script begins with the flags of its script. Unless flags are set, all that happens in a script
happens under the same flags. They are set by a function of the library, which is called like all
others: no flags are set in a chronicle unless a function has been called that stands for it.

## Main definitions

* `DebugFlags.calls` — what flags have to do with calls.
* `Machine.Under` — a script and its current context are under certain flags.
* `SetBy` — flags are set only where functions of certain names are called.
* `Run.attributed` — computations of which the chronicle tells who sets flags.

## Main statements

* `Run.Chronicles.under` — while no others are set, all that happens in a script is under the same
  flags.
* `Eval.whole_attributed` — the chronicle of all that is evaluated tells who sets flags.
-/

namespace CellScript

/-- What flags have to do with calls: whether they are traced and counted, and whether other things
are traced. -/
def DebugFlags.calls (flags : DebugFlags) : Bool × Bool × Bool :=
  (flags.traceCalls, flags.profile, flags.tracesMore)

/-- A script is under such flags, and so is the current context if it belongs to the script. -/
structure Machine.Under (s : ScriptRef) (k : Bool × Bool × Bool) (m : Machine) : Prop where
  known : s.index < m.scripts.size
  script : (m.scripts.getD s.index default).config.debug.calls = k
  context : m.context.script = s → m.context.flags.calls = k

namespace Machine.Under

variable {s : ScriptRef} {k : Bool × Bool × Bool} {m m' : Machine}

/-- A context that is made for a script. -/
theorem entered (known : s.index < m.scripts.size)
    (script : (m.scripts.getD s.index default).config.debug.calls = k) (t : ScriptRef) :
    (m.entered t).Under s k where
  known := known
  script := script
  context same := by
    change (m.scripts.getD t.index default).config.debug.calls = k
    obtain rfl : t = s := same
    exact script

/-- Nothing has changed in flags. -/
theorem of_same (under : m.Under s k)
    (scripts : m'.scripts.map (·.config.debug.calls) = m.scripts.map (·.config.debug.calls))
    (here : m'.context.script = m.context.script)
    (flags : m'.context.flags.calls = m.context.flags.calls) :
    m'.Under s k where
  known := by
    have size : m'.scripts.size = m.scripts.size := by simpa using congrArg Array.size scripts
    exact size.symm ▸ under.known
  script := (getD_of_map (f := (·.config.debug.calls)) scripts s.index).trans under.script
  context same := flags.trans (under.context (here.symm.trans same))

/-- Flags are set in the current context. -/
theorem setFlags (under : m.Under s k) {flags : DebugFlags}
    (kept : m.context.script = s → flags.calls = k) :
    (Run.changeContext ({ · with flags }) m).2.Under s k :=
  ⟨under.known, under.script, kept⟩

/-- Flags are set in the current script. -/
theorem keepFlags (under : m.Under s k) {flags : DebugFlags}
    (kept : m.context.script = s → flags.calls = k) :
    (Run.changeOwnScript (fun s => { s with config := { s.config with debug := flags } }) m).2.Under
      s k where
  known := Array.size_modify.symm ▸ under.known
  script := by
    change ((m.scripts.modify m.context.script.index _).getD s.index default).config.debug.calls = k
    have before := under.script
    rw [Array.getD_eq_getD_getElem?] at before ⊢
    rw [Array.getElem?_modify]
    split
    case isTrue same =>
      have here : m.context.script = s := congrArg ScriptRef.mk same
      rw [Array.getElem?_eq_getElem under.known]
      exact kept here
    case isFalse => exact before
  context := under.context

/-- A context is left that was made for a script. -/
theorem left {α : Type} (under : m.Under s k) {ended : Except Stop α × Machine}
    (there : ended.2.Under s k) :
    (Run.leaving m.context ended).2.Under s k where
  known := by
    rw [Run.leaving_scripts]
    exact there.known
  script := by
    rw [Run.leaving_scripts]
    exact there.script
  context := by
    rcases ended with ⟨(_ | _) | _, m'⟩
    · exact under.context
    · exact there.context
    · exact under.context

end Machine.Under

/-- A blind computation leaves flags alone. -/
theorem Run.Blind.calls {α : Type} {x : Run α} (blind : Blind x) {m : Machine}
    (size : (x m).2.scripts.size = m.scripts.size) :
    (x m).2.scripts.map (·.config.debug.calls) = m.scripts.map (·.config.debug.calls) ∧
      (x m).2.context.flags.calls = m.context.flags.calls := by
  obtain ⟨logs, same⟩ := blind.monitor m
  refine ⟨Array.ext (by simpa using size) fun i h₁ h₂ => ?_, congrArg (·.context.flags.calls) same⟩
  have bound : i < m.scripts.size := by simpa using h₂
  have there := (x m).2.getD_under { m.monitor with logs } i
  rw [← same, size, if_pos bound] at there
  have debug := congrArg (·.config.debug.calls) there
  simpa [Array.getD_eq_getD_getElem?, bound, size, Script.under, Machine.monitor, DebugFlags.under,
    DebugFlags.calls, DebugFlags.tracesMore] using debug

/-- The machine after a call that has ended. -/
theorem Machine.Under.called {s : ScriptRef} {k : Bool × Bool × Bool} {m' : Machine}
    (there : m'.Under s k) (name : String) (c : Context) (r : Except Fault CellRef)
    (logs : Array (List Warning)) :
    ({ m'.concluded name c r with logs } : Machine).Under s k := by
  obtain ⟨script, -, flags⟩ := Context.concluded_here name c m'.context r
  exact there.of_same (m'.map_concluded _ (fun _ => rfl) r) script (congrArg _ flags)

namespace Run.Chronicles

variable {s : ScriptRef} {k : Bool × Bool × Bool}

/-- What happens in the same script while flags are set, or where they are not looked at. -/
theorem single {e : Event} (same : e.script = s → e.flags.calls = k) :
    ∀ e' ∈ [e], e'.script = s → e'.flags.calls = k := by
  simpa using same

/-- Whatever is computed, while no other flags are set all that happens in a script is under the
same flags. -/
theorem under {α : Type} {x : Run α} {m : Machine} {h : List Event} (chronicles : Chronicles x m h)
    (under : m.Under s k) (kept : ∀ flags, Event.set s flags ∈ h → flags.calls = k) :
    (∀ e ∈ h, e.script = s → e.flags.calls = k) ∧ (x m).2.Under s k := by
  induction chronicles with
  | @blind _ x m notes blind tells =>
    have size : (x m).2.scripts.size = m.scripts.size := by
      simpa using congrArg Array.size tells.books
    have still := blind.calls size
    refine ⟨fun e noted same => ?_, under.of_same still.1 tells.script still.2⟩
    obtain ⟨w, -, rfl⟩ := List.mem_map.mp noted
    exact under.context same
  | look => exact ⟨List.forall_mem_nil _, under⟩
  | @setFlags flags m =>
    have here : m.context.script = s → flags.calls = k := fun same => kept flags (by simp [same])
    exact ⟨single here, under.setFlags here⟩
  | @keepFlags flags m =>
    have here : m.context.script = s → flags.calls = k := fun same => kept flags (by simp [same])
    exact ⟨single here, under.keepFlags here⟩
  | @bind _ _ x f m m' a h h' run _ _ first second =>
    have ⟨before, there⟩ := first under fun flags set => kept flags (List.mem_append_left _ set)
    rw [run] at there
    have ⟨after, last⟩ := second there fun flags set => kept flags (List.mem_append_right _ set)
    rw [bind_run, run]
    exact ⟨fun e happens => (List.mem_append.mp happens).elim (before e) (after e), last⟩
  | stop run _ first =>
    have ⟨before, there⟩ := first under kept
    rw [run] at there
    rw [bind_run, run]
    exact ⟨before, there⟩
  | @attempt _ x m _ _ ih =>
    have ⟨before, there⟩ := ih under kept
    rw [attempt_run]
    revert there
    rcases x m with ⟨(f | _) | a, m'⟩ <;> exact fun there => ⟨before, there⟩
  | @detached _ x m t h _ ih =>
    have ⟨before, there⟩ := ih (.entered under.known under.script t) kept
    rw [newContext_within, within_eq]
    exact ⟨before, Machine.Under.left under there⟩
  | @refuse name args x m full =>
    rw [Eval.dispatch_refused name args x full]
    exact ⟨single under.context, under⟩
  | @call name args x m h room chronicles ih =>
    have entered : ({ m with activeCalls := m.activeCalls + 1 } : Machine).Under s k :=
      ⟨under.known, under.script, under.context⟩
    have ⟨inside, there⟩ := ih entered fun flags set => kept flags (by simp [set])
    refine ⟨fun e happens same => ?_, ?_⟩
    · rw [List.mem_cons, List.mem_append] at happens
      obtain rfl | happens | happens := happens
      · exact under.context same
      · exact inside e happens same
      · obtain ⟨result, source, rfl⟩ := Call.mem_ending happens
        exact under.context same
    · obtain ⟨r, m', run⟩ | ⟨m', run⟩ :=
          ended_or_exhausted x { m with activeCalls := m.activeCalls + 1 }
      · obtain ⟨logs, ended⟩ := Eval.dispatch_ended name args room run
        rw [run] at there
        rw [ended]
        exact there.called name m.context r logs
      · rw [run] at there
        rw [Eval.dispatch_exhausted name args room run]
        exact there

end Run.Chronicles

/-! ## Who sets flags -/

/-- Flags are set in a chronicle only if a function of one of some names is called in it. -/
def SetBy (names : List String) (h : List Event) : Prop :=
  ∀ s flags, .set s flags ∈ h → ∃ c, .enter c ∈ h ∧ c.name ∈ names

theorem SetBy.of_call {names : List String} {h : List Event} {c : Call} (named : c.name ∈ names) :
    SetBy names (.enter c :: h) :=
  fun _ _ _ => ⟨c, List.mem_cons_self, named⟩

theorem SetBy.append {names : List String} {h h' : List Event} (first : SetBy names h)
    (second : SetBy names h') :
    SetBy names (h ++ h') := by
  intro s flags set
  obtain set | set := List.mem_append.mp set
  · obtain ⟨c, entered, named⟩ := first s flags set
    exact ⟨c, List.mem_append_left _ entered, named⟩
  · obtain ⟨c, entered, named⟩ := second s flags set
    exact ⟨c, List.mem_append_right _ entered, named⟩

namespace Run

variable {α β : Type} {names : List String} {m : Machine}

/-- A computation that keeps counts, and of which the chronicle tells who sets flags. -/
structure Attributed (names : List String) (x : Run α) (m : Machine) : Prop where
  keeps : m.KeepsCounts (x m).2
  chronicle : m.Knows names → ∃ h, Chronicles x m h ∧ SetBy names h

namespace Attributed

theorem of_blind {x : Run α} (blind : Blind x) (upholds : m.Upholds (x m).2) :
    (∃ notes, m.Tells notes (x m).2) → Attributed names x m := by
  intro ⟨notes, tells⟩
  have counted : Counted [] x x m := .of_blind blind upholds
  refine ⟨counted.keeps, fun _ => ⟨_, .blind blind tells, fun s flags set => ?_⟩⟩
  obtain ⟨w, -, note⟩ := List.mem_map.mp set
  cases note

theorem bind {x : Run α} {f : α → Run β} (hx : Attributed names x m)
    (hf : ∀ a m', x m = (.ok a, m') → Attributed names (f a) m') :
    Attributed names (x >>= f) m := by
  have keeps := hx.keeps
  cases run : x m with
  | mk r m' =>
    rw [run] at keeps
    cases r with
    | ok a =>
      have after := hf a m' run
      refine ⟨by rw [bind_run, run]; exact keeps.trans after.keeps, fun knows => ?_⟩
      obtain ⟨h, first, setBy⟩ := hx.chronicle knows
      obtain ⟨h', second, setBy'⟩ := after.chronicle (keeps.knows names knows)
      exact ⟨h ++ h', .bind run first second, setBy.append setBy'⟩
    | error stop =>
      refine ⟨by rw [bind_run, run]; exact keeps, fun knows => ?_⟩
      obtain ⟨h, first, setBy⟩ := hx.chronicle knows
      exact ⟨h, .stop run first, setBy⟩

theorem attempt {x : Run α} (hx : Attributed names x m) : Attributed names (Run.attempt x) m where
  keeps := by
    have keeps := hx.keeps
    rw [attempt_run]
    revert keeps
    rcases x m with ⟨(_ | _) | _, _⟩ <;> exact id
  chronicle knows := by
    obtain ⟨h, chronicles, setBy⟩ := hx.chronicle knows
    exact ⟨h, .attempt chronicles, setBy⟩

theorem detached {x : Run α} {s : ScriptRef} (hx : Attributed names x (m.entered s)) :
    Attributed names (Eval.newContext s >>= (Eval.within · x)) m where
  keeps := by
    have entered : m.KeepsCounts (m.entered s) := .of_scripts rfl
    rw [newContext_within, within_eq]
    exact (entered.trans hx.keeps).trans (.of_scripts (leaving_scripts ..))
  chronicle knows := by
    obtain ⟨h, chronicles, setBy⟩ := hx.chronicle knows
    exact ⟨h, .detached chronicles, setBy⟩

/-- What a call keeps that was made. -/
theorem keeps_dispatch (name : String) (args : List CellRef) {x : Run CellRef}
    (room : ¬ m.context.maxDepth ≤ m.activeCalls)
    (keeps : m.KeepsCounts (x { m with activeCalls := m.activeCalls + 1 }).2) :
    m.KeepsCounts (Eval.dispatch name args x m).2 := by
  obtain ⟨r, m', run⟩ | ⟨m', run⟩ :=
      ended_or_exhausted x { m with activeCalls := m.activeCalls + 1 }
  · obtain ⟨logs, dispatched⟩ := Eval.dispatch_ended name args room run
    rw [run] at keeps
    rw [dispatched]
    exact keeps.trans Machine.keepsCounts_concluded
  · rw [run] at keeps
    rw [Eval.dispatch_exhausted name args room run]
    exact keeps

theorem dispatch (name : String) (args : List CellRef) {x : Run CellRef}
    (hx : ∀ m, Attributed names x m) (m : Machine) :
    Attributed names (Eval.dispatch name args x) m := by
  by_cases full : m.context.maxDepth ≤ m.activeCalls
  · refine ⟨by rw [Eval.dispatch_refused name args x full]; exact .refl m,
      fun _ => ⟨_, .refuse full, ?_⟩⟩
    exact fun s flags set => nomatch List.mem_singleton.mp set
  · have inside := hx { m with activeCalls := m.activeCalls + 1 }
    have active : m.KeepsCounts { m with activeCalls := m.activeCalls + 1 } := .of_scripts rfl
    refine ⟨keeps_dispatch name args full (active.trans inside.keeps), fun knows => ?_⟩
    obtain ⟨h, chronicles, setBy⟩ := inside.chronicle knows
    refine ⟨_, .call full chronicles, fun s flags set => ?_⟩
    rw [List.mem_cons, List.mem_append] at set
    obtain set | set | set := set
    · cases set
    · obtain ⟨c, entered, named⟩ := setBy s flags set
      exact ⟨c, List.mem_cons_of_mem _ (List.mem_append_left _ entered), named⟩
    · obtain ⟨_, _, left⟩ := Call.mem_ending set
      cases left

end Attributed

/-- Computations of which the chronicle tells who sets flags, as a relation that is passed on. -/
def attributed (names : List String) : Relation :=
  .plain (fun x _ => Attributed names x)
    (fun blind serves settles => .of_blind blind (.of_quiet serves.quiet) settles.tells)
    Attributed.bind

instance : (attributed names).IsCurious where
  askContext _ _ := ⟨.refl _, fun _ => ⟨[], .look, nofun⟩⟩
  script _ := ⟨.refl _, fun _ => ⟨[], .look, nofun⟩⟩

instance : (attributed names).IsSimple where
  keeps blind _ upholds settles := .of_blind blind upholds settles.tells
  attempt h _ next := Attributed.bind h.attempt next

instance : (attributed names).IsAttentive where
  attempt h _ next := Attributed.bind h.attempt next

instance : (attributed names).IsRecording where
  throwText {description text _} :=
    .of_blind (Host.blind_throwText description text)
      (.of_quiet (Host.serves_throwText description text _).quiet)
      ⟨[], nofun, rfl, rfl, rfl, rfl, rfl⟩

instance (x y : Run α) [h : Related (attributed names) x y] :
    Related (attributed names) (Run.attempt x) (Run.attempt y) :=
  ⟨fun m => (h.holds m).attempt⟩

end Run

namespace Eval

open Run (Related attributed Attributed)

variable {names : List String}

/-- A call of a function that sets flags. -/
theorem attributed_diagnose {f : Function} {name : String} {m : Machine} (s : Reentry)
    (args : List CellRef) (diagnostic : f.isDiagnostic)
    (found : m.own.environment.functions.get? name = some f) :
    Attributed names (dispatch name args (evaluate s name args f)) m where
  keeps :=
    have counted : Run.Counted [] _ _ m := counted_diagnose s s args diagnostic found
    counted.keeps
  chronicle knows := by
    have evaluated : Related Run.chronicled (evaluate s name args f) (evaluate s name args f) :=
      related_diagnostic name args diagnostic
    by_cases full : m.context.maxDepth ≤ m.activeCalls
    · exact ⟨_, .refuse full, fun s flags set => nomatch List.mem_singleton.mp set⟩
    · obtain ⟨h, chronicles⟩ := evaluated.holds { m with activeCalls := m.activeCalls + 1 }
      refine ⟨_, .call full chronicles, .of_call ?_⟩
      by_contra unnamed
      have innocent := knows m.context.script name unnamed
      unfold Machine.every at innocent
      change (m.own.environment.functions.get? name).all _ at innocent
      simp [found, diagnostic] at innocent

instance : (attributed names).IsCarried where
  dispatch name args h := ⟨Attributed.dispatch name args h.holds⟩
  detached s h := ⟨fun m => (h.holds (m.entered s)).detached⟩
  verdict := related_verdictOf
  diagnose s _ args diagnostic found := attributed_diagnose s args diagnostic found

instance : Hook.none.Related (attributed names) Hook.none where
  block _ _ := id
  step _ _ := id
  call := id
  invoke := id
  callBack h := by
    refine .andThen fun result => ?_
    split <;> infer_instance

instance whole_attributed (names : List String) (n : Nat) :
    Reentry.Whole (attributed names) (reentry n) (reentry n) := by
  rw [← hooked_none]
  infer_instance

end Eval

end CellScript
