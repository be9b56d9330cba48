import CellScript.Proofs.Chronicle.Run

/-!
# How deep calls get

All calls of a machine share one count, also those in the contexts that are made for functions of
other scripts and for calls back from host code. A call takes one of it for as long as it is in
progress.

## Main definitions

* `Machine.limits` — how many calls scripts allow.
* `Machine.Allows` — a call finds a limit that contexts of a machine have.
* `Machine.Tallies` — the count of calls agrees with a chronicle.
* `Run.granted` — computations in which calls find the limits of their scripts.

## Main statements

* `Eval.dispatch_refused`, `Eval.dispatch_exhausted`, `Eval.dispatch_ended` — the ways in which
  calls end.
* `Run.Chronicles.tallies` — the count agrees with the chronicle of whatever is computed.
* `Engine.Request.granted`, `Eval.granted_invoke` — the calls in requests find the limits of their
  scripts.
-/

namespace CellScript

namespace Eval

variable {name : String} {args : List CellRef} {x : Run CellRef} {m m' : Machine}

/-- A call that would be too deep fails, whatever it is of, and nothing changes. -/
theorem dispatch_refused (name : String) (args : List CellRef) (x : Run CellRef)
    (full : m.context.maxDepth ≤ m.activeCalls) :
    dispatch name args x m = (.error (.fault (.runtime (.callDepth m.context.maxDepth))), m) := by
  obtain ⟨_, run⟩ := dispatch_run name args m
  rw [run, if_pos full]

/-- A call that runs out of fuel stays in progress. -/
theorem dispatch_exhausted (name : String) (args : List CellRef)
    (room : ¬ m.context.maxDepth ≤ m.activeCalls)
    (run : x { m with activeCalls := m.activeCalls + 1 } = (.error .exhausted, m')) :
    dispatch name args x m = (.error .exhausted, m') := by
  obtain ⟨_, dispatched⟩ := dispatch_run name args m
  rw [dispatched, if_neg room, Run.bind_run, Run.attempt_run, run]

/-- A call that comes to an end in any other way. -/
theorem dispatch_ended (name : String) (args : List CellRef) {r : Except Fault CellRef}
    (room : ¬ m.context.maxDepth ≤ m.activeCalls)
    (run : x { m with activeCalls := m.activeCalls + 1 } = (r.mapError .fault, m')) :
    ∃ logs, dispatch name args x m =
      (r.mapError .fault, { m'.concluded name m.context r with logs }) := by
  obtain ⟨described, dispatched⟩ := dispatch_run name args m
  obtain ⟨logs, concluded⟩ := conclude_run name m.context described r m'
  refine ⟨logs, ?_⟩
  rw [dispatched, if_neg room, Run.bind_run, Run.attempt_run, run, ← concluded]
  cases r <;> rfl

end Eval

/-- How many calls may be in progress in contexts that are made for scripts. -/
def Machine.limits (m : Machine) : Array Nat :=
  m.scripts.map (·.config.maxCallDepth)

/-- A change of a script that does not concern how many calls it allows. -/
theorem Machine.limits_modify (m : Machine) (i : Nat) {f : Script → Script}
    (same : ∀ script, (f script).config.maxCallDepth = script.config.maxCallDepth) :
    ({ m with scripts := m.scripts.modify i f } : Machine).limits = m.limits :=
  Script.map_modify _ same m.scripts i

/-- To tell something does not change how many there may be. -/
theorem Machine.limits_of_tells {m m' : Machine} {notes : List Warning} (tells : m.Tells notes m') :
    m'.limits = m.limits := by
  have same := congrArg (Array.map (·.2.2)) tells.books
  rw [Array.map_map, Array.map_map] at same
  exact same

/-- How many calls may be in progress when a call is made, in the current context or in one that is
made for a script. -/
def Machine.Allows (m : Machine) (c : Call) : Prop :=
  c.script = m.context.script ∧ c.limit = m.context.maxDepth ∨
    c.limit = (m.scripts.getD c.script.index default).config.maxCallDepth

/-- From a machine and by a chronicle, a computation has come to this, as far as the number of calls
is concerned. -/
structure Machine.Tallies {α : Type} (m : Machine) (h : List Event)
    (ended : Except Stop α × Machine) : Prop where
  /-- the calls that are still in progress are those that are counted -/
  opened : ∃ inside, openCalls [] h = some inside ∧
    ended.2.activeCalls = m.activeCalls + inside.length ∧
    (ended.1 ≠ .error .exhausted → inside = [])
  fits : Fits m.activeCalls h
  allows : ∀ e ∈ h, ∀ c, e.tried? = some c → m.Allows c
  here : ended.1 ≠ .error .exhausted →
    ended.2.context.script = m.context.script ∧ ended.2.context.maxDepth = m.context.maxDepth
  limits : ended.2.limits = m.limits

namespace Machine.Tallies

variable {α β : Type} {m m' : Machine} {h h' : List Event} {ended : Except Stop α × Machine}

theorem closed (tallies : m.Tallies h ended) (ends : ended.1 ≠ .error .exhausted) :
    openCalls [] h = some [] ∧ ended.2.activeCalls = m.activeCalls := by
  obtain ⟨inside, opened, calls, none⟩ := tallies.opened
  obtain rfl := none ends
  exact ⟨opened, calls⟩

/-- No call is made. -/
theorem of_tells {notes : List Warning} (tells : m.Tells notes ended.2) :
    m.Tallies (notes.map (.note m.context.script m.context.flags)) ended where
  opened := ⟨[], openCalls_notes notes, tells.calls, fun _ => rfl⟩
  fits := .notes notes
  allows e noted c tried := by
    obtain ⟨w, -, rfl⟩ := List.mem_map.mp noted
    cases tried
  here _ := ⟨tells.script, tells.limit⟩
  limits := limits_of_tells tells

/-- Flags are set. -/
theorem of_set {s : ScriptRef} {flags : DebugFlags} {notes : List Warning}
    (tells : m.Tells notes ended.2) :
    m.Tallies [.set s flags] ended where
  opened := ⟨[], rfl, tells.calls, fun _ => rfl⟩
  fits := .single trivial
  allows e happens c tried := by
    obtain rfl := List.mem_singleton.mp happens
    cases tried
  here _ := ⟨tells.script, tells.limit⟩
  limits := limits_of_tells tells

/-- A computation that goes on. -/
theorem andThen {a : α} {later : Except Stop β × Machine} (first : m.Tallies h (.ok a, m'))
    (second : m'.Tallies h' later) :
    m.Tallies (h ++ h') later := by
  obtain ⟨closed, calls⟩ := first.closed nofun
  obtain ⟨script, limit⟩ := first.here nofun
  dsimp only at calls script limit
  refine ⟨?_, first.fits.append closed (calls ▸ second.fits), fun e happens c tried => ?_,
    fun ends => ?_, ?_⟩
  · rw [openCalls_after closed, ← calls]
    exact second.opened
  · obtain happens | happens := List.mem_append.mp happens
    · exact first.allows e happens c tried
    · exact (second.allows e happens c tried).imp
        (fun ⟨same, most⟩ => ⟨same.trans script, most.trans limit⟩)
        (·.trans (Machine.getD_of_map first.limits c.script.index))
  · obtain ⟨script', limit'⟩ := second.here ends
    exact ⟨script'.trans script, limit'.trans limit⟩
  · exact second.limits.trans first.limits

/-- The same with another outcome. -/
theorem relabel {r : Except Stop α} {r' : Except Stop β} (tallies : m.Tallies h (r, m'))
    (same : r' ≠ .error .exhausted → r ≠ .error .exhausted) : m.Tallies h (r', m') where
  opened := by
    obtain ⟨inside, opened, calls, none⟩ := tallies.opened
    exact ⟨inside, opened, calls, fun ends => none (same ends)⟩
  fits := tallies.fits
  allows := tallies.allows
  here ends := tallies.here (same ends)
  limits := tallies.limits

/-- What was computed in a context of its own. -/
theorem detached {s : ScriptRef} (tallies : (m.entered s).Tallies h ended) :
    m.Tallies h (Run.leaving m.context ended) where
  opened := by
    rcases ended with ⟨(_ | _) | _, m'⟩ <;> exact tallies.opened
  fits := tallies.fits
  allows e happens c tried := by
    obtain ⟨rfl, limit⟩ | limit := tallies.allows e happens c tried
    · exact .inr limit
    · exact .inr limit
  here ends := by
    rcases ended with ⟨(_ | _) | _, m'⟩
    · exact ⟨rfl, rfl⟩
    · exact absurd rfl ends
    · exact ⟨rfl, rfl⟩
  limits := by
    unfold Machine.limits
    rw [Run.leaving_scripts]
    exact tallies.limits

section Calls

variable {c : Call} {r : Except Stop α}

/-- A call that runs out of fuel. -/
theorem cut (room : m.activeCalls < c.limit) (allowed : m.Allows c)
    (tallies : ({ m with activeCalls := m.activeCalls + 1 } : Machine).Tallies h
      ((.error .exhausted, m') : Except Stop α × Machine)) :
    m.Tallies (.enter c :: h) ((.error .exhausted, m') : Except Stop α × Machine) := by
  obtain ⟨inside, opened, calls, -⟩ := tallies.opened
  refine ⟨⟨inside ++ [c], openCalls_enter c opened, ?_, fun ends => absurd rfl ends⟩,
    tallies.fits.enter room, fun e happens c' tried => ?_, fun ends => absurd rfl ends,
    tallies.limits⟩
  · dsimp only at calls ⊢
    rw [calls, List.length_append, List.length_singleton]
    omega
  · obtain rfl | happens := List.mem_cons.mp happens
    · cases tried
      exact allowed
    · exact tallies.allows e happens c' tried

/-- A call that comes to an end gives back what it has taken. -/
theorem giveBack {result source : Option String} (room : m.activeCalls < c.limit)
    (allowed : m.Allows c)
    (tallies : ({ m with activeCalls := m.activeCalls + 1 } : Machine).Tallies h (r, m'))
    (ends : r ≠ .error .exhausted) {m'' : Machine} (calls : m''.activeCalls = m'.activeCalls - 1)
    (same : m''.context.script = m'.context.script ∧ m''.context.maxDepth = m'.context.maxDepth)
    (limits : m''.limits = m'.limits) :
    m.Tallies (.enter c :: (h ++ [.leave c result source])) (r, m'') := by
  obtain ⟨closed, taken⟩ := tallies.closed ends
  have entered : openCalls [] (.enter c :: h) = some [c] := openCalls_enter c closed
  obtain ⟨script, limit⟩ := tallies.here ends
  refine ⟨⟨[], ?_, ?_, fun _ => rfl⟩, (tallies.fits.leave closed).enter room,
    fun e happens c' tried => ?_, fun _ => ⟨same.1.trans script, same.2.trans limit⟩,
    limits.trans tallies.limits⟩
  · rw [← List.cons_append, openCalls_append, entered]
    simp [Event.follow]
  · dsimp only at taken ⊢
    rw [calls, taken, List.length_nil]
    omega
  · rw [List.mem_cons, List.mem_append, List.mem_singleton] at happens
    obtain rfl | happens | rfl := happens
    · cases tried
      exact allowed
    · exact tallies.allows e happens c' tried
    · cases tried

end Calls

/-- A call that was made. -/
theorem call (name : String) (args : List CellRef) {x : Run CellRef}
    (room : ¬ m.context.maxDepth ≤ m.activeCalls)
    (tallies : ({ m with activeCalls := m.activeCalls + 1 } : Machine).Tallies h
      (x { m with activeCalls := m.activeCalls + 1 })) :
    m.Tallies (.enter (.ofMachine m name args) ::
        (h ++ (Call.ofMachine m name args).ending (x { m with activeCalls := m.activeCalls + 1 })))
      (Eval.dispatch name args x m) := by
  have entered : m.activeCalls < (Call.ofMachine m name args).limit := Nat.lt_of_not_le room
  have allowed : m.Allows (.ofMachine m name args) := .inl ⟨rfl, rfl⟩
  obtain ⟨r, m', run⟩ | ⟨m', run⟩ :=
      Run.ended_or_exhausted x { m with activeCalls := m.activeCalls + 1 }
  · obtain ⟨logs, dispatched⟩ := Eval.dispatch_ended name args room run
    have gives (result source : Option String) :
        m.Tallies
          (.enter (.ofMachine m name args) ::
            (h ++ [.leave (.ofMachine m name args) result source]))
          (Eval.dispatch name args x m) := by
      rw [run] at tallies
      rw [dispatched]
      exact tallies.giveBack entered allowed (by cases r <;> nofun) rfl
        ((Context.concluded_here name m.context m'.context r).imp_right And.left)
        (m'.map_concluded _ (fun _ => rfl) r)
    rw [run]
    cases r <;> exact gives _ _
  · rw [run] at tallies
    rw [Eval.dispatch_exhausted name args room run, run, Call.ending, List.append_nil]
    exact tallies.cut entered allowed

end Machine.Tallies

namespace Run

/-- Whatever is computed, the number of calls agrees with the chronicle of it. -/
theorem Chronicles.tallies {α : Type} {x : Run α} {m : Machine} {h : List Event}
    (chronicles : Chronicles x m h) :
    m.Tallies h (x m) := by
  induction chronicles with
  | blind _ tells => exact .of_tells tells
  | @look _ f m => exact .of_tells (.look f m)
  | @setFlags flags m => exact .of_set (.setFlags flags m)
  | @keepFlags flags m => exact .of_set (.keepFlags flags m)
  | bind run _ _ first second =>
    rw [run] at first
    rw [bind_run, run]
    exact first.andThen second
  | stop run _ first =>
    rw [run] at first
    rw [bind_run, run]
    exact first.relabel fun ends same => ends (by cases same; rfl)
  | @attempt _ x m _ _ ih =>
    rw [attempt_run]
    revert ih
    rcases x m with ⟨(f | _) | a, m'⟩ <;> exact fun ih => ih.relabel (by simp)
  | @detached _ x m s _ _ ih =>
    rw [newContext_within, within_eq]
    exact Machine.Tallies.detached ih
  | @refuse name args x m full =>
    rw [Eval.dispatch_refused name args x full]
    refine ⟨⟨[], rfl, rfl, fun _ => rfl⟩, .single full, fun e happens c tried => ?_,
      fun _ => ⟨rfl, rfl⟩, rfl⟩
    obtain rfl := List.mem_singleton.mp happens
    cases tried
    exact .inl ⟨rfl, rfl⟩
  | @call name args x m _ room _ ih => exact .call name args room ih

/-- The limit that a call finds is that of its script. -/
def Granted {α : Type} (x : Run α) (m : Machine) : Prop :=
  ∃ h, Chronicles x m h ∧ ∀ e ∈ h, ∀ c, e.tried? = some c →
    c.limit = (m.scripts.getD c.script.index default).config.maxCallDepth

/-- Computations in which calls find the limits of their scripts, whatever context they begin in. -/
def granted : Relation :=
  .plain (fun x _ => Granted x)
    (fun blind _ settles => by
      obtain ⟨notes, tells⟩ := settles.tells
      refine ⟨_, .blind blind tells, fun e noted c tried => ?_⟩
      obtain ⟨w, -, rfl⟩ := List.mem_map.mp noted
      cases tried)
    fun {α β x y f g m} hx hf => by
      obtain ⟨h, chronicles, grants⟩ := hx
      cases run : x m with
      | mk r m' =>
        cases r with
        | error stop => exact ⟨h, .stop run chronicles, grants⟩
        | ok a =>
          obtain ⟨h', after, grants'⟩ := hf a m' run
          have limits := chronicles.tallies.limits
          rw [run] at limits
          refine ⟨h ++ h', .bind run chronicles after, fun e happens c tried => ?_⟩
          obtain happens | happens := List.mem_append.mp happens
          · exact grants e happens c tried
          · exact (grants' e happens c tried).trans (Machine.getD_of_map limits c.script.index)

instance {α : Type} (x : Run α) (s : ScriptRef) [hx : Related chronicled x x] :
    Related granted (Eval.newContext s >>= (Eval.within · x))
      (Eval.newContext s >>= (Eval.within · x)) := by
  refine ⟨fun m => ?_⟩
  obtain ⟨h, chronicles⟩ := hx.holds (m.entered s)
  refine ⟨h, .detached chronicles, fun e happens c tried => ?_⟩
  obtain ⟨rfl, limit⟩ | limit := chronicles.tallies.allows e happens c tried
  · exact limit
  · exact limit

end Run

/-- Requests are served in contexts of their scripts. -/
theorem Engine.Request.granted (n : Nat) (s : ScriptRef) (request : Engine.Request) (m : Machine) :
    (request.serve (Eval.reentry n) s).Granted m := by
  have body :
      Run.Related Run.chronicled (request.body (Eval.reentry n) s)
        (request.body (Eval.reentry n) s) := by
    cases request <;> unfold Engine.Request.body <;> infer_instance
  have served :
      Run.Related Run.granted (request.serve (Eval.reentry n) s)
        (request.serve (Eval.reentry n) s) := by
    unfold Engine.Request.serve Eval.runInContext
    infer_instance
  exact served.holds m

/-- Functions that a host calls run in contexts of their scripts. -/
theorem Eval.granted_invoke (n : Nat) (f : FunctionRef) (message : Option String)
    (args : List CellRef) (m : Machine) :
    (Eval.invoke (Eval.reentry n) f message args).Granted m := by
  have invoked :
      Run.Related Run.granted (invoke (reentry n) f message args)
        (invoke (reentry n) f message args) := by
    refine .andThen fun callable => ?_
    cases callable with
    | closure c => exact .andThen fun loaded => inferInstance
    | named name owner => exact .andThen fun loaded => inferInstance
    | host name does => infer_instance
  exact invoked.holds m

end CellScript
