import CellScript.Proofs.Chronicle.Event
import CellScript.Proofs.Engine.Run
import CellScript.Proofs.Eval.Dispatch
import CellScript.Proofs.Eval.Hook

/-!
# Chronicles of runs

The chronicle of a computation follows how it is made: from calls, from what goes on after them, and
from computations that make no calls. Those are blind to what monitors them, since a call would be
seen by a monitor that counts calls, and may tell the watchers something; or they do nothing but to
look at flags or to set them. Everything that evaluators compute is made in this way, so that it has
a chronicle.

## Main definitions

* `Call.ending` — the end of a call.
* `Run.Chronicles` — the chronicle of a computation.
* `Run.chronicled` — computations that have a chronicle.

## Main statements

* `Eval.whole_chronicled` — what evaluators compute has a chronicle.
* `Engine.Request.chronicle`, `Eval.chronicle_invoke` — so has what a host asks for.
-/

namespace CellScript

/-- The end of a call that has come to this. A call that has run out of fuel is still in
progress. -/
def Call.ending (c : Call) : Except Stop CellRef × Machine → List Event
  | (.ok value, m) => [.leave c (some (m.heap.describe value)) m.context.currentSource]
  | (.error (.fault _), m) => [.leave c none m.context.currentSource]
  | (.error .exhausted, _) => []

/-- What happens when a call ends is that it is left. -/
theorem Call.mem_ending {c : Call} {ended : Except Stop CellRef × Machine} {e : Event}
    (h : e ∈ c.ending ended) :
    ∃ result source, e = .leave c result source := by
  obtain ⟨(f | _) | value, m⟩ := ended
  · exact ⟨_, _, List.mem_singleton.mp h⟩
  · cases h
  · exact ⟨_, _, List.mem_singleton.mp h⟩

/-- A computation comes to an end, in some way, or it runs out of fuel. -/
theorem Run.ended_or_exhausted {α : Type} (x : Run α) (m : Machine) :
    (∃ (r : Except Fault α) (m' : Machine), x m = (r.mapError .fault, m')) ∨
    ∃ m', x m = (.error .exhausted, m') := by
  match x m with
  | (.ok a, m') => exact .inl ⟨.ok a, m', rfl⟩
  | (.error (.fault f), m') => exact .inl ⟨.error f, m', rfl⟩
  | (.error .exhausted, m') => exact .inr ⟨m', rfl⟩

/-! ## Looking at flags and setting them -/

namespace Machine.Tells

theorem look {α : Type} (f : Machine → α) (m : Machine) : m.Tells [] (Run.ask f m).2 :=
  ⟨List.forall_mem_nil _, rfl, rfl, rfl, rfl, rfl⟩

theorem setFlags (flags : DebugFlags) (m : Machine) :
    m.Tells [] (Run.changeContext ({ · with flags }) m).2 :=
  ⟨List.forall_mem_nil _, rfl, rfl, rfl, rfl, rfl⟩

theorem keepFlags (flags : DebugFlags) (m : Machine) :
    m.Tells [] (Run.changeOwnScript (fun s => { s with config := { s.config with debug := flags } })
      m).2 :=
  .modifyScript m m.context.script fun _ => rfl

end Machine.Tells

namespace Run

variable {α β : Type}

/-- What happens with calls when a computation is run from a machine, in the order of time. -/
inductive Chronicles : {α : Type} → Run α → Machine → List Event → Prop
  /-- no call is made, but watchers may be told something -/
  | blind {α : Type} {x : Run α} {m : Machine} {notes : List Warning} :
    Blind x → m.Tells notes (x m).2 →
    Chronicles x m (notes.map (.note m.context.script m.context.flags))
  | look {α : Type} {f : Machine → α} {m : Machine} : Chronicles (ask f) m []
  | setFlags {flags : DebugFlags} {m : Machine} :
    Chronicles (changeContext ({ · with flags })) m [.set m.context.script flags]
  | keepFlags {flags : DebugFlags} {m : Machine} :
    Chronicles (changeOwnScript fun s => { s with config := { s.config with debug := flags } }) m
      [.set m.context.script flags]
  | bind {α β : Type} {x : Run α} {f : α → Run β} {m m' : Machine} {a : α} {h h' : List Event} :
    x m = (.ok a, m') →
    Chronicles x m h → Chronicles (f a) m' h' → Chronicles (x >>= f) m (h ++ h')
  /-- a computation that has stopped does not go on -/
  | stop {α β : Type} {x : Run α} {f : α → Run β} {m m' : Machine} {stop : Stop} {h : List Event} :
    x m = (.error stop, m') → Chronicles x m h → Chronicles (x >>= f) m h
  | attempt {α : Type} {x : Run α} {m : Machine} {h : List Event} :
    Chronicles x m h → Chronicles (Run.attempt x) m h
  /-- in a context of its own -/
  | detached {α : Type} {x : Run α} {m : Machine} {s : ScriptRef} {h : List Event} :
    Chronicles x (m.entered s) h →
    Chronicles (Eval.newContext s >>= (Eval.within · x)) m h
  | refuse {name : String} {args : List CellRef} {x : Run CellRef} {m : Machine} :
    m.context.maxDepth ≤ m.activeCalls →
    Chronicles (Eval.dispatch name args x) m [.refuse (.ofMachine m name args)]
  | call {name : String} {args : List CellRef} {x : Run CellRef} {m : Machine} {h : List Event} :
    ¬ m.context.maxDepth ≤ m.activeCalls →
    Chronicles x { m with activeCalls := m.activeCalls + 1 } h →
    Chronicles (Eval.dispatch name args x) m
      (.enter (.ofMachine m name args) ::
        (h ++ (Call.ofMachine m name args).ending (x { m with activeCalls := m.activeCalls + 1 })))

/-- A computation that has a chronicle. -/
def HasChronicle (x : Run α) (m : Machine) : Prop :=
  ∃ h, Chronicles x m h

namespace HasChronicle

variable {x : Run α} {m : Machine}

theorem of_blind (blind : Blind x) : (∃ notes, m.Tells notes (x m).2) → HasChronicle x m
  | ⟨_, tells⟩ => ⟨_, .blind blind tells⟩

theorem bind {f : α → Run β} (hx : HasChronicle x m)
    (hf : ∀ a m', x m = (.ok a, m') → HasChronicle (f a) m') : HasChronicle (x >>= f) m := by
  obtain ⟨h, chronicles⟩ := hx
  cases run : x m with
  | mk r m' =>
    cases r with
    | ok a =>
      obtain ⟨h', after⟩ := hf a m' run
      exact ⟨h ++ h', .bind run chronicles after⟩
    | error stop => exact ⟨h, .stop run chronicles⟩

theorem attempt (hx : HasChronicle x m) : HasChronicle (Run.attempt x) m := by
  obtain ⟨h, chronicles⟩ := hx
  exact ⟨h, .attempt chronicles⟩

theorem dispatch {x : Run CellRef} (name : String) (args : List CellRef)
    (hx : ∀ m, HasChronicle x m) (m : Machine) :
    HasChronicle (Eval.dispatch name args x) m := by
  by_cases full : m.context.maxDepth ≤ m.activeCalls
  · exact ⟨_, .refuse full⟩
  · obtain ⟨h, chronicles⟩ := hx { m with activeCalls := m.activeCalls + 1 }
    exact ⟨_, .call full chronicles⟩

end HasChronicle

/-- Computations that have a chronicle, as a relation that is passed on. -/
def chronicled : Relation :=
  .plain (fun x _ => HasChronicle x) (fun blind _ settles => .of_blind blind settles.tells)
    HasChronicle.bind

instance : chronicled.IsWatchful where
  askContext _ _ := ⟨[], .look⟩
  script _ := ⟨[], .look⟩
  setFlags _ _ := ⟨_, .setFlags⟩
  keepFlags _ _ := ⟨_, .keepFlags⟩

instance : chronicled.IsSimple where
  keeps blind _ _ settles := .of_blind blind settles.tells
  attempt h _ next := HasChronicle.bind h.attempt next

instance : chronicled.IsAttentive where
  attempt h _ next := HasChronicle.bind h.attempt next

instance : chronicled.IsRecording where
  throwText {description text _} :=
    .of_blind (Host.blind_throwText description text) ⟨[], nofun, rfl, rfl, rfl, rfl, rfl⟩

instance (x y : Run α) [h : Related chronicled x y] :
    Related chronicled (Run.attempt x) (Run.attempt y) :=
  ⟨fun m => (h.holds m).attempt⟩

end Run

namespace Eval

open Run (Related chronicled HasChronicle)

variable {x y : Run CellRef}

theorem related_dispatch_chronicled (name : String) (args : List CellRef)
    (h : Related chronicled x y) :
    Related chronicled (dispatch name args x) (dispatch name args y) :=
  ⟨HasChronicle.dispatch name args h.holds⟩

instance : chronicled.IsCarried where
  dispatch name args h := related_dispatch_chronicled name args h
  detached s h := ⟨fun m => by
    obtain ⟨events, chronicles⟩ := h.holds (m.entered s)
    exact ⟨events, .detached chronicles⟩⟩
  verdict := related_verdictOf
  diagnose {f name m} s s' args diagnostic _ :=
    have : Related chronicled (evaluate s name args f) (evaluate s' name args f) :=
      related_diagnostic name args diagnostic
    (related_dispatch_chronicled name args this).holds m

instance : Hook.none.Related chronicled Hook.none where
  block _ _ := id
  step _ _ := id
  call := id
  invoke := id
  callBack h := by
    refine .andThen fun result => ?_
    split <;> infer_instance

/-- What evaluators compute has a chronicle. -/
instance whole_chronicled (n : Nat) : Reentry.Whole chronicled (reentry n) (reentry n) := by
  rw [← hooked_none]
  infer_instance

/-- What a host computes that calls a function. -/
theorem chronicle_invoke (n : Nat) (f : FunctionRef) (message : Option String) (args : List CellRef)
    (m : Machine) :
    ∃ h, (invoke (reentry n) f message args).Chronicles m h :=
  (inferInstance : Related chronicled (invoke (reentry n) f message args)
    (invoke (reentry n) f message args)).holds m

end Eval

/-- What a host computes that runs or calls a script. -/
theorem Engine.Request.chronicle (n : Nat) (s : ScriptRef) (request : Engine.Request)
    (m : Machine) :
    ∃ h, (request.serve (Eval.reentry n) s).Chronicles m h :=
  (inferInstance : Run.Related Run.chronicled (request.serve (Eval.reentry n) s)
    (request.serve (Eval.reentry n) s)).holds m

end CellScript
