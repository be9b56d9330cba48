import CellScript.Proofs.Engine.Run
import CellScript.Proofs.Eval.Hook
import CellScript.Proofs.Map.Request

/-!
# Maps agree at every moment

Policies of a map run in the middle of its operations and may work on the map themselves, before the
operation goes on. What a map answers has to agree at all these moments. A watch looks at all maps
before and after a computation and stops it otherwise; that a run under watch is no different,
wherever it looks, says that it never sees anything.

## Main definitions

* `Heap.MapsAgree` — what the maps of a heap answer agrees.
* `Run.watchMaps` — compute under watch.
* `Run.unseen` — the watch makes no difference, as a relation that computations pass on.
* `MapProgram` — host code that works on maps, and that policies may consist of.

## Main statements

* `MapProgram.related_run` — host code never makes maps disagree, whatever the policies do.
* `Machine.maps_agree` — what maps answer agrees at every moment of every run, of host code and of
  scripts.
-/

namespace CellScript

/-- What the maps of a heap answer to questions agrees. -/
def Heap.MapsAgree (h : Heap) : Prop :=
  ∀ t, h.MapAgrees t

theorem Heap.MapsSound.mapsAgree {h : Heap} (sound : h.MapsSound) : h.MapsAgree :=
  fun t => mapAgrees (sound t)

/-! ## The watch -/

namespace Run

variable {α β : Type} {alarm : Stop}

open Classical in
/-- Compute, and stop unless the answers of all maps agree, before and after. -/
noncomputable def watchMaps (alarm : Stop) (x : Run α) : Run α := fun m =>
  if m.heap.MapsAgree then
    let (result, m') := x m
    if m'.heap.MapsAgree then (result, m') else (.error alarm, m')
  else (.error alarm, m)

/-- From sound maps `y` does what `x` does, and comes to sound maps. -/
def Unseen (x y : Run α) (m : Machine) : Prop :=
  m.heap.MapsSound → y m = x m ∧ (x m).2.heap.MapsSound

theorem Unseen.bind {x y : Run α} {f g : α → Run β} {m : Machine} (hx : Unseen x y m)
    (hf : ∀ a m', x m = (.ok a, m') → Unseen (f a) (g a) m') : Unseen (x >>= f) (y >>= g) m := by
  intro sound
  obtain ⟨same, after⟩ := hx sound
  rw [bind_run, bind_run, same]
  cases run : x m with
  | mk r m' =>
    rw [run] at after
    cases r with
    | ok a => exact hf a m' run after
    | error stop => exact ⟨rfl, after⟩

theorem Unseen.attempt {x y : Run α} {m : Machine} (h : Unseen x y m) :
    Unseen (Run.attempt x) (Run.attempt y) m := by
  intro sound
  obtain ⟨same, after⟩ := h sound
  rw [attempt_run, attempt_run, same]
  refine ⟨rfl, ?_⟩
  rcases run : x m with ⟨(_ | _) | _, m'⟩
  all_goals
    rw [run] at after
    exact after

/-- A watch sees nothing where maps are sound. -/
theorem Unseen.watch {x y : Run α} {m : Machine} (h : Unseen x y m) :
    Unseen x (watchMaps alarm y) m := by
  intro sound
  obtain ⟨same, after⟩ := h sound
  refine ⟨?_, after⟩
  unfold watchMaps
  rw [if_pos sound.mapsAgree, same]
  exact if_pos after.mapsAgree

/-- A watch on maps makes no difference. -/
def unseen : Relation :=
  .plain Unseen (fun _ serves _ sound => ⟨rfl, serves.maps sound⟩) Unseen.bind

instance : unseen.IsGeneral where
  keeps kept sound := ⟨rfl, kept sound⟩
  attempt h _ next := Unseen.bind h.attempt next

instance (x y : Run α) [h : Related unseen x y] : Related unseen (attempt x) (attempt y) :=
  ⟨fun m => Unseen.attempt (h.holds m)⟩

theorem related_watchMaps {x y : Run α} (h : Related unseen x y) :
    Related unseen x (watchMaps alarm y) :=
  ⟨fun m => Unseen.watch (h.holds m)⟩

/-- Host code that calls back does the same when the call does the same. -/
theorem unseen_callBack {s s' : Reentry} {f : FunctionRef} {message : Option String}
    {args : List CellRef}
    (h : Related unseen (s.invoke f message args) (s'.invoke f message args)) :
    Host.Related unseen (Host.callBack s f message args) (Host.callBack s' f message args) := by
  refine .andThen fun result => ?_
  split <;> infer_instance

/-- What is seen by a watch on all blocks, steps and calls. -/
instance : Eval.Hook.none.Related unseen (Eval.Hook.none.around (watchMaps alarm)) where
  block _ _ := related_watchMaps
  step _ _ := related_watchMaps
  call := related_watchMaps
  invoke := related_watchMaps
  callBack := unseen_callBack

end Run

/-! ## Host code that works on maps -/

/-- Host code that works on maps: it asks for operations, also on a map whose policy it is, and goes
on as their replies or faults tell it. It may look at all there is and change what cells hold. -/
inductive MapProgram where
  | give (cell : CellRef)
  | fail (f : Fault)
  | look (next : Heap → MapProgram)
  | newCell (value : Value) (next : CellRef → MapProgram)
  | set (cell : CellRef) (value : Value) (next : MapProgram)
  | newMap (mode : MapOrder) (next : TableRef → MapProgram)
  | request (t : TableRef) (request : MapRequest) (next : Except Fault MapReply → MapProgram)

/-- The host code that functions stand for. -/
abbrev MapPolicies :=
  FunctionRef → Option String → List CellRef → MapProgram

/-- Run host code on maps whose policies are run by `self`, with something done around each
operation. -/
def MapProgram.run (moment : {α : Type} → Run α → Run α) (self : Reentry) : MapProgram → Run CellRef
  | .give cell => return cell
  | .fail f => Run.fail f
  | .look next => do (next (← Run.askHeap id)).run moment self
  | .newCell value next => do (next (← HeapM.alloc value)).run moment self
  | .set cell value next => do
    HeapM.set cell value
    next.run moment self
  | .newMap mode next => do (next (← HeapM.newTable mode)).run moment self
  | .request t asked next => do
    (next (← Run.attempt (moment (asked.perform self t)))).run moment self

/-- Policies that are host code, which may set off policies itself. -/
def MapPolicies.reentry (moment : {α : Type} → Run α → Run α) (policies : MapPolicies) :
    Nat → Reentry
  | 0 => Eval.reentry 0
  | n + 1 =>
    { Eval.reentry 0 with
      invoke :=
        fun f message args => moment
          ((policies f message args).run moment (policies.reentry moment n)) }

namespace MapProgram

open Run (Related unseen watchMaps related_watchMaps)

variable {ρ : Run.Relation} {s s' : Reentry} {alarm : Stop}

instance (t : TableRef) (step : Table → Table) [Table.Keeps step] :
    Related ρ (Run.onMap t step) (Run.onMap t step) :=
  inferInstanceAs (Related ρ (Run.changeHeap fun h => h.modifyTable t step)
    (Run.changeHeap fun h => h.modifyTable t step))

instance (t : TableRef) (asked : MapRequest) [Reentry.Related ρ s s'] :
    Related ρ (asked.perform s t) (asked.perform s' t) := by
  cases asked <;> unfold MapRequest.perform <;> infer_instance

/-- Host code does the same under watch. -/
theorem related_run [Reentry.Related unseen s s'] (program : MapProgram) :
    Related unseen (program.run (fun x => x) s) (program.run (watchMaps alarm) s') := by
  induction program with
  | give cell | fail f => unfold run; infer_instance
  | look next ih => exact .andThen fun heap => ih heap
  | newCell value next ih => exact .andThen fun cell => ih cell
  | set cell value next ih => exact .andThen fun _ => ih
  | newMap mode next ih => exact .andThen fun t => ih t
  | request t asked next ih =>
    have : Related unseen (asked.perform s t) (watchMaps alarm (asked.perform s' t)) :=
      related_watchMaps inferInstance
    exact .andThen fun reply => ih reply

end MapProgram

/-- Policies do the same under watch, at each depth of calls because they do at the one below. -/
instance MapPolicies.related_reentry {alarm : Stop} (policies : MapPolicies) (n : Nat) :
    Reentry.Related Run.unseen (policies.reentry (fun x => x) n)
      (policies.reentry (Run.watchMaps alarm) n) := by
  have stopped {α : Type} : Run.Related Run.unseen (throw .exhausted : Run α) (throw .exhausted) :=
    inferInstance
  induction n with
  | zero =>
    exact
      { call := fun _ _ _ => stopped
        invoke := fun _ _ _ => stopped
        callBack := fun _ _ _ => Run.unseen_callBack stopped }
  | succ n ih =>
    have invoked (f : FunctionRef) (message : Option String) (args : List CellRef) :
        Run.Related Run.unseen
        ((policies.reentry (fun x => x) (n + 1)).invoke f message args)
        ((policies.reentry (Run.watchMaps alarm) (n + 1)).invoke f message args) :=
      Run.related_watchMaps (MapProgram.related_run (policies f message args))
    exact
      { call := fun _ _ _ => stopped
        invoke := invoked
        callBack := fun f message args => Run.unseen_callBack (invoked f message args) }

/-! ## All runs -/

theorem Heap.mapsAgree_empty : Heap.empty.MapsAgree :=
  mapsSound_empty.mapsAgree

namespace Machine

open Run (watchMaps)

/-- Where the answers of all maps agree they do so at every moment of what follows, and at its end.
That goes for host code that works on maps, before and after each operation that it asks for and
each call of a policy, whatever the policies do to the map in the middle of the operation, and
whether they fail. It goes for runs and calls of scripts, and for calls of functions by the host,
before and after each block, each step and each call. -/
theorem maps_agree {m : Machine} (h : m.heap.MapsAgree) (alarm : Stop) :
    (∀ (policies : MapPolicies) n (program : MapProgram),
      program.run (watchMaps alarm) (policies.reentry (watchMaps alarm) n) m =
          program.run (fun x => x) (policies.reentry (fun x => x) n) m ∧
        (program.run (fun x => x) (policies.reentry (fun x => x) n) m).2.heap.MapsAgree) ∧
    (∀ n s (request : Engine.Request),
      request.serve (Eval.hooked (Eval.Hook.none.around (watchMaps alarm)) n) s m =
          request.serve (Eval.reentry n) s m ∧
        (request.serve (Eval.reentry n) s m).2.heap.MapsAgree) ∧
    ∀ n f message args,
      Eval.invoke (Eval.hooked (Eval.Hook.none.around (watchMaps alarm)) n) f message args m =
          Eval.invoke (Eval.reentry n) f message args m ∧
        (Eval.invoke (Eval.reentry n) f message args m).2.heap.MapsAgree := by
  have sound : m.heap.MapsSound := fun t => (h t).sound
  have ends {α : Type} {x y : Run α} (related : Run.Related Run.unseen x y) : y m = x m ∧
    (x m).2.heap.MapsAgree :=
    have unseen : Run.Unseen x y m := related.holds m
    ⟨(unseen sound).1, (unseen sound).2.mapsAgree⟩
  refine ⟨fun policies n program => ends (MapProgram.related_run program), fun n s request => ?_,
    fun n f message args => ?_⟩
  · rw [← Eval.hooked_none n]
    exact ends inferInstance
  · rw [← Eval.hooked_none n]
    exact ends inferInstance

/-! ## Policies that meddle -/

/-- A removal policy that clears the map which it is asked about, and a miss policy that puts the
key itself. -/
def meddling : MapPolicies := fun f _ args => .look fun h =>
  match h.content (args.headD ⟨0⟩), h.content (args.getD 1 ⟨0⟩) with
  | .table t, .text key =>
    if f.index = 0 then .request t .clear fun _ => .give (args.headD ⟨0⟩)
    else .newCell .null fun cell => .request t (.put key cell) fun _ =>
      .fail (.runtime .divisionByZero)
  | _, _ => .fail (.nullDereference .call)

/-- Use a map with such policies. -/
def meddled : MapProgram :=
  .newMap .access fun t =>
    .request t (.setRemoval (some (.call ⟨0⟩))) fun _ =>
      .request t (.setMiss (some (.call ⟨1⟩))) fun _ =>
        .request t (.getOrCreate "a") fun _ => .newCell .null .give

theorem maps_agree_meddled :
    Heap.empty.MapsAgree ∧
      meddled.run (watchMaps .exhausted) (meddling.reentry (watchMaps .exhausted) 4)
          { (default : Machine) with heap := .empty } =
        meddled.run (fun x => x) (meddling.reentry (fun x => x) 4)
          { (default : Machine) with heap := .empty } :=
  ⟨Heap.mapsAgree_empty, ((maps_agree Heap.mapsAgree_empty .exhausted).1 meddling 4 meddled).1⟩

end Machine

end CellScript
