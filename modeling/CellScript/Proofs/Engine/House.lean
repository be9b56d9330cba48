import CellScript.Proofs.Engine.Depth
import CellScript.Wire.Value
import Mathlib.Logic.Function.Basic

/-!
# Parties in an engine

Several parties may have their scripts in one engine. A host loads programs for them, runs their
scripts and calls their functions, with new values and with what earlier requests of the same party
have come to. After each deed it takes what was written and what the watchers were told.

## Main definitions

* `Engine.Deed` — what a host does for a party.
* `Engine.House` — an engine, and what the parties hold in it.
* `Engine.House.accounts`, `Engine.House.play` — what the host is told of deeds, and what they
  leave.
* `Engine.House.look` — what the host sees of a script.
* `Engine.House.Undisturbed` — deeds in which no class is imported, nothing is read from the console
  and nothing is asked of the system.
-/

namespace CellScript

/-- What a function is, wherever its closure is. -/
inductive FunctionSight where
  | library (f : LibraryFunction)
  | probe (f : Probe)
  | bound (described : String) (body : Option Block)
  | guarded (policy : TaintPolicy) (inner : FunctionSight)

def Function.sight (h : Heap) : Function → FunctionSight
  | .library f => .library f
  | .probe f => .probe f
  | .bound f => .bound (h.callable f).describe ((h.closure? f).map (·.body))
  | .guarded policy f => .guarded policy (f.sight h)

/-- Functions that are no closures: what a host gives to all scripts, when it gives them no function
of a script. -/
def Environment.IsNative (environment : Environment) : Prop :=
  ∀ entry ∈ environment.functions.entries, entry.2.closure? = none

namespace Engine

/-- What a function is called with: a new value, or what an earlier request of the party has come
to. -/
inductive Offer where
  | document (j : Json)
  | earlier (i : Nat)

def Offer.cell (results : List CellRef) : Offer → HeapM CellRef
  | .document j => Wire.cell Wire.room j
  | .earlier i =>
    match results[i]? with
    | some cell => return cell
    | none => HeapM.null

/-- What a host does for a party. -/
inductive Deed where
  | load (p : Program)
  | run
  | call (function : String) (offers : List Offer)

def Deed.isLoad : Deed → Bool
  | .load _ => true
  | _ => false

/-- What a deed comes to: a script, a value, or nothing, where the party has no script. -/
inductive Answer where
  | script (s : ScriptRef)
  | value (cell : CellRef)
  | nothing

/-- What a party holds in an engine: its script, and what its requests have come to. -/
structure Holding where
  script : Option ScriptRef
  results : List CellRef

namespace Holding

def empty : Holding :=
  ⟨none, []⟩

def after (holding : Holding) : Except Stop Answer → Holding
  | .ok (.script s) => { holding with script := some s }
  | .ok (.value cell) => { holding with results := holding.results ++ [cell] }
  | .ok .nothing | .error _ => holding

end Holding

/-- What is computed for a deed, by an evaluator of a family. -/
def Deed.work (n : Nat) (e : Engine) (holding : Holding) (deed : Deed) : Run Answer :=
  match deed, holding.script with
  | .load p, _ => do return .script (← Eval.install (e.scriptOf p (← e.globalsFor)))
  | .run, some s => do return .value (← Request.run.serve (Eval.reentry n) s)
  | .call function offers, some s => do
    let args ← Run.onHeap (offers.mapM (·.cell holding.results))
    return .value (← (Request.call function args).serve (Eval.reentry n) s)
  | .run, none | .call _ _, none => return .nothing

/-- What a host is told of what a deed has come to: the value, or the class and the wording of a
fault. -/
def tellOutcome (h : Heap) :
    Except Stop Answer → Except (Option (FaultClass × String)) (Option Json)
  | .ok (.value cell) => .ok (some (h.document cell))
  | .ok _ => .ok none
  | .error (.fault f) => .error (some (f.faultClass, h.faultMessage f))
  | .error .exhausted => .error none

/-- What a host is told of a deed. -/
structure Account where
  outcome : Except (Option (FaultClass × String)) (Option Json)
  output : String
  events : List Warning

/-- What a host sees of a script. -/
structure Sight where
  globals : List (String × Option Json)
  functions : List (String × FunctionSight)
  inlines : List (String × Block)
  profile : Profiler
  lastTrace : List StackFrame
  lastStats : FrameStats
  config : EngineConfig

def sight (e : Engine) (s : ScriptRef) : Sight where
  globals := (e.machine.heap.variableNames (e.script s).globals).map fun name =>
    (name, (e.global? s name).map e.machine.heap.document)
  functions := (e.script s).environment.functions.entries.map fun (name, f) =>
    (name, f.sight e.machine.heap)
  inlines := (e.script s).environment.inlines.entries
  profile := (e.script s).profiler
  lastTrace := (e.script s).lastTrace
  lastStats := (e.script s).lastStats
  config := (e.script s).config

/-- An engine, and what the parties hold in it. -/
structure House (ι : Type) where
  engine : Engine
  holdings : ι → Holding

/-! ## Calls in deeds -/

theorem Idle.serve {most : Nat} {m : Machine} (idle : Idle most m) (n : Nat) (s : ScriptRef)
    (request : Request) (ends : (request.serve (Eval.reentry n) s m).1 ≠ .error .exhausted) :
    Idle most (request.serve (Eval.reentry n) s m).2 := by
  obtain ⟨h, chronicles⟩ := request.chronicle n s m
  exact idle.after chronicles.tallies ends

theorem Idle.answer {most : Nat} {m : Machine} {x : Run CellRef}
    (idle : (x m).1 ≠ .error .exhausted → Idle most (x m).2)
    (ends : ((x >>= fun cell => pure (Answer.value cell)) m).1 ≠ .error .exhausted) :
    Idle most ((x >>= fun cell => pure (Answer.value cell)) m).2 := by
  rw [bind_pure_comp, Run.map_run] at ends ⊢
  exact idle fun exhausted => ends (by rw [exhausted]; rfl)

/-- When a deed has come to its end, no call is in progress. -/
theorem idle_work {e : Engine} (idle : Idle e.config.maxCallDepth e.machine) (n : Nat)
    (holding : Holding) (deed : Deed)
    (ends : (deed.work n e holding e.machine).1 ≠ .error .exhausted) :
    Idle e.config.maxCallDepth (deed.work n e holding e.machine).2 := by
  cases deed with
  | load p =>
    have loaded : (Deed.load p).work n e holding e.machine =
        ((e.globalsFor >>= fun globals => Eval.install (e.scriptOf p globals)) >>=
          fun s => pure (.script s)) e.machine := by
      rw [bind_assoc]
      rfl
    rw [loaded, bind_pure_comp, Run.map_run]
    exact idle_load idle p
  | run =>
    unfold Deed.work at ends ⊢
    cases script : holding.script with
    | none => exact idle
    | some s =>
      rw [script] at ends
      exact .answer (idle.serve n s .run) ends
  | call function offers =>
    unfold Deed.work at ends ⊢
    cases script : holding.script with
    | none => exact idle
    | some s =>
      rw [script] at ends
      dsimp only at ends ⊢
      rw [Run.bind_run, Run.onHeap_run] at ends ⊢
      revert ends
      rcases offers.mapM (fun offer => offer.cell holding.results) e.machine.heap with
        ⟨_ | args, heap⟩
      · exact fun _ => idle.of_same rfl rfl rfl
      · have made : Idle e.config.maxCallDepth { e.machine with heap } := idle.of_same rfl rfl rfl
        exact .answer (made.serve n s (.call function args))

namespace House

variable {ι : Type}

/-- A new engine in a system, in which all scripts are given what is in an environment, and nobody
holds anything. -/
def new (config : EngineConfig) (console : Console) (environment : Environment)
    (system : System := .still) :
    House ι where
  engine := { Engine.create config { console with output := "" } system with environment }
  holdings _ := .empty

/-- The engine after a deed, and what the deed has come to. -/
def ended (n : Nat) (who : ι) (deed : Deed) (h : House ι) : Except Stop Answer × Engine :=
  perform (deed.work n h.engine (h.holdings who)) h.engine

/-- What the host is told of a deed. -/
def account (n : Nat) (who : ι) (deed : Deed) (h : House ι) : Account :=
  let (result, e) := h.ended n who deed
  ⟨tellOutcome e.machine.heap result, (takeOutput e).1, (takeEvents 0 e).1⟩

/-- What the host sees of the script of a party. -/
def look (who : ι) (h : House ι) : Option Sight :=
  (h.holdings who).script.map h.engine.sight

/-- A deed comes to an end, and in it no class is imported, nothing is read from the console, and
neither is the system asked for anything nor is a port opened or closed. -/
structure IsQuiet (n : Nat) (who : ι) (deed : Deed) (h : House ι) : Prop where
  ends : (h.ended n who deed).1 ≠ .error .exhausted
  imports : (h.ended n who deed).2.machine.hosts.aliases.entries =
    h.engine.machine.hosts.aliases.entries
  reads : (takeOutput (h.ended n who deed).2).2.machine.console =
    (takeOutput h.engine).2.machine.console
  asks : (h.ended n who deed).2.machine.outside.requests = h.engine.machine.outside.requests
  opens : (h.ended n who deed).2.machine.outside.ports = h.engine.machine.outside.ports

instance {α : Type} : (r : Except Stop α) → Decidable (r = .error .exhausted)
  | .error .exhausted => isTrue rfl
  | .error (.fault _) | .ok _ => isFalse nofun

instance (n : Nat) (who : ι) (deed : Deed) (h : House ι) : Decidable (h.IsQuiet n who deed) :=
  decidable_of_iff
    ((h.ended n who deed).1 ≠ .error .exhausted ∧
      (h.ended n who deed).2.machine.hosts.aliases.entries =
        h.engine.machine.hosts.aliases.entries ∧
        (takeOutput (h.ended n who deed).2).2.machine.console =
        (takeOutput h.engine).2.machine.console ∧
          (h.ended n who deed).2.machine.outside.requests = h.engine.machine.outside.requests ∧
            (h.ended n who deed).2.machine.outside.ports = h.engine.machine.outside.ports)
    ⟨fun ⟨ends, imports, reads, asks, opens⟩ => ⟨ends, imports, reads, asks, opens⟩,
      fun ⟨ends, imports, reads, asks, opens⟩ => ⟨ends, imports, reads, asks, opens⟩⟩

/-- Programs are loaded quietly. -/
theorem isQuiet_load (n : Nat) (who : ι) (p : Program) (h : House ι) :
    h.IsQuiet n who (.load p) := by
  have globals : h.engine.globalsFor.Loads := by
    unfold globalsFor
    cases h.engine.globals <;> exact fun _ => ⟨_, _, rfl, rfl, rfl, rfl⟩
  have loads : (Deed.work n h.engine (h.holdings who) (.load p)).Loads :=
    globals.andThen fun _ => .andThen (Eval.loads_install _) fun _ _ => ⟨_, _, rfl, rfl, rfl, rfl⟩
  obtain ⟨a, m, run, hosts, console, outside⟩ := loads h.engine.machine
  have ended : h.ended n who (.load p) = (.ok a, { h.engine with machine := m }) := by
    unfold ended
    rw [perform_run, run]
  exact ⟨by rw [ended]; nofun, by rw [ended]; exact congrArg (·.aliases.entries) hosts,
    by rw [ended]; exact congrArg (·.takeOutput.2) console,
    by
      rw [ended]; exact congrArg (·.requests) outside, by
        rw [ended]; exact congrArg (·.ports) outside⟩

variable [DecidableEq ι]

/-- What a deed leaves, when the host has taken what was written and what the watchers were told. -/
def act (n : Nat) (who : ι) (deed : Deed) (h : House ι) : House ι :=
  let (result, e) := h.ended n who deed
  { engine := (takeEvents 0 (takeOutput e).2).2
    holdings := Function.update h.holdings who ((h.holdings who).after result) }

/-- What deeds leave. -/
def play (n : Nat) (deeds : List (ι × Deed)) (h : House ι) : House ι :=
  deeds.foldl (fun h deed => h.act n deed.1 deed.2) h

/-- What the host is told of deeds, and for whom they were. -/
def accounts (n : Nat) : List (ι × Deed) → House ι → List (ι × Account)
  | [], _ => []
  | (who, deed) :: rest, h => (who, h.account n who deed) :: (h.act n who deed).accounts n rest

/-- Deeds one after another, in none of which a class is imported, anything is read from the console
or the system is asked for anything. -/
def Undisturbed (n : Nat) : List (ι × Deed) → House ι → Prop
  | [], _ => True
  | (who, deed) :: rest, h => h.IsQuiet n who deed ∧ (h.act n who deed).Undisturbed n rest

instance decidableUndisturbed (n : Nat) :
    (deeds : List (ι × Deed)) → (h : House ι) → Decidable (h.Undisturbed n deeds)
  | [], _ => isTrue trivial
  | (who, deed) :: rest, h =>
    have := decidableUndisturbed n rest (h.act n who deed)
    inferInstanceAs (Decidable (h.IsQuiet n who deed ∧ (h.act n who deed).Undisturbed n rest))

end House

end Engine

end CellScript
