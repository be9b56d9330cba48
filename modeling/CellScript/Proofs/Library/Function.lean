import CellScript.Library.Function
import CellScript.Proofs.Library.Operation

/-!
# Library functions

## Main statements

* Instances of `Run.Related` for `Library.call` and `Library.probe`.
-/

namespace CellScript.Library

open Run (Related)

variable {ρ : Run.Relation} {s s' : Reentry} (args : List CellRef)

/-! ## Arguments -/

instance (i : Nat) : Related ρ (argument args i) (argument args i) := by
  unfold argument
  split <;> infer_instance

instance (i : Nat) : Related ρ (textArgument args i) (textArgument args i) := by
  unfold textArgument
  split <;> infer_instance

instance (i : Nat) : Related ρ (intArgument args i) (intArgument args i) := by
  unfold intArgument
  split <;> infer_instance

instance (i : Nat) : Related ρ (contentArgument args i) (contentArgument args i) := by
  unfold contentArgument
  split <;> infer_instance

instance (function : String) (i : Nat) :
    Related ρ (sequenceArgument function args i) (sequenceArgument function args i) := by
  refine .andThen fun content => ?_
  split <;> infer_instance

instance (function : String) (i : Nat) :
    Related ρ (tableArgument function args i) (tableArgument function args i) := by
  refine .andThen fun content => ?_
  split <;> infer_instance

instance (function : String) (i : Nat) :
    Related ρ (functionArgument function args i) (functionArgument function args i) := by
  refine .andThen fun cell => .andThen fun content => ?_
  split <;> infer_instance

instance (q : SequenceRef) : Related ρ (snapshot q) (snapshot q) :=
  inferInstanceAs (Related ρ (liftM (HeapM.consult _)) (liftM (HeapM.consult _)))

instance : Related ρ nothing nothing :=
  inferInstanceAs (Related ρ (liftM HeapM.null) (liftM HeapM.null))

/-! ## Sequences and maps -/

instance (items : List CellRef) : HeapM.Calm (copies items) :=
  inferInstanceAs (HeapM.Calm (_ >>= _))

instance (cell : CellRef) : HeapM.Calm (pairOf? cell) := by
  refine .andThen fun content => ?_
  split
  · refine .andThen fun object => ?_
    split <;> infer_instance
  · infer_instance

instance : Related ρ (size args) (size args) := by
  refine .andThen fun content => ?_
  split <;> infer_instance

instance : Related ρ (push args) (push args) := inferInstanceAs (Related ρ (_ >>= _) (_ >>= _))

instance : Related ρ (pop args) (pop args) := by
  refine .andThen fun s => .andThen fun cell? => ?_
  split <;> infer_instance

instance : Related ρ (shift args) (shift args) := by
  refine .andThen fun s => .andThen fun cell? => ?_
  split <;> infer_instance

instance : Related ρ (unshift args) (unshift args) :=
  inferInstanceAs (Related ρ (_ >>= _) (_ >>= _))

instance : Related ρ (remove args) (remove args) := by
  refine .andThen fun target => .andThen fun content => ?_
  split
  · infer_instance
  · infer_instance

instance : Related ρ (sublist args) (sublist args) := by
  refine .andThen fun s => .andThen fun first => ?_
  cases args[2]? <;> infer_instance

instance : Related ρ (reverse args) (reverse args) :=
  inferInstanceAs (Related ρ (_ >>= _) (_ >>= _))

instance : Related ρ (keys args) (keys args) := inferInstanceAs (Related ρ (_ >>= _) (_ >>= _))

instance : Related ρ (values args) (values args) := inferInstanceAs (Related ρ (_ >>= _) (_ >>= _))

instance : Related ρ (setMissPolicy args) (setMissPolicy args) :=
  inferInstanceAs (Related ρ (_ >>= _) (_ >>= _))

instance : Related ρ (setRemovalPolicy args) (setRemovalPolicy args) :=
  inferInstanceAs (Related ρ (_ >>= _) (_ >>= _))

instance : Related ρ (setCapacity args) (setCapacity args) := by
  refine .andThen fun t => ?_
  cases args[1]? <;> infer_instance

section Calls

variable [Reentry.RelatedCalls ρ s s']

instance (function : String) (mode : MapOrder) :
    Related ρ (tableOfPairs s function mode args) (tableOfPairs s' function mode args) := by
  refine .andThen fun t => .seq (.forIn fun cell _ => .andThen fun pair? => ?_)
    fun _ => inferInstance
  split <;> infer_instance

instance : Related ρ (add s args) (add s' args) := by
  refine .andThen fun target => .andThen fun content => ?_
  split
  · refine .seq (.forIn fun cell _ => .andThen fun pair? => ?_) fun _ => inferInstance
    split <;> infer_instance
  · infer_instance

instance : Related ρ (copy s args) (copy s' args) := by
  refine .andThen fun content => ?_
  split
  · infer_instance
  · refine .andThen fun mode => .andThen fun new => .andThen fun entries => ?_
    exact .seq (.forIn fun entry _ => inferInstance) fun _ => inferInstance
  · infer_instance

instance : Related ρ (sort s args) (sort s' args) := by
  unfold sort
  split <;> infer_instance

instance : Related ρ (putAll s args) (putAll s' args) := by
  refine .andThen fun t => .andThen fun q => .andThen fun keys => .andThen fun content => ?_
  cases content with
  | sequence values =>
    refine .andThen fun values => .andThen fun pairs => .seq (.forIn fun ⟨key, value?⟩ _ => ?_)
      fun _ => inferInstance
    cases value? <;> infer_instance
  | null | int _ | float _ | text _ | object _ | table _ | function _ =>
    refine .andThen fun pairs => .seq (.forIn fun ⟨key, value?⟩ _ => ?_) fun _ => inferInstance
    cases value? <;> infer_instance

instance : Related ρ (map s args) (map s' args) := inferInstanceAs (Related ρ (_ >>= _) (_ >>= _))

instance : Related ρ (filter s args) (filter s' args) :=
  inferInstanceAs (Related ρ (_ >>= _) (_ >>= _))

end Calls

/-! ## Strings, input and output -/

instance : Related ρ (join args) (join args) := inferInstanceAs (Related ρ (_ >>= _) (_ >>= _))

instance : Related ρ (split args) (split args) := inferInstanceAs (Related ρ (_ >>= _) (_ >>= _))

instance : Related ρ (upper args) (upper args) := inferInstanceAs (Related ρ (_ >>= _) (_ >>= _))

instance : Related ρ (lower args) (lower args) := inferInstanceAs (Related ρ (_ >>= _) (_ >>= _))

instance : Related ρ (length args) (length args) := inferInstanceAs (Related ρ (_ >>= _) (_ >>= _))

instance : Related ρ (substring args) (substring args) := by
  refine .andThen fun text => ?_
  cases args[2]? with
  | none =>
    refine .andThen fun stop => .andThen fun start => ?_
    split <;> infer_instance
  | some cell =>
    refine .andThen fun n => .andThen fun stop => .andThen fun start => ?_
    split <;> infer_instance

instance {α : Type} (o : ObjectRef) (label : String) (result : Except IoFault α × Handle) :
    Related ρ (useHandle o label result) (useHandle o label result) := by
  refine .seq (.changeHeap fun _ => ⟨rfl, rfl, rfl⟩) fun _ => ?_
  split <;> infer_instance

instance (line? : Option String) : Related ρ (lineCell line?) (lineCell line?) := by
  cases line? <;> unfold lineCell <;> infer_instance

instance (ending : String) : Related ρ (write args ending) (write args ending) := by
  unfold write
  split <;>
  · refine .andThen fun handle? => ?_
    cases handle? with
    | some found => infer_instance
    | none =>
      exact .andThen fun text =>
        .seq (.of_serves fun _ => ⟨⟨rfl, rfl, rfl, rfl, rfl⟩, id, rfl, .of_code⟩)
          fun _ => inferInstance

instance : Related ρ (readLine args) (readLine args) := by
  refine .andThen fun handle? => ?_
  split
  · infer_instance
  · exact .andThen fun prompt =>
      .seq (.of_serves fun _ => ⟨⟨rfl, rfl, rfl, rfl, rfl⟩, id, rfl, .of_code⟩)
        fun _ => inferInstance

instance {α : Type} (f : System → Nat → α) : Related ρ (Run.request f) (Run.request f) :=
  .of_serves fun _ => ⟨⟨rfl, rfl, rfl, rfl, rfl⟩, id, rfl, .of_code⟩

instance : Related ρ Run.ports Run.ports :=
  .of_serves fun _ => ⟨⟨rfl, rfl, rfl, rfl, rfl⟩, id, rfl, .of_code⟩

instance (ports : Ports) : Related ρ (Run.changePorts ports) (Run.changePorts ports) :=
  .of_serves fun _ => ⟨⟨rfl, rfl, rfl, rfl, rfl⟩, id, rfl, .of_code⟩

instance : Related ρ (exec args) (exec args) := by
  refine .andThen fun command => ?_
  split
  · infer_instance
  · refine .andThen fun started => ?_
    split <;> infer_instance

instance (i : Nat) : Related ρ (limitArgument args i) (limitArgument args i) :=
  inferInstanceAs (Related ρ (_ >>= _) (_ >>= _))

instance {α β : Type} (ended? : Option (Except WorkerError α × β)) :
    Related ρ (waited ended?) (waited ended?) := by
  cases ended? <;> unfold waited <;> infer_instance

instance {α : Type} (result : Except WorkerError α) :
    Related ρ (collect result) (collect result) := by
  cases result <;> unfold collect <;> infer_instance

instance (c : Connection) : Related ρ (connected c) (connected c) := by
  cases c <;> unfold connected <;> infer_instance

instance (o : ObjectRef) (u : Undertaking Connection) (limit : Option Nat) :
    Related ρ (waitForTask o u limit) (waitForTask o u limit) :=
  .andThen fun _ => .seq (.changeHeap fun _ => ⟨rfl, rfl, rfl⟩) fun _ => inferInstance

instance (o : ObjectRef) (label : String) (handle : Handle) (limit : Option Nat) :
    Related ρ (waitForHandle o label handle limit) (waitForHandle o label handle limit) := by
  refine .andThen fun ended => .andThen fun _ => .andThen fun code? => ?_
  split <;> infer_instance

instance : Related ρ (wait args) (wait args) := by
  refine .andThen fun target => .andThen fun limit => .andThen fun handle? => ?_
  split
  · infer_instance
  · refine .andThen fun content => ?_
    split
    · refine .andThen fun object => ?_
      split <;> infer_instance
    · infer_instance

instance (function : String) (i : Nat) :
    Related ρ (portArgument function args i) (portArgument function args i) := by
  refine .andThen fun n => ?_
  split <;> infer_instance

instance (name : String) (work : Eventual Connection) (limit : Option Nat) (inBackground : Bool) :
    Related ρ (settle name work limit inBackground) (settle name work limit inBackground) := by
  unfold settle
  split <;> infer_instance

instance (i : Nat) : Related ρ (hasFunction args i) (hasFunction args i) := by
  refine .andThen fun content => ?_
  split <;> infer_instance

instance (port : Nat) : Related ρ (openPort port) (openPort port) := by
  refine .andThen fun ports => ?_
  split
  · infer_instance
  · refine .andThen fun bound => .andThen fun ports => ?_
    split <;> infer_instance

instance : Related ρ (listen args) (listen args) := inferInstanceAs (Related ρ (_ >>= _) (_ >>= _))

instance : Related ρ (connect args) (connect args) :=
  inferInstanceAs (Related ρ (_ >>= _) (_ >>= _))

instance : Related ρ (close args) (close args) := by
  refine .andThen fun target => .andThen fun handle? => ?_
  split
  · infer_instance
  · refine .andThen fun content => ?_
    split <;> infer_instance

/-! ## Names, messages and reports -/

instance (name : String) : HeapM.Calm (freshCell name) := by
  unfold freshCell
  split <;> infer_instance

instance : Related ρ (declaredNames args) (declaredNames args) :=
  inferInstanceAs (Related ρ (Run.askHeap _) (Run.askHeap _))

instance : Related ρ (declareLocals args) (declareLocals args) := by
  refine .andThen fun names => .seq (.forIn fun name _ => ?_) fun _ => inferInstance
  refine .andThen fun cell => .inScope fun m => ρ.bind (ρ.holds_putVariable ?_ name cell rfl)
    fun _ m' _ => Related.holds m'
  exact ScopeChain.mem_containers.mpr (.inl (ScopeLevel.top_mem_locals _))

instance : Related ρ (declareThis args) (declareThis args) := by
  refine .andThen fun names => .seq (.forIn fun name _ => ?_) fun _ => inferInstance
  refine .andThen fun cell => .inScope fun m => ?_
  have declared : ρ.holds (Run.changeHeap fun h => (m.context.scope.declareThis h name cell).2)
      (Run.changeHeap fun h => (m.context.scope.declareThis h name cell).2) m := by
    cases private? : m.context.scope.current.this with
    | none =>
      refine ρ.serves inferInstance ?_ (.of_same rfl)
      simp only [Run.changeHeap_run, ScopeChain.declareThis, private?]
      exact .refl m
    | some this =>
      by_cases known : m.heap.hasVariable this name
      · refine ρ.serves inferInstance ?_ (.of_same rfl)
        simp only [Run.changeHeap_run, ScopeChain.declareThis, private?, known, if_true]
        exact .refl m
      · refine ρ.holds_putVariable (ScopeChain.mem_containers.mpr (.inr (.inl private?)))
          name cell ?_
        simp only [ScopeChain.declareThis, private?, if_neg known]
  dsimp only
  split
  · exact ρ.bind (Related.holds m) fun _ _ failed => nomatch failed
  · exact ρ.bind declared fun _ m' _ => Related.holds m'

instance : Related ρ (importClass args) (importClass args) := by
  have naming : ∀ short full : String,
      Related ρ (Run.changeMachine fun m => { m with hosts := m.hosts.addAlias short full })
        (Run.changeMachine fun m => { m with hosts := m.hosts.addAlias short full }) :=
    fun _ _ => .of_serves fun _ => ⟨⟨rfl, rfl, rfl, rfl, rfl⟩, id, rfl, .of_code⟩
  refine .andThen fun full => ?_
  cases args[1]? <;> infer_instance

instance [ρ.IsWatchful] : Related ρ (debug args) (debug args) := by
  refine .andThen fun flags => ?_
  cases args.head? with
  | none => infer_instance
  | some cell => exact .andThen fun level => inferInstance

instance : Related ρ (typeOf args) (typeOf args) := by
  refine .andThen fun content => ?_
  split <;> infer_instance

instance [ρ.IsWatchful] : Related ρ profile profile :=
  inferInstanceAs (Related ρ (_ >>= _) (_ >>= _))

instance : Related ρ stackTrace stackTrace := inferInstanceAs (Related ρ (_ >>= _) (_ >>= _))

/-! ## The library -/

section Calls

variable [Reentry.RelatedCalls ρ s s']

instance : Related ρ (invoke s args) (invoke s' args) := by
  refine .andThen fun target => .andThen fun content => ?_
  cases args[2]? <;> cases content <;> infer_instance

/-- Library functions but for those that show and set diagnostics, which look at their monitor. -/
theorem related_call (f : LibraryFunction) (watchful : f.isDiagnostic → ρ.IsWatchful) :
    Related ρ (call s args f) (call s' args f) := by
  cases f with
  | debug | profile =>
    have := watchful rfl
    unfold call
    infer_instance
  | _ => unfold call; infer_instance

instance [ρ.IsWatchful] (f : LibraryFunction) : Related ρ (call s args f) (call s' args f) :=
  related_call args f fun _ => inferInstance

end Calls

instance (p : Probe) : Related ρ (probe args p) (probe args p) := by
  cases p with
  | slurp =>
    refine .andThen fun found => ?_
    split <;> infer_instance
  | callable =>
    refine .andThen fun content => ?_
    split <;> infer_instance
  | location =>
    exact .ofContext fun c => inferInstance
  | fault | buffer | first => unfold probe; infer_instance

end CellScript.Library
