import CellScript.Eval.Block
import CellScript.Proofs.Eval.Control

/-!
# Blocks

A block takes the shape of its steps through one step after another and ends with nothing open but
what a suspension keeps. From this evaluators that agree at one depth of the recursion agree at the
next.

## Main definitions

* `Performs` — two ways to perform steps that agree.

## Main statements

* `agrees_steps` — the steps of a block.
* `agrees_blockBy` — a block, from its start or from where it was suspended.
* `agree_next` — agreement at the next depth of the recursion.
-/

namespace CellScript.Eval

open Run (Tidy Agrees)

variable {lax : Prop} {s s' : Reentry} {m₀ m m' : Machine} {outer own : List IterState}
  {slack slips k n index : Nat} {σ τ : Shape} {b : Block} {i : Instruction} {line : UInt32}
  {flow : Flow} {fresh : Prop}

/-! ## Flow steps -/

/-- A flow step leaves the block where nothing is open. -/
def Leaps (m₀ : Machine) (outer : List IterState) (slack : Nat) : Run.Post Flow
  | .ok flow, m => m₀.At outer slack .flat m ∧ flow ≠ .normal ∧
    ∀ value cursor, flow = .yield value cursor ∨ flow = .callcc value cursor → cursor = []
  | .error _, m => m₀.Torn outer slack m

theorem leaps_flowWith (cell : CellRef) (kind : FlowKind) (h : m₀.At outer slack .flat m) :
    Leaps m₀ outer slack (.ok (flowWith cell kind)) m := by
  refine ⟨h, ?_, ?_⟩
  · cases kind <;> nofun
  · cases kind <;> simp [flowWith]

theorem agrees_flowOf (kind : FlowKind) (value : Bool)
    (hi : (Instruction.flow kind value).shape? σ = some τ) (h : m₀.At outer slack σ m) :
    Agrees lax (flowOf kind value) (flowOf kind value) (Leaps m₀ outer slack) m := by
  cases value with
  | true =>
    obtain ⟨ρ, collapsed, outside⟩ := Option.bind_eq_some_iff.mp hi
    obtain rfl := Shape.eq_of_collapse collapsed
    obtain ⟨rfl, -, -⟩ := Shape.eq_of_statement outside
    refine .andThen (Run.agrees_pop h) (fun cell m₁ h₁ => ?_) fun _ _ h => h
    exact .killThen h₁ fun _ _ h₂ => .pure (leaps_flowWith cell kind h₂)
  | false =>
    obtain ⟨rfl, -, -⟩ := Shape.eq_of_statement hi
    exact .tidy h (fun cell _ h => .pure (leaps_flowWith cell kind h)) fun _ _ h => h

/-! ## Steps -/

/-- What a step of shape `σ` comes to that began at its start. -/
structure Stepped (m₀ : Machine) (outer : List IterState) (slack : Nat) (σ τ : Shape)
    (i : Instruction) (r : Except Fault Flow) (m : Machine) : Prop where
  next : r = .ok .normal → m₀.At outer slack τ m
  ends : r ≠ .ok .normal → m₀.Ends outer slack 0 (fun c => (i.opens? c).map (σ.iterators + ·))
    True r m
  plain : i.isOperand → Flow.isPlain r

theorem Goes.stepped {r : Except Fault Flow} (h : Goes m₀ outer slack τ r m) :
    Stepped m₀ outer slack σ τ i r m := by
  match r, h with
  | .ok .normal, h => exact ⟨fun _ => h, fun ne => absurd rfl ne, fun _ => rfl⟩
  | .error f, h => exact ⟨nofun, fun _ => h.ends fun n enough => enough, fun _ => rfl⟩

theorem Leaps.stepped {r : Except Fault Flow} {kind : FlowKind} {value : Bool}
    (hi : (Instruction.flow kind value).shape? σ = some τ) (h : Leaps m₀ outer slack r m) :
    Stepped m₀ outer slack σ τ (.flow kind value) r m := by
  refine ⟨?_, fun _ => ?_, nofun⟩
  · rintro rfl
    exact absurd rfl h.2.1
  · obtain ⟨none_open, -⟩ := Instruction.shape?_flow hi
    cases r with
    | error f => exact h.ends fun n enough => enough
    | ok flow =>
      obtain ⟨here, ne, position⟩ := h
      have flat : m₀.Ends outer slack 0 (fun _ => none) True (.ok .normal) m := here.ends
      refine flat.relabel (fun _ => rfl) fun n ⟨lower, upper⟩ => ?_
      have whole : ∃ k, ((Instruction.flow kind value).opens? []).map (σ.iterators + ·) = some k ∧
        slack + k ≤ n ∧
          n ≤ slack + k + 0 :=
            ⟨0, by simp [Instruction.opens?, Instruction.isFlow, none_open], lower, upper⟩
      cases flow with
      | normal => exact absurd rfl ne
      | yield cell cursor =>
        obtain rfl := position cell cursor (.inl rfl)
        exact whole
      | callcc cell cursor =>
        obtain rfl := position cell cursor (.inr rfl)
        exact whole
      | «break» | «continue» => exact ⟨lower, upper⟩
      | «return» | throw => exact lower

/-- A compound step that began at its start. -/
theorem ended_stepped {r : Except Fault Flow} (compound : i.isSimple = false)
    (flow : i.isFlow = false) (hi : i.shape? σ = some τ) (h : m₀.At outer slack σ m)
    (ended : i.Ended σ.iterators none m outer (slack + σ.iterators) r m') :
    Stepped m₀ outer slack σ τ i r m' := by
  obtain ⟨rfl, outside⟩ := Instruction.shape?_compound compound flow hi
  obtain ⟨frames, iterators⟩ := τ
  obtain rfl : frames = 0 := outside
  refine ⟨?_, fun ne => ?_, fun operand => ?_⟩
  · rintro rfl
    have after := h.kept.trans (ended.ends.kept ended.level rfl)
    obtain ⟨own, ⟨lower, upper⟩, eq⟩ := ended.ends.iterators
    exact ⟨after.sound, after.grows, after.rigid, after.same rfl, after.level.top, own,
      Nat.le_antisymm upper lower, eq⟩
  · exact .after h.kept ended.ends (fun _ => rfl) id fun n room => room.shift fun here =>
      (ended.loop here).resolve_left ne
  · rw [Instruction.isSimple_of_isOperand operand] at compound
    cases compound

/-! ## Ways to perform steps -/

/-- Two ways to perform steps that agree, and each step does what its instruction says. -/
structure Performs (lax : Prop) (perform perform' : Option Cursor → Instruction → Run Flow) :
    Prop where
  simple : ∀ {i : Instruction} {m₀ m : Machine} {outer : List IterState} {slack : Nat}
    {σ τ : Shape}, i.isSimple → i.shape? σ = some τ → m₀.At outer slack σ m →
    Agrees lax (perform none i) (perform' none i) (Goes m₀ outer slack τ) m
  flow : ∀ {kind : FlowKind} {value : Bool} {m₀ m : Machine} {outer : List IterState}
    {slack : Nat} {σ τ : Shape},
    (Instruction.flow kind value).shape? σ = some τ → m₀.At outer slack σ m →
    Agrees lax (perform none (.flow kind value)) (perform' none (.flow kind value))
      (Leaps m₀ outer slack) m
  compound : ∀ {i : Instruction} {resume : Option Cursor} {m : Machine}
    {outer own : List IterState} {slack k : Nat} {σ τ : Shape}, i.isSimple = false →
    i.isFlow = false → i.shape? σ = some τ → σ.iterators ≤ slack → m.Sound →
    m.context.iterators = own ++ outer → own.length = slack + k → i.opensAt? resume = some k →
    Agrees lax (perform resume i) (perform' resume i) (i.Ended σ.iterators resume m outer slack) m

theorem performs_step [Reentry.Agree lax s s'] : Performs lax (step s) (step s') where
  simple simple hi h := agrees_simple _ simple hi none h
  flow hi h := agrees_flowOf _ _ hi h
  compound {i resume m outer own slack k σ τ} compound flow hi open_ hm hown length hk := by
    cases i with
    | decide c onTrue onFalse =>
      obtain ⟨rfl, rfl, sound⟩ := Shape.eq_of_statement hi
      simp only [Bool.and_eq_true] at sound
      exact agrees_branch sound.1.1 sound.1.2 sound.2 hm hown length hk
    | loop c body increment =>
      obtain ⟨rfl, -, sound⟩ := Shape.eq_of_loop hi
      simp only [Bool.and_eq_true] at sound
      exact agrees_loop sound.1.1 sound.1.2 sound.2 open_ hm hown length hk
    | «try» body handler var =>
      obtain ⟨rfl, rfl, sound⟩ := Shape.eq_of_statement hi
      simp only [Bool.and_eq_true] at sound
      exact agrees_tryBlock sound.1 sound.2 hm hown length hk
    | flow kind value => cases flow
    | _ => cases compound

theorem Performs.stepped {perform perform' : Option Cursor → Instruction → Run Flow}
    (hp : Performs lax perform perform') (hi : i.shape? σ = some τ) (h : m₀.At outer slack σ m) :
    Agrees lax (perform none i) (perform' none i) (Stepped m₀ outer slack σ τ i) m := by
  by_cases simple : i.isSimple
  · exact (hp.simple simple hi h).mono fun _ _ => Goes.stepped
  · replace simple : i.isSimple = false := by simpa using simple
    cases flow : i.isFlow with
    | true =>
      cases i with
      | flow kind value => exact (hp.flow hi h).mono fun _ _ => Leaps.stepped hi
      | _ => cases flow
    | false =>
      obtain ⟨own, length, eq⟩ := h.iterators
      exact (hp.compound simple flow hi (Nat.le_add_left _ slack) h.sound eq length rfl).mono
        fun _ _ =>
        ended_stepped simple flow hi h

/-! ## Flows of steps -/

/-- What becomes of the end of a step: a fault that is not fatal becomes a throw. -/
def Settles (r outcome : Except Fault Flow) : Prop :=
  outcome = r ∨ ∃ f, r = .error f ∧ ∃ value, outcome = .ok (.throw value)

theorem agrees_flowOfStep (line : UInt32) (r : Except Fault Flow) {f g : Except Fault Flow → Run α}
    {post : Run.Post α}
    (next : ∀ outcome m', m.Quiet m' → Settles r outcome →
      Agrees lax (f outcome) (g outcome) post m') :
    Agrees lax (flowOfStep line r >>= f) (flowOfStep line r >>= g) post m := by
  have same : m.Quiet m := ⟨rfl, rfl, rfl, rfl, rfl⟩
  unfold flowOfStep
  split
  · exact .bind (.pure (next _ m same (.inl rfl)))
  · exact .bind (.pure (next _ m same (.inr ⟨_, rfl, _, rfl⟩)))
  · split
    · exact .bind (.pure (next _ m same (.inl rfl)))
    · rename_i e _ _
      refine .bind
        (.bind (.askHeap (Run.Reports.andThen (Run.reports_reportError _ line) fun logs => ?_)))
      have total : ∀ h, ∃ cell h', HeapM.text (e.message m.heap.text) h = (.ok cell, h') :=
        fun _ => ⟨_, _, rfl⟩
      refine Run.agrees_total none total fun cell m₁ quiet _ =>
        .pure (next _ m₁ ?_ (.inr ⟨e, rfl, cell, rfl⟩))
      exact ⟨quiet.code, quiet.rigid, quiet.stack, quiet.scope, quiet.iterators⟩

theorem Settles.room {r outcome : Except Fault Flow} {opens? : Cursor → Option Nat}
    (h : Settles r outcome) (room : Room opens? slack slips r n) :
    Room opens? slack slips outcome n := by
  obtain rfl | ⟨f, rfl, value, rfl⟩ := h
  · exact room
  · exact room

theorem Settles.final {r outcome : Except Fault Flow} (h : Settles r outcome)
    (final : Flow.isFinal outcome) :
    Flow.isFinal r := by
  obtain rfl | ⟨f, rfl, value, rfl⟩ := h
  · exact final
  · rfl

theorem Settles.plain {r outcome : Except Fault Flow} (h : Settles r outcome)
    (plain : Flow.isPlain r) :
    Flow.isPlain outcome := by
  obtain rfl | ⟨f, rfl, value, rfl⟩ := h
  · exact plain
  · rfl

theorem Settles.normal {r : Except Fault Flow} (h : Settles r (.ok .normal)) : r = .ok .normal := by
  obtain rfl | ⟨f, rfl, value, h⟩ := h
  · rfl
  · cases h

@[simp] theorem isFinal_leaveAt (index : Nat) (flow : Flow) :
    Flow.isFinal (.ok (leaveAt index flow)) = Flow.isFinal (.ok flow) := by
  cases flow with
  | yield _ cursor | callcc _ cursor => cases cursor <;> rfl
  | _ => rfl

theorem isPlain_leaveAt {index : Nat} {flow : Flow} (h : Flow.isPlain (.ok flow)) :
    Flow.isPlain (.ok (leaveAt index flow)) := by
  cases flow <;> first | rfl | cases h

/-- Where a block stands before one of its steps. -/
structure Before (b : Block) (index : Nat) (σ : Shape) (line : UInt32) (i : Instruction)
    (rest : List Step) :
    Prop where
  steps : b.steps.drop index = .mk line i :: rest
  shape : shapeAfter .flat (b.steps.take index) = some σ

namespace Before

variable {rest : List Step}

theorem step (h : Before b index σ line i rest) : b.steps[index]? = some (.mk line i) := by
  rw [← List.head?_drop, h.steps, List.head?_cons]

theorem take_succ (h : Before b index σ line i rest) :
    b.steps.take (index + 1) = b.steps.take index ++ [.mk line i] := by
  rw [List.take_add_one, h.step, Option.toList_some]

theorem next (h : Before b index σ line i rest) (hi : i.shape? σ = some τ) :
    shapeAfter .flat (b.steps.take (index + 1)) = some τ ∧ b.steps.drop (index + 1) = rest := by
  refine ⟨?_, ?_⟩
  · rw [h.take_succ, shapeAfter_append, h.shape, Option.bind_some]
    exact shapeAfter_single hi
  · rw [← List.drop_drop, h.steps, List.drop_succ_cons, List.drop_zero]

/-- The position that a flow leaves the block at is one with as many loops open as there are. -/
theorem room (h : Before b index σ line i rest) (hi : i.shape? σ = some τ)
    (room : Room (fun c => (i.opens? c).map (σ.iterators + ·)) slack slips (.ok flow) n) :
    Room (b.opens? ·) slack slips (.ok (leaveAt index flow)) n := by
  have here {cursor : Cursor} {k : Nat} (hk : (i.opens? cursor).map (σ.iterators + ·) = some k) :
      b.opens? (if cursor = [] then [index + 1] else index :: cursor) = some k := by
    obtain ⟨inside, found, rfl⟩ := Option.map_eq_some_iff.mp hk
    cases cursor with
    | nil =>
      cases i with
      | flow kind value =>
        obtain ⟨closed, rfl⟩ := Instruction.shape?_flow hi
        obtain rfl := Option.some_inj.mp found
        rw [if_pos rfl, closed]
        exact Block.iteratorsAt?_of_shape (h.next hi).1
      | _ => simp [Instruction.opens?, Instruction.isFlow] at found
    | cons branch cursor =>
      obtain ⟨inner, hb, found⟩ := Option.bind_eq_some_iff.mp found
      obtain ⟨compound, flow⟩ := Instruction.compound_of_branch? hb
      obtain ⟨frames, iterators⟩ := σ
      obtain rfl : frames = 0 := (Instruction.shape?_compound compound flow hi).2
      rw [if_neg (List.cons_ne_nil _ _), Block.opens?]
      simp [Block.iteratorsAt?_of_shape h.shape, h.step, Step.instruction, hb, found]
  cases flow with
  | yield _ cursor | callcc _ cursor =>
    obtain ⟨k, hk, bounds⟩ := room
    cases cursor <;> exact ⟨k, here hk, bounds⟩
  | _ => exact room

end Before

/-! ## The steps of a block -/

/-- How the steps of a block stop that began or went on in `m₀`. -/
structure Stops (b : Block) (m₀ : Machine) (outer : List IterState) (slack slips : Nat)
    (fresh : Prop) (outcome : Except Fault Flow) (m : Machine) : Prop where
  ends : m₀.Ends outer slack slips (b.opens? ·) fresh outcome m
  level : outcome = .ok .normal → m₀.Level m
  plain : b.hasOperandsOnly → Flow.isPlain outcome

/-- Steps hand on how they stop; a failure of theirs is part of it. -/
def Stopped (b : Block) (m₀ : Machine) (outer : List IterState) (slack slips : Nat) (fresh : Prop) :
    Run.Post (Except Fault Flow)
  | .ok outcome, m => Stops b m₀ outer slack slips fresh outcome m
  | .error _, _ => False

/-- A step that did not end normally stops the block. -/
theorem Before.stops {rest : List Step} {r outcome : Except Fault Flow}
    (h : Before b index σ line i rest) (hi : i.shape? σ = some τ)
    (ends : m₀.Ends outer slack slips (fun c => (i.opens? c).map (σ.iterators + ·)) fresh r m)
    (plain : i.isOperand → Flow.isPlain r) (ne : r ≠ .ok .normal) (settles : Settles r outcome) :
    Stops b m₀ outer slack slips fresh (outcome.map (leaveAt index)) m where
  ends := by
    refine ends.relabel (fun final => settles.final ?_) fun n room => ?_
    · cases outcome with
      | ok flow => exact (isFinal_leaveAt index flow).symm.trans final
      | error f => rfl
    · have settled := settles.room room
      cases outcome with
      | ok flow => exact h.room hi settled
      | error f => exact settled
  level same := by
    match outcome, settles with
    | .ok .normal, settles => exact absurd settles.normal ne
    | .ok (.yield _ cursor), _ | .ok (.callcc _ cursor), _ => cases cursor <;> cases same
    | .ok .break, _ | .ok .continue, _ | .ok (.return _), _ | .ok (.throw _), _ | .error _, _ =>
      cases same
  plain operands := by
    have member : Step.mk line i ∈ b.steps := List.mem_of_getElem? h.step
    have settled := settles.plain (plain (List.all_eq_true.mp operands _ member))
    cases outcome with
    | ok flow => exact isPlain_leaveAt settled
    | error f => rfl

section Steps

variable {perform perform' : Option Cursor → Instruction → Run Flow} {rest : List Step}
  {resume : Option Cursor}

/-- A step, and the steps after it where it ends normally. -/
theorem agrees_stepsCons {mid : Run.Post Flow} {post : Run.Post (Except Fault Flow)}
    (h : Agrees lax (perform resume i) (perform' resume i) mid
      { m with context := { m.context with line } })
    (next : ∀ m₁ m₂, mid (.ok .normal) m₁ → m₁.Quiet m₂ →
      Agrees lax (steps perform (index + 1) none rest) (steps perform' (index + 1) none rest)
        post m₂)
    (stop : ∀ r m₁ outcome m₂, mid r m₁ → r ≠ .ok .normal → m₁.Quiet m₂ → Settles r outcome →
      post (.ok (outcome.map (leaveAt index))) m₂) :
    Agrees lax (steps perform index resume (.mk line i :: rest))
      (steps perform' index resume (.mk line i :: rest)) post
      m := by
  unfold steps
  refine .bind (.changeContext (.attemptThen h fun r m₁ after => ?_))
  refine agrees_flowOfStep line r fun outcome m₂ quiet settles => ?_
  have moved (ne : outcome ≠ .ok .normal) : post (.ok (outcome.map (leaveAt index))) m₂ :=
    stop r m₁ outcome m₂ after (by rintro rfl; exact ne (settles.resolve_right (by simp)))
      quiet settles
  match outcome with
  | .error f => exact .pure (moved nofun)
  | .ok .normal =>
    obtain rfl := settles.normal
    exact next m₁ m₂ after quiet
  | .ok .break | .ok .continue | .ok (.return _) | .ok (.throw _) | .ok (.yield _ _)
  | .ok (.callcc _ _) =>
    exact .pure (moved nofun)

theorem agrees_steps (hp : Performs lax perform perform') (hrest : b.steps.drop index = rest)
    (hσ : shapeAfter .flat (b.steps.take index) = some σ) (flat : shapeAfter σ rest = some .flat)
    (h : m₀.At outer slack σ m) :
    Agrees lax (steps perform index none rest) (steps perform' index none rest)
      (Stopped b m₀ outer slack 0 True) m := by
  induction rest generalizing index σ m with
  | nil =>
    obtain rfl := Option.some_inj.mp flat
    exact .pure ⟨h.ends, fun _ => h.level, fun _ => rfl⟩
  | cons step rest ih =>
    obtain ⟨line, i⟩ := step
    obtain ⟨τ, hi, flat⟩ := shapeAfter_cons flat
    have before : Before b index σ line i rest := ⟨hrest, hσ⟩
    obtain ⟨hτ, hrest⟩ := before.next hi
    have lined : m.Quiet { m with context := { m.context with line } } := ⟨rfl, rfl, rfl, rfl, rfl⟩
    refine agrees_stepsCons (hp.stepped hi (h.quiet lined)) (fun m₁ m₂ stepped quiet => ?_) ?_
    · exact ih hrest hτ flat ((stepped.next rfl).quiet quiet)
    · intro r m₁ outcome m₂ stepped ne quiet settles
      exact before.stops hi ((stepped.ends ne).quiet quiet) stepped.plain ne settles

/-- The steps of a block from the middle of one of them. -/
theorem agrees_resumedSteps (hp : Performs lax perform perform') (hb : b.isBalanced) {branch : Nat}
    {inner : Cursor} (hk : b.opens? (index :: branch :: inner) = some k) (hm : m.Sound)
    (hown : m.context.iterators = own ++ outer) (length : own.length = slack + k) :
    Agrees lax (steps perform index (some (branch :: inner)) (b.steps.drop index))
      (steps perform' index (some (branch :: inner)) (b.steps.drop index))
      (Stopped b m outer slack (b.slips (index :: branch :: inner)) False) m := by
  obtain ⟨line, i, iterators, inside, k', hs, open_, hbranch, hk', rfl⟩ := Block.opens?_cons hk
  obtain ⟨compound, flow⟩ := Instruction.compound_of_branch? hbranch
  have hσ := Block.shape_of_iteratorsAt? open_
  have whole := Block.shapeAfter_drop hb hσ
  have hrest : b.steps.drop index = .mk line i :: b.steps.drop (index + 1) := by
    obtain ⟨short, here⟩ := List.getElem?_eq_some_iff.mp hs
    rw [← here]
    exact List.drop_eq_getElem_cons short
  rw [hrest] at whole ⊢
  obtain ⟨τ, hi, flat⟩ := shapeAfter_cons whole
  obtain ⟨rfl, -⟩ := Instruction.shape?_compound compound flow hi
  have before : Before b index ⟨0, iterators⟩ line i (b.steps.drop (index + 1)) := ⟨hrest, hσ⟩
  have slips : b.slips (index :: branch :: inner) = i.slips (branch :: inner) :=
    Block.slips_cons hs hbranch
  have lined : m.Quiet { m with context := { m.context with line } } := ⟨rfl, rfl, rfl, rfl, rfl⟩
  have kept : m.Kept False { m with context := { m.context with line } } :=
    .of_leaves (lined.leaves hm)
  have position : i.opensAt? (some (branch :: inner)) = some k' := by
    simp [Instruction.opensAt?, Instruction.opens?, hbranch, hk']
  refine agrees_stepsCons (hp.compound compound flow hi (Nat.le_add_left _ slack) (hm.of_code rfl)
    hown
    (length.trans (Nat.add_assoc _ _ _).symm) position) (fun m₁ m₂ ended quiet => ?_) ?_
  · have ends := ended.ends.quiet quiet
    have level : ({ m with context := { m.context with line } } : Machine).Level m₂ :=
      (congrArg List.tail quiet.stack).trans ended.level
    have after : m.Kept False m₂ := kept.trans (ends.kept level rfl).resumed
    obtain ⟨own', ⟨lower, upper⟩, eq⟩ := ends.iterators
    replace lower : slack + iterators ≤ own'.length := lower
    replace upper : own'.length ≤ slack + iterators + i.slips (branch :: inner) := upper
    -- what a throw has left behind belongs to nobody from here on
    have anchored : m₂.At outer (own'.length - iterators) ⟨0, iterators⟩ m₂ :=
      .start ends.sound eq (by omega)
    refine (agrees_steps hp rfl (before.next hi).1 flat anchored).mono fun r m₃ stopped => ?_
    cases r with
    | error f => exact stopped
    | ok outcome =>
      refine ⟨.after after stopped.ends (fun _ => trivial) id fun n room => room.mono (by omega) ?_,
        fun normal => (stopped.level normal).trans after.level, stopped.plain⟩
      rw [slips]
      omega
  · intro r m₁ outcome m₂ ended ne quiet settles
    refine before.stops hi ?_ (fun operand => ?_) ne settles
    · exact .after kept (ended.ends.quiet quiet) False.elim id fun n room =>
        slips ▸ room.shift fun here => (ended.loop here).resolve_left ne
    · rw [Instruction.isSimple_of_isOperand operand] at compound
      cases compound

end Steps

/-! ## Blocks -/

/-- The context in the source of a block. -/
def inSource (m : Machine) (source : Option String) : Machine :=
  { m with context := { m.context with sources := source.toList ++ m.context.sources } }

variable {source : Option String} {outcome : Except Fault Flow} {resume : Option Cursor}

/-- A block that ends normally takes its source back. -/
theorem ended_normal (h : Stops b (inSource m source) outer slack slips fresh (.ok .normal) m')
    (hown : m.context.iterators = own ++ outer) (length : own.length = slack + k) (few : slips ≤ k)
    (hslips : slips = b.slipsAt resume) (began : resume = none → fresh) :
    b.Ended resume m outer slack (.ok .normal) { m' with
      context := { m'.context with sources := m'.context.sources.drop source.toList.length } } := by
  have rigid : m'.context.rigid = (inSource m source).context.rigid := h.ends.rigid
  have sources : m'.context.sources.drop source.toList.length = m.context.sources := by
    rw [Context.sources_of_rigid rigid]
    exact List.drop_left
  obtain ⟨own', room, eq⟩ := h.ends.iterators
  refine ⟨⟨h.ends.sound.of_code rfl, .around h.ends.grows rfl rfl, ?_, h.ends.scope,
    fun fr => h.ends.locals (began fr), h.ends.stack, own', hslips ▸ room,
    eq⟩, h.level rfl, fun _ => ?_, fun _ => rfl⟩
  · simp only [Context.rigid, Prod.mk.injEq] at rigid ⊢
    exact ⟨rigid.1, rigid.2.1, sources, rigid.2.2.2⟩
  · have upper : own'.length ≤ slack + slips := room.2
    change m'.context.iterators.length ≤ m.context.iterators.length
    rw [eq, hown, List.length_append, List.length_append]
    omega

/-- A block that does not end normally takes everything back. -/
theorem ended_unwind (h : Stops b (inSource m source) outer slack slips fresh outcome m')
    (hown : m.context.iterators = own ++ outer) (length : own.length = slack + k)
    (hslips : slips = b.slipsAt resume) (began : resume = none → fresh) (keep : Bool)
    (final : Flow.isFinal outcome = !keep) :
    b.Ended resume m outer slack outcome
      { m' with context := m'.context.unwind m.context.marks keep } := by
  have rigid : m'.context.rigid = (inSource m source).context.rigid := h.ends.rigid
  have handlers :
      truncateStack m'.context.handlers m.context.handlers.length = m.context.handlers := by
    rw [Context.handlers_of_rigid rigid]
    exact truncateStack_append [] _
  have sources : truncateStack m'.context.sources m.context.sources.length = m.context.sources := by
    rw [Context.sources_of_rigid rigid]
    exact truncateStack_append source.toList _
  have level : m.Level { m' with context := m'.context.unwind m.context.marks keep } := by
    obtain ⟨top, ne, eq⟩ := h.ends.stack
    have depth : m.context.frameDepth = m.context.stack.tail.length + 1 := by
      rw [List.length_tail, Context.stack_length, Context.frameDepth]
      rfl
    have cut := m'.context.stack_truncateFrames (show 0 < m.context.frameDepth from Nat.succ_pos _)
    change (m'.context.truncateFrames m.context.frameDepth).stack.tail = m.context.stack.tail
    rw [cut, eq, depth]
    exact tail_truncateStack _ ne
  obtain ⟨own', room, eq⟩ := h.ends.iterators
  have cut : truncateStack m'.context.iterators m.context.iterators.length =
      truncateStack own' own.length ++ outer := by
    rw [eq, hown, List.length_append, truncateStack_append_add]
  refine ⟨⟨h.ends.sound.of_code rfl, .around h.ends.grows rfl rfl, ?_, h.ends.scope,
    fun fr => h.ends.locals (began fr), level.stack, ?_⟩, level, fun fin => ?_, h.plain⟩
  · simp only [Context.rigid, Prod.mk.injEq] at rigid ⊢
    exact ⟨rigid.1, handlers, sources, rigid.2.2.2⟩
  · cases keep with
    | true => exact ⟨own', hslips ▸ room, eq⟩
    | false =>
      refine ⟨truncateStack own' own.length, ?_, cut⟩
      have lower := room.slack_le
      rw [length_truncateStack]
      exact Room.cut (hslips ▸ room) final (Nat.min_le_left _ _) (by omega)
  · obtain rfl : keep = false := by simpa [final] using fin
    change (truncateStack m'.context.iterators m.context.iterators.length).length ≤
      m.context.iterators.length
    rw [length_truncateStack]
    exact Nat.min_le_right _ _

theorem ended_closing (h : Stops b (inSource m source) outer slack slips fresh outcome m')
    (hown : m.context.iterators = own ++ outer) (length : own.length = slack + k) (few : slips ≤ k)
    (hslips : slips = b.slipsAt resume) (began : resume = none → fresh) :
    b.Ended resume m outer slack outcome
      { m' with context := closing source m.context.marks outcome m'.context } := by
  match outcome, h with
  | .ok .normal, h => exact ended_normal h hown length few hslips began
  | .ok .break, h | .ok .continue, h | .ok (.return _), h | .ok (.throw _), h | .error _, h =>
    exact ended_unwind h hown length hslips began false rfl
  | .ok (.yield _ _), h | .ok (.callcc _ _), h =>
    exact ended_unwind h hown length hslips began true rfl

theorem agrees_bracket {x y : Run (Except Fault Flow)}
    (h : Agrees lax x y (Stopped b (inSource m source) outer slack slips fresh) (inSource m source))
    (hown : m.context.iterators = own ++ outer) (length : own.length = slack + k) (few : slips ≤ k)
    (hslips : slips = b.slipsAt resume) (began : resume = none → fresh) :
    Agrees lax (bracket source x) (bracket source y) (b.Ended resume m outer slack) m := by
  refine .bind
    (.askContext
      (.bind (.changeContext (.andThen h (fun outcome m' stops => ?_) fun _ _ h => False.elim h))))
  exact .bind (.changeContext (.settle (ended_closing stops hown length few hslips began)))

/-- A block, from its start or from where it was suspended. -/
theorem agrees_blockBy {perform perform' : Option Cursor → Instruction → Run Flow}
    (hp : Performs lax perform perform') (hb : b.isBalanced) (hk : b.opensAt? resume = some k)
    (hm : m.Sound) (hown : m.context.iterators = own ++ outer) (length : own.length = slack + k) :
    Agrees lax (blockBy perform b resume) (blockBy perform' b resume) (b.Ended resume m outer slack)
      m := by
  have few := Block.slipsAt_le hk
  have sound : (inSource m b.source).Sound := hm.of_code rfl
  match resume, hk with
  | none, hk =>
    obtain rfl := Option.some_inj.mp hk
    have balanced := (Block.isBalanced_iff b).mp hb
    exact agrees_bracket (agrees_steps hp rfl rfl balanced (.start sound hown length))
      hown length few rfl fun _ => trivial
  | some [start], hk =>
    have shape := Block.shape_of_iteratorsAt? hk
    have steps :=
      agrees_steps hp rfl shape (Block.shapeAfter_drop hb shape) (.start sound hown length)
    exact agrees_bracket steps hown length few rfl nofun
  | some (start :: branch :: inner), hk =>
    exact agrees_bracket (agrees_resumedSteps hp hb hk sound hown length) hown length few rfl nofun

/-! ## The next depth of the recursion -/

/-- Evaluators that agree on what they call back agree. -/
theorem agree_next [Reentry.Agree lax s s'] {n n' : Nat} (hn : n = n' ∨ lax ∧ n ≤ n') :
    Reentry.Agree lax (next n fun _ => s) (next n' fun _ => s') where
  call target message args :=
    inferInstanceAs (Tidy lax (callValue s target message args) (callValue s' target message args))
  attemptInvoke f message args := tidy_attempt_invoke f message args
  rounds := hn
  block hb hk hm hown length := agrees_blockBy performs_step hb hk hm hown length

end CellScript.Eval
