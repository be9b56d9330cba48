import CellScript.Proofs.Eval.Expression

/-!
# Control flow

Branches, loops and `try` in the course of a block. They begin with the operands of all frames taken
away, so that what is left when a block inside of them is cut short is the frame that they stand in.

## Main definitions

* `Instruction.Ended` — how a compound step ends.

## Main statements

* `agrees_branch`, `agrees_loop`, `agrees_tryBlock` — compound steps, from their start or from where
  they were suspended.
-/

namespace CellScript

/-- The number of `foreach` loops that are open where an instruction goes on. -/
def Instruction.opensAt? (i : Instruction) : Option Cursor → Option Nat
  | none => some 0
  | some cursor => i.opens? cursor

/-- The number of them that a throw can leave open. -/
def Instruction.slipsAt (i : Instruction) : Option Cursor → Nat
  | none => 0
  | some cursor => i.slips cursor

/-- Nothing is caught on the way into a branch that is not the body of a `try`. -/
theorem Instruction.slips_branch {i : Instruction} {branch : Nat} {rest : Cursor} {b : Block}
    (hb : i.branch? branch = some b) (passes : i.catches branch = false) :
    i.slipsAt (some (branch :: rest)) = b.slips rest := by
  simp [Instruction.slipsAt, Instruction.slips, hb, passes]

variable {lax : Prop} {s s' : Reentry} {m m' : Machine} {outer own : List IterState}
  {slack slips k e : Nat} {fresh : Prop} {resume inner : Option Cursor} {r : Except Fault Flow}

/-- How a block inside of an instruction that began in `m` ends. -/
structure Block.Passed (b : Block) (m : Machine) (outer : List IterState) (slack slips : Nat)
    (fresh : Prop) (r : Except Fault Flow) (m' : Machine) : Prop where
  ends : m.Ends outer slack slips (b.opens? ·) fresh r m'
  level : m.Level m'
  plain : b.hasOperandsOnly → Flow.isPlain r

/-- An instruction that began in `m` at its start or at a position is in its course. -/
abbrev Instruction.Midway (i : Instruction) (resume : Option Cursor) (m : Machine)
    (outer : List IterState) (slack k e : Nat) (m' : Machine) : Prop :=
  m.Midway outer slack (i.slipsAt resume) (resume = none) k e m'

/-- How a compound instruction ends with `j` loops around it in its block. A loop among them would
take notice of a `break` or `continue`, which only a statement outside of all loops lets through. -/
structure Instruction.Ended (i : Instruction) (j : Nat) (resume : Option Cursor) (m : Machine)
    (outer : List IterState) (slack : Nat) (r : Except Fault Flow) (m' : Machine) : Prop where
  ends : m.Ends outer slack (i.slipsAt resume) (i.opens? ·) (resume = none) r m'
  level : m.Level m'
  loop : Flow.isLocal r → r = .ok .normal ∨ j = 0

/-- A block inside of an instruction. -/
theorem Machine.Midway.block [Reentry.Agree lax s s'] {b : Block}
    (h : m.Midway outer slack slips fresh k e m') (hb : b.isBalanced)
    (hk : b.opensAt? inner = some k) (he : b.slipsAt inner ≤ e) (began : fresh → inner = none) :
    Run.Agrees lax (s.block b inner) (s'.block b inner) (b.Passed m outer slack slips fresh)
      m' := by
  obtain ⟨own, slack', length, lower, upper, eq⟩ := h.iterators
  refine (Reentry.Agree.block hb hk h.kept.sound eq length).mono fun r m₁ ended => ?_
  refine ⟨.after h.kept ended.ends began id fun n room => room.mono lower ?_,
    ended.level.trans h.kept.level, ended.plain⟩
  omega

/-- The end of a block is the end of the instruction that it is a branch of. -/
theorem Block.Passed.through {i : Instruction} {b : Block} {j n : Nat}
    (h : b.Passed m outer slack (i.slipsAt resume) (resume = none) r m') (hb : i.branch? n = some b)
    (hj : Flow.isLocal r → r = .ok .normal ∨ j = 0) :
    i.Ended j resume m outer slack (r.map (·.through n)) m' where
  ends := h.ends.relabel (by simp) fun _ room => room.through hb
  level := h.level
  loop here := by
    match r, here with
    | .ok .normal, _ => exact .inl rfl
    | .ok .break, _ => exact .inr ((hj rfl).resolve_left nofun)
    | .ok .continue, _ => exact .inr ((hj rfl).resolve_left nofun)

/-- A compound instruction that ends here. -/
theorem Machine.Midway.ended {i : Instruction} {j : Nat}
    (h : i.Midway resume m outer slack 0 0 m') : i.Ended j resume m outer slack (.ok .normal) m' :=
  ⟨h.ends, h.kept.level, fun _ => .inl rfl⟩

namespace Eval

open Run (Tidy Agrees)

/-- Where a compound instruction is resumed: in the middle of one of its branches. -/
theorem resumes_branch {i : Instruction} {cursor : Cursor} (hf : i.isFlow = false)
    (h : i.opens? cursor = some k) :
    ∃ branch rest b, cursor = branch :: rest ∧ rest ≠ [] ∧ i.branch? branch = some b ∧
      b.opens? rest = some k := by
  match cursor, h with
  | [], h => simp [Instruction.opens?, hf] at h
  | branch :: rest, h =>
    obtain ⟨b, hb, hk⟩ := Option.bind_eq_some_iff.mp h
    refine ⟨branch, rest, b, rfl, ?_, hb, hk⟩
    rintro rfl
    simp [Block.opens?] at hk

/-! ## Branches -/

theorem agrees_branch [Reentry.Agree lax s s'] {c : Check} {onTrue : Block} {onFalse : Option Block}
    (hc : c.isSound 0) (ht : onTrue.isBalanced) (hf : isBalanced? onFalse) (hm : m.Sound)
    (hown : m.context.iterators = own ++ outer) (length : own.length = slack + k)
    (hk : (Instruction.decide c onTrue onFalse).opensAt? resume = some k) :
    Agrees lax (branch s c onTrue onFalse resume) (branch s' c onTrue onFalse resume)
      ((Instruction.decide c onTrue onFalse).Ended 0 resume m outer slack) m := by
  have into {b : Block} {inner : Option Cursor} {k e : Nat} {m' : Machine} (n : Nat)
      (hb : (Instruction.decide c onTrue onFalse).branch? n = some b) (balanced : b.isBalanced)
      (here : (Instruction.decide c onTrue onFalse).Midway resume m outer slack k e m')
      (hk : b.opensAt? inner = some k) (he : b.slipsAt inner ≤ e)
      (began : resume = none → inner = none) :
      Agrees lax (do return (← s.block b inner).through n)
        (do return (← s'.block b inner).through n)
        ((Instruction.decide c onTrue onFalse).Ended 0 resume m outer slack) m' :=
    .andThen (here.block balanced hk he began) (fun _ _ h => .pure (h.through hb fun _ => .inr rfl))
      fun _ _ h => h.through hb fun _ => .inr rfl
  cases resume with
  | none =>
    obtain rfl := Option.some_inj.mp hk
    have begun : (Instruction.decide c onTrue onFalse).Midway none m outer slack 0 0 m :=
      .start hm hown length (Nat.le_refl _)
    unfold branch
    dsimp only [splitBranch]
    refine .andThen (agrees_check c hc hm) (fun verdict m₁ asked => .bind (.pure ?_)) ?_
    · have begun := begun.advances asked (Nat.zero_le _)
      dsimp only
      split
      · exact into 0 rfl ht begun rfl (Nat.le_refl _) fun _ => rfl
      · cases onFalse with
        | some onFalse => exact into 1 rfl hf begun rfl (Nat.le_refl _) fun _ => rfl
        | none => exact .pure begun.ended
    · intro f m₁ asked
      obtain ⟨ends, level⟩ := begun.failed asked (Nat.zero_le _)
      exact ⟨ends, level, nofun⟩
  | some cursor =>
    obtain ⟨n, rest, b, rfl, ne, hb, hk⟩ := resumes_branch rfl hk
    have resumed : (Instruction.decide c onTrue onFalse).Midway (some (n :: rest)) m outer slack k
        (b.slips rest) m :=
          .start hm hown length (Nat.le_of_eq (Instruction.slips_branch hb rfl).symm)
    unfold branch
    obtain ⟨r₀, rest, rfl⟩ := List.exists_cons_of_ne_nil ne
    refine .bind (.pure ?_)
    match n, hb with
    | 0, hb =>
      obtain rfl := Option.some_inj.mp hb
      exact into 0 hb ht resumed hk (Nat.le_refl _) nofun
    | 1, hb =>
      obtain rfl : onFalse = some b := hb
      exact into 1 rfl hf resumed hk (Nat.le_refl _) nofun

/-! ## Loops -/

/-- What holds of a loop that began in `m` between its rounds. -/
def LoopAt (i : Instruction) (body : Block) (increment : Option Block) (resume : Option Cursor)
    (m : Machine) (outer : List IterState) (slack : Nat) : Round → Machine → Prop
  | .start, m' => i.Midway resume m outer slack 0 0 m'
  | .body inner, m' => ∃ k, body.opensAt? inner = some k ∧ (resume = none → inner = none) ∧
    i.Midway resume m outer slack k (body.slipsAt inner) m'
  | .increment inner, m' => ∃ b k, increment = some b ∧ b.opensAt? inner = some k ∧
    (resume = none → inner = none) ∧
    i.Midway resume m outer slack k (b.slipsAt inner) m'

/-- What a round of a loop comes to. -/
def Turns (i : Instruction) (j : Nat) (body : Block) (increment : Option Block)
    (resume : Option Cursor) (m : Machine) (outer : List IterState) (slack : Nat) :
    Run.Post (Round ⊕ Flow)
  | .ok (.inl round), m' => LoopAt i body increment resume m outer slack round m'
  | .ok (.inr flow), m' => i.Ended j resume m outer slack (.ok flow) m'
  | .error f, m' => i.Ended j resume m outer slack (.error f) m'

section Loops

variable {c : Check} {body : Block} {increment : Option Block} {j : Nat}

/-- Only what a loop takes no notice of is a flow of the loop. -/
theorem agrees_loopIncrement [Reentry.Agree lax s s'] (hi : isExpression? increment)
    (h : ∀ b, increment = some b → ∃ k e, b.opensAt? inner = some k ∧ b.slipsAt inner ≤ e ∧
      (Instruction.loop c body increment).Midway resume m outer slack k e m')
    (none_ : increment = none →
      (Instruction.loop c body increment).Midway resume m outer slack 0 0 m')
    (began : resume = none → inner = none) :
    Agrees lax (loopIncrement s increment inner) (loopIncrement s' increment inner)
      (Turns (.loop c body increment) j body increment resume m outer slack) m' := by
  cases increment with
  | none => exact .pure (none_ rfl)
  | some b =>
    obtain ⟨k, e, hk, he, here⟩ := h b rfl
    obtain ⟨operands, balanced⟩ := (Block.isExpression_iff b).mp hi
    refine .andThen (here.block balanced hk he began) (fun flow m₁ passed => ?_)
      fun f m₁ passed => ?_
    · have plain := passed.plain operands
      cases flow with
      | normal => exact .pure (passed.ends.midway passed.level rfl)
      | throw value => exact .pure (passed.through (n := 1) rfl nofun)
      | «return» | «break» | «continue» | yield | callcc => cases plain
    · exact passed.through (n := 1) rfl nofun

theorem agrees_loopBody [Reentry.Agree lax s s'] (hb : body.isBalanced)
    (hi : isExpression? increment) (hk : body.opensAt? inner = some k)
    (began : resume = none → inner = none)
    (h : (Instruction.loop c body increment).Midway resume m outer slack k (body.slipsAt inner)
      m') :
    Agrees lax (loopBody s body increment inner) (loopBody s' body increment inner)
      (Turns (.loop c body increment) j body increment resume m outer slack) m' := by
  refine .bind
    (.changeContext (.andThen ((h.modifyFrame _).block hb hk (Nat.le_refl _) began) ?_ ?_))
  · intro flow m₁ passed
    have again (here : Flow.isLocal (.ok flow)) : Agrees lax (loopIncrement s increment none)
        (loopIncrement s' increment none)
        (Turns (.loop c body increment) j body increment resume m outer slack) m₁ :=
      have here := passed.ends.midway passed.level here
      agrees_loopIncrement hi (fun b _ => ⟨0, 0, rfl, Nat.le_refl _, here⟩) (fun _ => here)
        fun _ => rfl
    cases flow with
    | normal | «continue» => exact again rfl
    | «break» => exact .pure (passed.ends.midway passed.level rfl).ended
    | «return» | throw | yield | callcc => exact .pure (passed.through (n := 0) rfl nofun)
  · intro f m₁ passed
    exact passed.through (n := 0) rfl nofun

theorem agrees_loopRound [Reentry.Agree lax s s'] (hc : c.isSound j) (hb : body.isBalanced)
    (hi : isExpression? increment) (open_ : j ≤ slack) (round : Round) (m' : Machine)
    (h : LoopAt (.loop c body increment) body increment resume m outer slack round m') :
    Agrees lax (loopRound s c body increment round) (loopRound s' c body increment round)
      (Turns (.loop c body increment) j body increment resume m outer slack) m' := by
  cases round with
  | start =>
    refine .andThen (agrees_check c hc h.kept.sound) (fun verdict m₁ asked => ?_)
      fun f m₁ asked => ?_
    · have here := h.advances asked open_
      split
      · exact agrees_loopBody hb hi rfl (fun _ => rfl) here
      · exact .pure here.ended
    · obtain ⟨ends, level⟩ := h.failed asked open_
      exact ⟨ends, level, nofun⟩
  | body inner =>
    obtain ⟨k, hk, began, here⟩ := h
    exact agrees_loopBody hb hi hk began here
  | increment inner =>
    obtain ⟨b, k, rfl, hk, began, here⟩ := h
    refine .bind (.changeContext ?_)
    refine agrees_loopIncrement hi (fun _ same => ?_) nofun began
    obtain rfl := Option.some_inj.mp same
    exact ⟨k, _, hk, Nat.le_refl _, here.modifyFrame _⟩

/-- Where a loop begins or goes on. -/
theorem loopAt_ofCursor (hm : m.Sound) (hown : m.context.iterators = own ++ outer)
    (length : own.length = slack + k)
    (hk : (Instruction.loop c body increment).opensAt? resume = some k) :
    LoopAt (.loop c body increment) body increment resume m outer slack (.ofCursor resume) m := by
  cases resume with
  | none =>
    obtain rfl := Option.some_inj.mp hk
    exact .start hm hown length (Nat.zero_le _)
  | some cursor =>
    obtain ⟨n, rest, b, rfl, ne, hb, inside⟩ := resumes_branch rfl hk
    obtain ⟨first, rest, rfl⟩ := List.exists_cons_of_ne_nil ne
    have resumed :
        (Instruction.loop c body increment).Midway (some (n :: first :: rest)) m outer slack k
        (b.slips (first :: rest)) m :=
          .start hm hown length (Nat.le_of_eq (Instruction.slips_branch hb rfl).symm)
    match n, hb with
    | 0, hb =>
      obtain rfl := Option.some_inj.mp hb
      exact ⟨k, inside, nofun, resumed⟩
    | 1, hb => exact ⟨b, k, hb, inside, nofun, resumed⟩

/-- Rounds that keep what holds between them, until the loop ends. -/
theorem agrees_rounds {n n' : Nat} (hn : n = n' ∨ lax ∧ n ≤ n')
    {round round' : Round → Run (Round ⊕ Flow)}
    (h : ∀ r m', LoopAt (.loop c body increment) body increment resume m outer slack r m' →
      Agrees lax (round r) (round' r)
        (Turns (.loop c body increment) j body increment resume m outer slack) m')
    (hm : m.Sound) (hown : m.context.iterators = own ++ outer) (length : own.length = slack + k)
    (hk : (Instruction.loop c body increment).opensAt? resume = some k) :
    Agrees lax (rounds n round resume) (rounds n' round' resume)
      ((Instruction.loop c body increment).Ended j resume m outer slack) m := by
  have turned :
      Agrees lax (Run.iterate round n (.ofCursor resume)) (Run.iterate round' n' (.ofCursor resume))
      ((Instruction.loop c body increment).Ended j resume m outer slack) m := by
    refine Run.agrees_iterate (LoopAt (.loop c body increment) body increment resume m outer slack)
      (fun round m' here => (h round m' here).mono fun r m'' turn => ?_) hn _ m
      (loopAt_ofCursor hm hown length hk)
    rcases r with f | (round | flow) <;> exact turn
  refine .andThen turned (fun flow m₁ ended => ?_) fun f m₁ ended => ended
  split
  · exact .bind
      (.changeContext (.pure ⟨ended.ends.modifyFrame _, ended.level.modifyFrame _, ended.loop⟩))
  · exact .pure ended

theorem agrees_loop [Reentry.Agree lax s s'] (hc : c.isSound j) (hb : body.isBalanced)
    (hi : isExpression? increment) (open_ : j ≤ slack) (hm : m.Sound)
    (hown : m.context.iterators = own ++ outer) (length : own.length = slack + k)
    (hk : (Instruction.loop c body increment).opensAt? resume = some k) :
    Agrees lax (loop s c body increment resume) (loop s' c body increment resume)
      ((Instruction.loop c body increment).Ended j resume m outer slack) m :=
  agrees_rounds Reentry.Agree.rounds (fun round m' => agrees_loopRound hc hb hi open_ round m')
    hm hown length hk

end Loops

/-! ## Handlers -/

/-- What the end of a handler leaves: its catch scope goes, unless it is suspended. -/
def afterHandler (r : Except Fault Flow) (m : Machine) : Machine :=
  if Flow.isFinal r then { m with context := { m.context with scope := m.context.scope.popLocal } }
  else m

theorem agrees_runHandler {handler : Block} {post : Run.Post Flow}
    (h : Agrees lax (s.block handler inner) (s'.block handler inner)
      (fun r m' => post (r.map (·.through 1)) (afterHandler r m')) m) :
    Agrees lax (runHandler s handler inner) (runHandler s' handler inner) post m := by
  refine .attemptThen h fun r m₁ after => ?_
  cases r with
  | error f => exact .bind (.changeContext (.bind (.fail after)))
  | ok flow =>
    unfold afterHandler at after
    cases flow with
    | yield | callcc => exact .bind (.pure (.pure after))
    | _ => exact .bind (.changeContext (.bind (.pure (.pure after))))

/-- A handler that began with its catch scope on top leaves that scope only where it is
suspended. -/
theorem ends_afterHandler {b : Block} {vars : VarsRef}
    (ended : b.Ended none { m with
      context := { m.context with scope := m.context.scope.pushLocal vars } } outer slack
      r m') :
    m.Ends outer slack 0 (b.opens? ·) True r (afterHandler r m') ∧ m.Level (afterHandler r m') := by
  have h := ended.ends
  obtain ⟨more, pushed, none⟩ := h.locals rfl
  have scope : m'.context.scope = m.context.scope.pushLocals (more ++ [vars]) := by
    rw [pushed]
    exact m.context.scope.pushLocals_pushLocals [vars] more
  unfold afterHandler
  by_cases final : Flow.isFinal r
  · obtain rfl := none final
    have back : m'.context.scope.popLocal = m.context.scope := by
      rw [scope]
      exact m.context.scope.popLocal_pushLocal vars
    rw [if_pos final]
    exact ⟨⟨h.sound.of_code rfl, .around h.grows rfl rfl, h.rigid, back ▸ .refl _,
      fun _ => ⟨[], by simp [back], fun _ => rfl⟩, h.stack, h.iterators⟩, ended.level⟩
  · rw [if_neg final]
    exact ⟨⟨h.sound, .around h.grows rfl rfl, h.rigid, scope ▸ .pushLocals _ _,
      fun _ => ⟨more ++ [vars], scope, fun fin => absurd fin final⟩, h.stack,
      h.iterators⟩, ended.level⟩

/-- A handler that goes on where it was suspended. -/
theorem ends_afterResumedHandler {b : Block} {cursor : Cursor}
    (ended : b.Ended (some cursor) m outer slack r m') :
    m.Ends outer slack (b.slips cursor) (b.opens? ·) False r (afterHandler r m') ∧
    m.Level (afterHandler r m') := by
  have h := ended.ends
  unfold afterHandler
  split
  · exact ⟨⟨h.sound.of_code rfl, h.grows.trans (.of_code rfl), h.rigid, h.scope.trans (.popLocal _),
      False.elim, h.stack, h.iterators⟩, ended.level⟩
  · exact ⟨⟨h.sound, h.grows, h.rigid, h.scope, False.elim, h.stack, h.iterators⟩, ended.level⟩

/-! ## Bodies of `try` -/

/-- The body of a `try` has ended, and its handler is no longer active. -/
theorem ends_unhandled {b : Block} {var : String} {m₁ m₂ : Machine}
    (ended : b.Ended inner { m with
      context := { m.context with handlers := var :: m.context.handlers } } outer slack
      r m₁) (h' : m₁.Leaves [] m₂) :
    m.Ends outer slack (b.slipsAt inner) (b.opens? ·) (inner = none) r { m₂ with
        context := { m₂.context with
          handlers := truncateStack m₂.context.handlers m.context.handlers.length } } ∧
      m.Level { m₂ with
        context := { m₂.context with
          handlers := truncateStack m₂.context.handlers m.context.handlers.length } } := by
  have h := ended.ends
  have rigid : m₂.context.rigid = _ := h'.rigid.trans h.rigid
  have handlers :
      truncateStack m₂.context.handlers m.context.handlers.length = m.context.handlers := by
    rw [Context.handlers_of_rigid rigid]
    exact truncateStack_append [var] _
  refine ⟨⟨h'.sound.of_code rfl, .around (h.grows.trans h'.grows) rfl rfl, ?_, ?_, ?_, ?_, ?_⟩, ?_⟩
  · simp only [Context.rigid, Prod.mk.injEq] at rigid ⊢
    exact ⟨rigid.1, handlers, rigid.2.2⟩
  · exact h'.scope ▸ h.scope
  · exact h'.scope ▸ h.locals
  · exact h'.stack ▸ h.stack
  · exact h'.iterators ▸ h.iterators
  · exact (congrArg List.tail h'.stack).trans ended.level

/-- A throw out of the body has been caught: the handler begins. -/
theorem agrees_caught [Reentry.Agree lax s s'] {body handler : Block} {var : String}
    {value : CellRef} (hh : handler.isBalanced)
    (h : (Instruction.try body handler var).Midway resume m outer slack 0 0 m') :
    Agrees lax (catchThrow s handler var value) (catchThrow s' handler var value)
      ((Instruction.try body handler var).Ended 0 resume m outer slack) m' := by
  have total : ∀ h, ∃ vars h', HeapM.newVars h = (.ok vars, h') := fun _ => ⟨_, _, rfl⟩
  refine .bind (.changeContext (Run.agrees_total none total fun vars m₁ quiet _ => ?_))
  refine .bind (.changeHeap (.bind (.changeContext (agrees_runHandler ?_))))
  have settled : m'.Quiet { m' with context := m'.context.settleTrace } := ⟨rfl, rfl, rfl, rfl, rfl⟩
  have stored : m₁.Quiet { m₁ with heap := m₁.heap.putVariable vars var value } :=
    ⟨rfl, rfl, rfl, rfl, rfl⟩
  have here := ((h.quiet settled).quiet quiet).quiet stored
  obtain ⟨own, slack', length, lower, upper, eq⟩ := here.iterators
  have fresh : handler.opensAt? none = some 0 := rfl
  refine Agrees.mono (Reentry.Agree.block hh fresh (here.kept.sound.of_code rfl) eq length)
    fun r m₁ ended => ?_
  obtain ⟨ends, level⟩ := ends_afterHandler ended
  exact ⟨.after here.kept ends (fun _ => trivial) (by simp)
    fun n room => (room.mono lower upper).through rfl, level.trans here.kept.level,
    fun _ => .inr rfl⟩

/-- What is done at the end of a body, when its handler is no longer active. -/
theorem agrees_afterBody [Reentry.Agree lax s s'] {body handler : Block} {var : String}
    (hh : handler.isBalanced) (hm : m.Sound) (hown : m.context.iterators = own ++ outer)
    (length : own.length = slack + k) (hk : body.opensAt? inner = some k)
    (slips : (Instruction.try body handler var).slipsAt resume = k)
    (began : resume = none → inner = none)
    (ends : m.Ends outer slack (body.slipsAt inner) (body.opens? ·) (inner = none) r m')
    (level : m.Level m')
    (cut : Flow.isFinal r → m'.context.iterators.length ≤ m.context.iterators.length) :
    Agrees lax
      (do match ← Run.settle r with
        | .throw value => catchThrow s handler var value
        | flow => return flow.through 0)
      (do match ← Run.settle r with
        | .throw value => catchThrow s' handler var value
        | flow => return flow.through 0)
      ((Instruction.try body handler var).Ended 0 resume m outer slack) m' := by
  have few := Block.slipsAt_le hk
  have whole : m.Ends outer slack ((Instruction.try body handler var).slipsAt resume)
      ((Instruction.try body handler var).opens? ·) (resume = none) (r.map (·.through 0)) m' :=
    .after (.refl hm) ends began (by simp) fun n room =>
      (room.mono (Nat.le_refl _) (by omega)).through rfl
  match r, whole, ends, cut with
  | .error f, whole, _, _ => exact .bind (.fail ⟨whole, level, nofun⟩)
  | .ok (.throw value), whole, ends, cut =>
    refine .bind (.pure (agrees_caught hh ⟨whole.kept level rfl, ?_⟩))
    obtain ⟨own', room, eq⟩ := ends.iterators
    have short := cut rfl
    rw [eq, hown, List.length_append, List.length_append] at short
    exact ⟨own', own'.length, rfl, room, by omega, eq⟩
  | .ok .normal, whole, _, _ | .ok .break, whole, _, _ | .ok .continue, whole, _, _
  | .ok (.return _), whole, _, _
  | .ok (.yield _ _), whole, _, _ | .ok (.callcc _ _), whole, _, _ =>
    exact .bind (.pure (.pure ⟨whole, level, fun _ => .inr rfl⟩))

theorem agrees_tryBlock [Reentry.Agree lax s s'] {body handler : Block} {var : String}
    (hb : body.isBalanced) (hh : handler.isBalanced) (hm : m.Sound)
    (hown : m.context.iterators = own ++ outer) (length : own.length = slack + k)
    (hk : (Instruction.try body handler var).opensAt? resume = some k) :
    Agrees lax (tryBlock s body handler var resume) (tryBlock s' body handler var resume)
      ((Instruction.try body handler var).Ended 0 resume m outer slack) m := by
  have attempted {inner : Option Cursor} (hk : body.opensAt? inner = some k)
      (slips : (Instruction.try body handler var).slipsAt resume = k)
      (began : resume = none → inner = none) :
      Agrees lax (tryBody s body handler var inner) (tryBody s' body handler var inner)
        ((Instruction.try body handler var).Ended 0 resume m outer slack) m := by
    refine .bind (.askContext (.bind (.changeContext ?_)))
    refine .attemptThen (Reentry.Agree.block hb hk (hm.of_code rfl) hown length)
      fun r m₁ ended => ?_
    refine (onlyTraces_traceCaught _ var r).reports.andThen fun logs => .bind (.changeContext ?_)
    have quiet : m₁.Quiet { m₁ with logs } := ⟨rfl, rfl, rfl, rfl, rfl⟩
    obtain ⟨ends, level⟩ := ends_unhandled ended (quiet.leaves ended.ends.sound)
    exact agrees_afterBody hh hm hown length hk slips began ends level fun final => ended.cut final
  cases resume with
  | none =>
    obtain rfl := Option.some_inj.mp hk
    exact attempted rfl rfl fun _ => rfl
  | some cursor =>
    obtain ⟨n, rest, b, rfl, ne, hb, inside⟩ := resumes_branch rfl hk
    obtain ⟨first, rest, rfl⟩ := List.exists_cons_of_ne_nil ne
    rcases n with _ | _ | n
    · obtain rfl := Option.some_inj.mp hb
      refine attempted inside ?_ fun h => absurd h (Option.some_ne_none _)
      simp [Instruction.slipsAt, Instruction.slips, Instruction.branch?, Instruction.catches,
        inside]
    · obtain rfl := Option.some_inj.mp hb
      have at_ : handler.opensAt? (some (first :: rest)) = some k := inside
      refine agrees_runHandler (Agrees.mono (Reentry.Agree.block hh at_ hm hown length)
        fun r m' ended => ?_)
      obtain ⟨ends, level⟩ := ends_afterResumedHandler ended
      have slips : (Instruction.try body handler var).slipsAt (some (1 :: first :: rest)) =
          handler.slips (first :: rest) := Instruction.slips_branch hb rfl
      refine ⟨.after (.refl hm) ends (fun h => absurd h (Option.some_ne_none _)) (by simp)
        fun n room => ?_, level, fun _ => .inr rfl⟩
      exact (room.mono (Nat.le_refl _) (Nat.le_of_eq (by rw [slips]))).through rfl
    · cases hb

end Eval

end CellScript
