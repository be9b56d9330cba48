import CellScript.Proofs.Generator.Drive

/-!
# Bodies with their yields in line

A body without `foreach` loops can be run once, with every `yield` replaced by what is done with its
value. This is what calling it again and again comes to.

## Main definitions

* `Block.isIterFree` — blocks without `foreach` loops.
* `Eval.inlined` — a body that is run once.

## Main statements

* `suspendable_block`, `suspendable_step` — blocks and compound steps stand where they began when
  they are suspended.
-/

namespace CellScript

mutual

/-- Whether a block has no `foreach` loops, apart from those of the closures in it. -/
def Block.isIterFree : Block → Bool
  | .mk _ steps => areIterFree steps

def areIterFree : List Step → Bool
  | [] => true
  | .mk _ instruction :: rest => instruction.isIterFree && areIterFree rest

def Instruction.isIterFree : Instruction → Bool
  | .iterCreate _ _ | .iterDestroy => false
  | .decide _ onTrue onFalse => onTrue.isIterFree && isIterFree? onFalse
  | .loop _ body increment => body.isIterFree && isIterFree? increment
  | .try body handler _ => body.isIterFree && handler.isIterFree
  | _ => true

def isIterFree? : Option Block → Bool
  | none => true
  | some b => b.isIterFree

end

theorem areIterFree_iff {steps : List Step} :
    areIterFree steps ↔ ∀ step ∈ steps, step.instruction.isIterFree := by
  induction steps with
  | nil => simp [areIterFree]
  | cons step steps ih =>
    obtain ⟨line, instruction⟩ := step
    simp [areIterFree, ih, Step.instruction]

theorem Block.isIterFree_iff {b : Block} : b.isIterFree ↔ areIterFree b.steps := by
  obtain ⟨source, steps⟩ := b
  simp [Block.isIterFree, Block.steps]

theorem Instruction.isIterFree_branch {i : Instruction} {n : Nat} {b : Block} (h : i.isIterFree)
    (hb : i.branch? n = some b) : b.isIterFree := by
  unfold Instruction.branch? at hb
  split at hb
  · obtain rfl := Option.some_inj.mp hb
    simp_all [Instruction.isIterFree]
  · subst hb
    simp_all [Instruction.isIterFree, isIterFree?]
  · obtain rfl := Option.some_inj.mp hb
    simp_all [Instruction.isIterFree]
  · subst hb
    simp_all [Instruction.isIterFree, isIterFree?]
  · obtain rfl := Option.some_inj.mp hb
    simp_all [Instruction.isIterFree]
  · obtain rfl := Option.some_inj.mp hb
    simp_all [Instruction.isIterFree]
  · cases hb

theorem Shape.iterators_collapse {s t : Shape} (h : s.collapse = some t) :
    t.iterators = s.iterators := by
  rw [Shape.eq_of_collapse h]

/-- Without `foreach` loops no iterator is opened. -/
theorem Instruction.iterators_shape? {i : Instruction} {s t : Shape} (h : i.isIterFree)
    (hi : i.shape? s = some t) :
    t.iterators = s.iterators := by
  cases i with
  | createFrame | literal | interpolate | get =>
    obtain rfl := Option.some_inj.mp hi
    rfl
  | operate | index | call | objectNew | objectAccess => exact Shape.iterators_collapse hi
  | assign | assignMulti =>
    simp only [Instruction.shape?, Option.ite_none_right_eq_some] at hi
    exact Shape.iterators_collapse hi.2
  | closure | bind =>
    simp only [Instruction.shape?, Option.ite_none_right_eq_some, Option.some.injEq] at hi
    rw [hi.2]
  | decide | «try» =>
    obtain ⟨rfl, rfl, -⟩ := Shape.eq_of_statement hi
    rfl
  | loop =>
    obtain ⟨rfl, -⟩ := Shape.eq_of_loop hi
    rfl
  | iterCreate | iterDestroy => cases h
  | flow kind value =>
    obtain ⟨none_open, rfl⟩ := Instruction.shape?_flow hi
    exact none_open.symm

theorem iterators_shapeAfter {steps : List Step} {s t : Shape} (h : areIterFree steps)
    (hs : shapeAfter s steps = some t) : t.iterators = s.iterators := by
  induction steps generalizing s with
  | nil =>
    obtain rfl := Option.some_inj.mp hs
    rfl
  | cons step steps ih =>
    obtain ⟨line, instruction⟩ := step
    simp only [areIterFree, Bool.and_eq_true] at h
    obtain ⟨next, hi, rest⟩ := shapeAfter_cons hs
    rw [ih h.2 rest, Instruction.iterators_shape? h.1 hi]

namespace Block

variable {b : Block} {k index : Nat}

theorem iteratorsAt?_of_isIterFree (h : b.isIterFree) (hk : b.iteratorsAt? index = some k) :
    k = 0 := by
  refine iterators_shapeAfter (areIterFree_iff.mpr fun step here => ?_)
    (Block.shape_of_iteratorsAt? hk)
  exact areIterFree_iff.mp (Block.isIterFree_iff.mp h) step (List.mem_of_mem_take here)

theorem isIterFree_step {line : UInt32} {i : Instruction} (h : b.isIterFree)
    (hs : b.steps[index]? = some (.mk line i)) : i.isIterFree :=
  areIterFree_iff.mp (Block.isIterFree_iff.mp h) _ (List.mem_of_getElem? hs)

/-- A block is not suspended before its first step. -/
theorem exists_cons_of_opens? {cursor : Cursor} (h : b.opens? cursor = some k) :
    ∃ first rest, cursor = first :: rest := by
  cases cursor with
  | nil => cases h
  | cons first rest => exact ⟨first, rest, rfl⟩

/-- Where a body without `foreach` loops is suspended none is open. -/
theorem opens?_of_isIterFree :
    ∀ (cursor : Cursor) {b : Block} {k : Nat}, b.isIterFree → b.opens? cursor = some k →
    k = 0
  | [index], _, _, h, hk => iteratorsAt?_of_isIterFree h hk
  | index :: branch :: rest, b, k, h, hk => by
    obtain ⟨line, i, iterators, inside, k', hs, here, hb, hk', rfl⟩ := Block.opens?_cons hk
    rw [iteratorsAt?_of_isIterFree h here,
      opens?_of_isIterFree rest (Instruction.isIterFree_branch (isIterFree_step h hs) hb) hk']

end Block

theorem Instruction.opens?_of_isIterFree {i : Instruction} {cursor : Cursor} {k : Nat}
    (compound : i.isFlow = false) (h : i.isIterFree) (hk : i.opens? cursor = some k) : k = 0 := by
  obtain ⟨branch, rest, b, rfl, -, hb, hk⟩ := Eval.resumes_branch compound hk
  exact Block.opens?_of_isIterFree rest (Instruction.isIterFree_branch h hb) hk

namespace Eval

variable {s : Reentry} {b : Block} {i : Instruction} {m m' : Machine} {r : Except Fault Flow}

/-! ## Standing where it began -/

theorem suspends_of_ends {opens? : Cursor → Option Nat} {fresh : Prop}
    (h : m.Ends m.context.iterators 0 0 opens? fresh r m') (level : m.Level m')
    (closed : ∀ cursor k, opens? cursor = some k → k = 0) :
    Suspends (opens? · = some 0) m r m' := by
  obtain ⟨own, room, eq⟩ := h.iterators
  have rests (none : own.length = 0) : m.Rests m' := by
    obtain rfl := List.length_eq_zero_iff.mp none
    exact ⟨⟨h.sound, h.grows, h.rigid, h.scope, nofun, level⟩, eq⟩
  match r, room with
  | .ok (.yield _ cursor), ⟨k, hk, lower, upper⟩ =>
    obtain rfl := closed cursor k hk
    exact ⟨rests (by omega), hk⟩
  | .ok .normal, room | .ok .break, room | .ok .continue, room =>
    exact rests (Nat.le_zero.mp room.2)
  | .ok (.return _), _ | .ok (.throw _), _ | .ok (.callcc _ _), _ | .error _, _ => trivial

theorem slipsAt_of_opens? {resume : Option Cursor}
    (here : ∀ cursor, resume = some cursor → b.opens? cursor = some 0) : b.slipsAt resume = 0 := by
  cases resume with
  | none => rfl
  | some cursor => exact Nat.le_zero.mp (Block.slips_le cursor b (here cursor rfl))

theorem instruction_slips_of_opens? {cursor : Cursor} (h : i.opens? cursor = some 0) :
    i.slips cursor = 0 := by
  cases cursor with
  | nil => rfl
  | cons branch rest =>
    obtain ⟨b, hb, hk⟩ := Option.bind_eq_some_iff.mp h
    have less := Block.slips_le rest b hk
    simp only [Instruction.slips, hb, hk, Option.getD_some]
    split
    · rfl
    · omega

/-- A block without `foreach` loops ends as it should, wherever it is called. -/
theorem ended_block [Reentry.Agree False s s] {resume : Option Cursor} (hb : b.isBalanced)
    (hm : m.Sound) (here : ∀ cursor, resume = some cursor → b.opens? cursor = some 0) :
    Run.Meets (b.Ended resume m m.context.iterators 0) (s.block b resume m) := by
  have position : b.opensAt? resume = some 0 := by
    cases resume with
    | none => rfl
    | some cursor => exact here cursor rfl
  have agrees :
      Run.Agrees False (s.block b resume) (s.block b resume)
        (b.Ended resume m m.context.iterators 0) m :=
    @Reentry.Agree.block _ _ _ _ _ _ _ _ [] _ _ hb position hm rfl rfl
  exact (agrees.resolve_left fun h => h.1).2

theorem suspendable_block [Reentry.Agree False s s] (hb : b.isBalanced) (free : b.isIterFree) :
    Suspendable (s.block b) (b.opens? · = some 0) where
  suspends hm here := (ended_block hb hm here).mono fun _ _ ended =>
    suspends_of_ends (slipsAt_of_opens? here ▸ ended.ends) ended.level fun cursor _ =>
      Block.opens?_of_isIterFree cursor free

/-- A throw out of a block leaves no iterator behind. -/
theorem rests_thrown [Reentry.Agree False s s] {value : CellRef} (hb : b.isBalanced) {e : Machine}
    {p : Except Stop Flow × Machine} (h : Reached (s.block b) (b.opens? · = some 0) e p)
    (eq : p = (.ok (.throw value), m')) : e.Rests m' := by
  obtain ⟨resume, m, rests, here, rfl⟩ := h
  have ended : b.Ended resume m m.context.iterators 0 (.ok (.throw value)) m' := by
    have meets := ended_block (s := s) hb rests.sound here
    rwa [eq] at meets
  obtain ⟨own, -, iterators⟩ := ended.ends.iterators
  have short := ended.cut rfl
  rw [iterators, List.length_append] at short
  obtain rfl := List.length_eq_zero_iff.mp (by omega : own.length = 0)
  exact rests.trans ⟨(ended.ends.kept ended.level rfl).resumed, iterators⟩

theorem suspendable_step [Reentry.Agree False s s] (compound : i.isSimple = false)
    (flow : i.isFlow = false) {τ : Shape} (hi : i.shape? .flat = some τ) (free : i.isIterFree) :
    Suspendable (step s · i) (i.opens? · = some 0) where
  suspends {resume m} hm here := by
    have position : i.opensAt? resume = some 0 := by
      cases resume with
      | none => rfl
      | some cursor => exact here cursor rfl
    have slips : i.slipsAt resume = 0 := by
      cases resume with
      | none => rfl
      | some cursor => exact instruction_slips_of_opens? (here cursor rfl)
    have performs : Performs False (step s) (step s) := performs_step
    have agrees := performs.compound compound flow hi (Nat.le_refl 0) hm
      (show m.context.iterators = [] ++ m.context.iterators from rfl) rfl position
    refine (agrees.resolve_left (fun h => h.1)).2.mono fun r m' ended => ?_
    exact suspends_of_ends (slips ▸ ended.ends) ended.level fun _ _ =>
      Instruction.opens?_of_isIterFree flow free

/-! ## Bodies that are run once -/

/-- A step of a body that is run once. What is yielded is consumed at once. -/
def inlinedStep (k : Consumer) (line : UInt32) (self : Reentry) (inner : UInt32 → Reentry) :
    Instruction → Run Flow
  | .decide condition onTrue onFalse => do
    branch (inner (← Run.askContext (·.line))) condition onTrue onFalse none
  | .loop condition body increment => do
    loop (inner (← Run.askContext (·.line))) condition body increment none
  | .try body handler var => do tryBlock (inner (← Run.askContext (·.line))) body handler var none
  | i => do
    match ← step self none i with
    | .yield value _ =>
      Run.changeMachine (k.between line value)
      return .normal
    | flow => return flow

/-- A body that is run once, from its start to its end, in a call that was made at a line. -/
def inlined (k : Consumer) : Nat → UInt32 → Block → Run Flow
  | 0, _, _ => throw .exhausted
  | n + 1, line, b =>
    let inner (line : UInt32) : Reentry := { reentry n with block := fun b _ => inlined k n line b }
    blockBy (fun _ => inlinedStep k line (reentry n) inner) b none

/-! ## Blocks -/

/-- The end of a block. -/
def blockEnd (source : Option String) (marks : Marks) (outcome : Except Fault Flow) : Run Flow := do
  Run.changeContext (closing source marks outcome)
  Run.settle outcome

/-- The steps of a block after one that came to a flow. -/
def goOn (perform : Option Cursor → Instruction → Run Flow) (index : Nat) (rest : List Step) :
    Except Fault Flow → Run (Except Fault Flow)
  | .ok .normal => steps perform (index + 1) none rest
  | .ok flow => return .ok (leaveAt index flow)
  | .error f => return .error f

/-- What a block does after one of its steps. -/
def afterStep (perform : Option Cursor → Instruction → Run Flow) (source : Option String)
    (marks : Marks) (line : UInt32) (index : Nat) (rest : List Step) (r : Except Fault Flow) :
    Run Flow := do
  let outcome ← flowOfStep line r
  blockEnd source marks (← goOn perform index rest outcome)

variable {perform perform' : Option Cursor → Instruction → Run Flow} {source : Option String}
  {marks : Marks} {line : UInt32} {index : Nat} {rest : List Step}

theorem blockBy_run (b : Block) (resume : Option Cursor) (m : Machine) :
    blockBy perform b resume m = (steps perform (splitCursor resume).1 (splitCursor resume).2
      (b.steps.drop (splitCursor resume).1) >>=
      blockEnd b.source m.context.marks) (inSource m b.source) := rfl

theorem steps_cons_run (resume : Option Cursor) (m : Machine) :
    (steps perform index resume (.mk line i :: rest) >>= blockEnd source marks) m =
      proceed (afterStep perform source marks line index rest)
        (perform resume i { m with context := { m.context with line } }) := by
  have assoc : steps perform index resume (.mk line i :: rest) >>= blockEnd source marks =
      (do
        Run.changeContext ({ · with line })
        Run.attempt (perform resume i) >>= afterStep perform source marks line index rest) := by
    simp only [steps, bind_assoc]
    congr
  rw [assoc, Run.bind_run, Run.changeContext_run]
  exact attempt_bind_run _ _ _

@[simp] theorem afterStep_normal :
    afterStep perform source marks line index rest (.ok .normal) =
      (steps perform (index + 1) none rest >>= blockEnd source marks) := rfl

/-- A flow that ends a block for good ends it in the same way whatever the other steps do. -/
theorem agrees_afterStep (ne : r ≠ .ok .normal)
    (final : ∀ value cursor, r ≠ .ok (.yield value cursor)) :
    Run.Agrees False (afterStep perform source marks line index rest r)
      (afterStep perform' source marks line index rest r)
      (fun r' _ => ∀ value cursor, r' ≠ .ok (.yield value cursor)) m := by
  refine agrees_flowOfStep line r fun outcome m' _ settles => ?_
  have same : goOn perform index rest outcome = goOn perform' index rest outcome ∧
      ∃ outcome', goOn perform' index rest outcome = pure outcome' ∧
        ∀ value cursor, outcome' ≠ .ok (.yield value cursor) := by
    match outcome, settles with
    | .error f, _ => exact ⟨rfl, _, rfl, nofun⟩
    | .ok .normal, settles => exact absurd settles.normal ne
    | .ok (.yield value cursor), settles =>
      obtain rfl | ⟨_, _, _, eq⟩ := settles
      · exact absurd rfl (final value cursor)
      · cases eq
    | .ok .break, _ | .ok .continue, _ | .ok (.return _), _ | .ok (.throw _), _ =>
      exact ⟨rfl, _, rfl, nofun⟩
    | .ok (.callcc _ []), _ | .ok (.callcc _ (_ :: _)), _ => exact ⟨rfl, _, rfl, nofun⟩
  obtain ⟨same, outcome', eq, plain⟩ := same
  rw [same, eq]
  exact .bind (.pure (.bind (.changeContext (.settle plain))))

/-- Closing a block where it is suspended takes nothing back but its source. -/
theorem closing_suspended {c c₀ : Context} {value : CellRef} {cursor : Cursor}
    (frames : c.frames.length = c₀.frames.length) (handlers : c.handlers = c₀.handlers)
    (sources : c.sources = source.toList ++ c₀.sources) :
    closing source c₀.marks (.ok (.yield value cursor)) c = { c with sources := c₀.sources } := by
  have cut : truncateStack c.sources c₀.sources.length = c₀.sources := by
    rw [sources, truncateStack_append]
  have whole : truncateStack c.frames c₀.frames.length = c.frames := by simp [truncateStack, frames]
  have kept : truncateStack c.handlers c₀.handlers.length = c.handlers := by
    simp [truncateStack, handlers]
  obtain ⟨⟩ := c
  simp only [closing, Context.unwind, Context.truncateFrames, Context.marks, Context.frameDepth,
    Flow.suspends, Nat.add_sub_cancel] at *
  simp [whole, kept, cut, frames]

/-- Outside of a block that is suspended. -/
theorem rests_outside {m₀ : Machine} (h : (inSource m₀ source).Rests m) :
    m₀.Rests { m with context := { m.context with sources := m₀.context.sources } } := by
  refine ⟨⟨h.sound.of_code rfl, .around h.grows rfl rfl, ?_, h.scope, nofun, h.level⟩, h.iterators⟩
  have rigid : m.context.rigid = (inSource m₀ source).context.rigid := h.rigid
  simp only [Context.rigid, inSource, Prod.mk.injEq] at rigid ⊢
  exact ⟨rigid.1, rigid.2.1, trivial, rigid.2.2.2⟩

/-- A block that is suspended is taken up again inside of the steps that it was left in. -/
theorem blockBy_between {m₀ : Machine} (deep : 1 < m₀.context.frameDepth)
    (h : (inSource m₀ b.source).Rests m) (k : Consumer) (line : UInt32) (value : CellRef)
    (resume : Option Cursor) :
    blockBy perform b resume
        (k.between line value { m with
          context := { m.context with sources := m₀.context.sources } }) =
      (steps perform (splitCursor resume).1 (splitCursor resume).2
        (b.steps.drop (splitCursor resume).1) >>=
        blockEnd b.source m₀.context.marks) (k.between line value m) := by
  rw [blockBy_run, ((rests_outside h).between deep k line value).marks]
  have sources : m.context.sources = b.source.toList ++ m₀.context.sources :=
    Context.sources_of_rigid h.rigid
  have inside : inSource (k.between line value
      { m with
        context :=
          { m.context with
            sources := m₀.context.sources } }) b.source = k.between line value m := by
    rw [k.between_eq, Consumer.between, inSource]
    simp [← sources, Context.killFrame, Context.createFrame]
  rw [inside]

/-- The end of a block that is suspended. -/
theorem blockEnd_yield {m₀ : Machine} {value : CellRef} {cursor : Cursor}
    (h : (inSource m₀ source).Rests m) :
    blockEnd source m₀.context.marks (.ok (.yield value cursor)) m =
      (.ok (.yield value cursor),
        { m with context := { m.context with sources := m₀.context.sources } }) := by
  have frames : m.context.frames.length = m₀.context.frames.length := by
    have depth : m.context.frames.length + 1 = m₀.context.frames.length + 1 := h.level.frameDepth
    omega
  have handlers : m.context.handlers = (inSource m₀ source).context.handlers :=
    Context.handlers_of_rigid h.rigid
  have closed : closing source m₀.context.marks (.ok (.yield value cursor)) m.context =
      { m.context with sources := m₀.context.sources } :=
    closing_suspended frames handlers (Context.sources_of_rigid h.rigid)
  rw [blockEnd, Run.bind_run, Run.changeContext_run, closed]
  rfl

/-- What becomes of the outcome of a step when what it yields is consumed at once. -/
def consumed (k : Consumer) (line : UInt32) :
    Except Stop Flow × Machine → Except Stop Flow × Machine
  | (.ok (.yield value _), m) => (.ok .normal, k.between line value m)
  | p => p

theorem inlinedStep_run {k : Consumer} {callLine : UInt32} {inner : UInt32 → Reentry}
    (h : i.isSimple ∨ i.isFlow) (m : Machine) :
    inlinedStep k callLine s inner i m = consumed k callLine (step s none i m) := by
  have plain : inlinedStep k callLine s inner i = (do
      match ← step s none i with
      | .yield value _ =>
        Run.changeMachine (k.between callLine value)
        return .normal
      | flow => return flow) := by
    cases i with
    | decide | loop | «try» => simp [Instruction.isSimple, Instruction.isFlow] at h
    | _ => rfl
  rw [plain, Run.bind_run]
  rcases step s none i m with ⟨_ | flow, m'⟩
  · rfl
  · cases flow <;> rfl

section Steps

variable {k : Consumer} {inner : UInt32 → Reentry} {callLine : UInt32} {m₀ a : Machine} {σ : Shape}

/-- Steps that are driven come to what they come to when they are run once. -/
theorem drives_steps [Reentry.Agree False s s] (free : b.isIterFree)
    (deep : 1 < m₀.context.frameDepth)
    (compound : ∀ i τ m, i.isSimple = false → i.isFlow = false → i.shape? .flat = some τ →
      i.isIterFree → m.Sound →
      1 < m.context.frameDepth → (inlinedStep k callLine s inner i m).1 ≠ .error .exhausted →
      Drives k m.context.line (step s · i) (step s none i m) (inlinedStep k callLine s inner i m))
    (hrest : b.steps.drop index = rest) (hσ : shapeAfter .flat (b.steps.take index) = some σ)
    (flat : shapeAfter σ rest = some .flat) (ha : (inSource m₀ b.source).Rests a)
    (h : a.At a.context.iterators 0 σ m)
    (ends : ((steps (fun _ => inlinedStep k callLine s inner) index none rest >>=
      blockEnd b.source m₀.context.marks) m).1 ≠ .error .exhausted) :
    Drives k callLine (blockBy (step s) b)
      ((steps (step s) index none rest >>= blockEnd b.source m₀.context.marks) m)
      ((steps (fun _ => inlinedStep k callLine s inner) index none rest >>=
        blockEnd b.source m₀.context.marks) m) := by
  induction rest generalizing index σ a m with
  | nil => exact .normal
  | cons first rest ih =>
    obtain ⟨line, i⟩ := first
    obtain ⟨τ, hi, flat'⟩ := shapeAfter_cons flat
    have before : Before b index σ line i rest := ⟨hrest, hσ⟩
    obtain ⟨hτ, hrest'⟩ := before.next hi
    have lined : m.Quiet { m with context := { m.context with line } } := ⟨rfl, rfl, rfl, rfl, rfl⟩
    have h₁ := h.quiet lined
    rw [steps_cons_run] at ends ⊢
    rw [steps_cons_run]
    have performs : Performs False (step s) (step s) := performs_step
    -- what ends the block for good ends it in the same way in both
    have stops {r : Except Fault Flow} {m' : Machine} (ne : r ≠ .ok .normal)
        (final : ∀ value cursor, r ≠ .ok (.yield value cursor)) :
        Drives k callLine (blockBy (step s) b)
          (afterStep (step s) b.source m₀.context.marks line index rest r m')
          (afterStep (fun _ => inlinedStep k callLine s inner) b.source m₀.context.marks
            line index rest r m') := by
      have agrees :
          Run.Agrees False (afterStep (step s) b.source m₀.context.marks line index rest r)
          (afterStep (fun _ => inlinedStep k callLine s inner) b.source m₀.context.marks
            line index rest r) _ m' :=
        agrees_afterStep ne final
      obtain ⟨same, plain⟩ := agrees.resolve_left fun h => h.1
      rw [← same]
      refine .ended fun value cursor eq => ?_
      rcases hp : afterStep (step s) b.source m₀.context.marks line index rest r m' with
        ⟨outcome, m''⟩
      rw [hp] at eq plain
      obtain rfl : outcome = .ok (.yield value cursor) := eq
      exact plain value cursor rfl
    by_cases simple : i.isSimple
    · have goes : Run.Meets (Goes a a.context.iterators 0 τ) _ :=
        ((performs.simple simple hi h₁).resolve_left fun h => h.1).2
      rw [inlinedStep_run (.inl simple)] at ends ⊢
      rcases hp : step s none i { m with context := { m.context with line } } with ⟨r, m₂⟩
      rw [hp] at goes ends
      match r, goes with
      | .ok .normal, goes => exact ih hrest' hτ flat' ha goes ends
      | .error (.fault f), _ => exact stops nofun nofun
      | .error .exhausted, _ => exact absurd rfl ends
    · replace simple : i.isSimple = false := by simpa using simple
      cases flow : i.isFlow with
      | true =>
        obtain ⟨kind, value, rfl⟩ : ∃ kind value, i = .flow kind value := by
          cases i with
          | flow kind value => exact ⟨kind, value, rfl⟩
          | _ => cases flow
        have leaps : Run.Meets (Leaps a a.context.iterators 0) _ :=
          ((performs.flow hi h₁).resolve_left fun h => h.1).2
        obtain ⟨-, rfl⟩ := Instruction.shape?_flow hi
        rw [inlinedStep_run (.inr rfl)] at ends ⊢
        rcases hp : step s none (.flow kind value)
          { m with context := { m.context with line } } with ⟨r, m₂⟩
        rw [hp] at leaps ends
        match r, leaps with
        | .error (.fault f), _ => exact stops nofun nofun
        | .error .exhausted, _ => exact absurd rfl ends
        | .ok .normal, leaps => exact absurd rfl leaps.2.1
        | .ok (.yield value cursor), leaps =>
          obtain rfl := leaps.2.2 value cursor (.inl rfl)
          have rests := ha.trans (.of_at leaps.1)
          have again :=
            rests.between (show 1 < (inSource m₀ b.source).context.frameDepth from deep)
              k callLine value
          change Drives k callLine _
            (blockEnd b.source m₀.context.marks (.ok (.yield value [index + 1])) m₂) _
          rw [blockEnd_yield rests]
          refine .resumed ?_
          rw [blockBy_between deep rests]
          change Drives k callLine _
            ((steps (step s) (index + 1) none (b.steps.drop (index + 1)) >>= _) _) _
          rw [hrest']
          exact ih hrest' hτ flat' again again.at_ ends
        | .ok .break, _ | .ok .continue, _ | .ok (.return _), _ | .ok (.throw _), _
        | .ok (.callcc _ _), _ =>
          exact stops nofun nofun
      | false =>
        obtain ⟨rfl, outside⟩ := Instruction.shape?_compound simple flow hi
        obtain ⟨frames, iterators⟩ := τ
        obtain rfl : frames = 0 := outside
        obtain rfl := Block.iteratorsAt?_of_isIterFree free (Block.iteratorsAt?_of_shape hσ)
        have freeStep := Block.isIterFree_step free before.step
        have he := ha.trans (.of_at h₁)
        have deep' :
            1 < ({ m with context := { m.context with line } } : Machine).context.frameDepth := by
          rw [he.level.frameDepth]
          exact deep
        rcases hq : inlinedStep k callLine s inner i
          { m with context := { m.context with line } } with ⟨r, m₂⟩
        rw [hq] at ends
        have drives := compound i _ _ simple flow hi freeStep h₁.sound deep' (by
          rw [hq]
          rintro rfl
          exact ends rfl)
        rw [hq] at drives
        refine drives.through
          (F := (· = afterStep (step s) b.source m₀.context.marks line index rest))
          (suspendable_step simple flow hi freeStep) deep' (.first h₁.sound) rfl ?_ ?_
        · rintro _ value cursor m' rfl rests here
          obtain ⟨branch, inside, -, rfl, -⟩ := resumes_branch flow here
          have rests := he.trans rests
          refine ⟨index :: branch :: inside, _, blockEnd_yield rests, _, rfl, ?_⟩
          rw [blockBy_between deep rests]
          change (steps (step s) index (some (branch :: inside)) (b.steps.drop index) >>= _) _ = _
          rw [hrest, steps_cons_run]
          rfl
        · rintro _ rfl reached final
          match r, reached, final, ends with
          | .ok .normal, reached, _, ends =>
            have rests : Machine.Rests _ m₂ :=
              reached.meets (suspendable_step simple flow hi freeStep)
            have again := he.trans rests
            exact ih hrest' hτ flat' again again.at_ ends
          | .error (.fault f), _, _, _ => exact stops nofun nofun
          | .error .exhausted, _, _, ends => exact absurd rfl ends
          | .ok (.yield value cursor), _, final, _ => exact absurd rfl (final value cursor)
          | .ok .break, _, _, _ | .ok .continue, _, _, _ | .ok (.return _), _, _, _
          | .ok (.throw _), _, _, _
          | .ok (.callcc _ _), _, _, _ => exact stops nofun nofun

end Steps

end Eval

end CellScript
