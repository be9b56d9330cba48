import CellScript.BackgroundTask
import Mathlib.Algebra.GroupWithZero.Nat
import Mathlib.Logic.Function.Basic

/-!
# Background tasks deliver once

The work of a task goes on beside its owners, who wait for the outcome or ask whether the work has
ended. Any number of their calls may be in progress at a time, and the steps of all calls and the
end of the work come in any order. A call is a few steps: a wait gets the lock, takes the outcome or
gives up, notes what it took and lets the lock go; a question gets the lock to look whether the
outcome was taken, lets it go, and only then looks at the channel.

So the outcome is delivered once, but an owner may be told that the work has ended and later that it
has not: when another owner takes the outcome between the two looks of the later question.

## Main definitions

* `BackgroundTask.outcome` — the outcome of work.
* `BackgroundTask.Call` — how far a call has come.
* `BackgroundTask.Scene`, `BackgroundTask.Event`, `BackgroundTask.Step` — a task with its worker and
  the calls of its owners, and what may happen there.
* `BackgroundTask.Run` — what has happened since the work began.
* `BackgroundTask.Delivered` — the answers to owners are those that they ought to be.
* `BackgroundTask.Scene.Proceeds` — nothing is stuck.

## Main statements

* `BackgroundTask.Step.agrees`, `BackgroundTask.Run.agrees` — a task agrees with what has happened.
* `BackgroundTask.Run.wait_alone`, `BackgroundTask.Run.isFinished_alone` — calls that nobody gets in
  the way of.
* `BackgroundTask.Run.delivered_once` — the outcome is delivered once, and nothing is stuck.
* `BackgroundTask.isFinished_unsteady` — work that has ended, and then has not.
* `Undertaking.wait_of_within`, `Undertaking.wait_of_not_within` — waits for work that takes time.
-/

namespace CellScript.BackgroundTask

variable {α : Type}

/-- The outcome of work: a value, or a panic. -/
def outcome (work : HostWork α) : Except WorkerError α :=
  (catchPanic work).mapError (.panicked ·.payload)

/-- When the work ends, its outcome waits in the channel. -/
theorem complete_eq (t : BackgroundTask α) (work : HostWork α) :
    t.complete work = { t with channel := some (outcome work) } := by
  unfold complete outcome
  cases catchPanic work <;> rfl

/-! ## What may happen -/

/-- How far a call of an owner has come. -/
inductive Call (α : Type) where
  /-- it has not begun -/
  | unborn
  /-- a wait, before it has the lock -/
  | waiting (limit : Option Nat)
  /-- a wait that has the lock; the outcome was not taken -/
  | receiving (limit : Option Nat)
  /-- a wait that has the lock and has taken the outcome, but has not noted it -/
  | received (result : Except WorkerError α)
  /-- a wait that is about to return -/
  | returning (result : Except WorkerError α)
  /-- a question, before it has the lock -/
  | asking
  /-- a question that has let the lock go; the outcome was not taken -/
  | looked
  /-- a question that is about to be answered -/
  | telling (finished : Bool)
  | ended

/-- A task, whether its work goes on, the call that has the lock, and how far each call has come. -/
structure Scene (α : Type) where
  task : BackgroundTask α
  working : Bool
  lock : Option Nat
  calls : Nat → Call α

/-- A task whose work has begun. -/
def Scene.spawn (name : String) : Scene α :=
  ⟨.spawn name, true, none, fun _ => .unborn⟩

/-- A scene in which a call has come to a stage. -/
def Scene.put (x : Scene α) (i : Nat) (c : Call α) : Scene α :=
  { x with calls := Function.update x.calls i c }

@[simp]
theorem Scene.put_task (x : Scene α) (i : Nat) (c : Call α) : (x.put i c).task = x.task := rfl

@[simp]
theorem Scene.put_working (x : Scene α) (i : Nat) (c : Call α) :
    (x.put i c).working = x.working := rfl

@[simp]
theorem Scene.put_lock (x : Scene α) (i : Nat) (c : Call α) : (x.put i c).lock = x.lock := rfl

@[simp]
theorem Scene.put_self (x : Scene α) (i : Nat) (c : Call α) : (x.put i c).calls i = c :=
  Function.update_self ..

theorem Scene.put_of_ne (x : Scene α) {i k : Nat} (ne : k ≠ i) (c : Call α) :
    (x.put i c).calls k = x.calls k :=
  Function.update_of_ne ne ..

/-- What happens to a task. Calls go by numbers. -/
inductive Event (α : Type) where
  | ends (work : HostWork α)
  | waits (i : Nat) (limit : Option Nat)
  | takes (i : Nat) (result : Except WorkerError α)
  | waited (i : Nat) (result : Except WorkerError α)
  | asks (i : Nat)
  | answered (i : Nat) (finished : Bool)
  /-- a call goes on, and nobody sees it -/
  | goesOn (i : Nat)

/-- The call that an event is about. -/
def Event.call? : Event α → Option Nat
  | .ends _ => none
  | .waits i _ | .takes i _ | .waited i _ | .asks i | .answered i _ | .goesOn i => some i

/-- One thing happens. -/
inductive Step : Scene α → Event α → Scene α → Prop
  | ends {x : Scene α} (work : HostWork α) : x.working = true →
    Step x (.ends work) { x with task := x.task.complete work, working := false }
  | waits {x : Scene α} {i : Nat} (limit : Option Nat) : x.calls i = .unborn →
    Step x (.waits i limit) (x.put i (.waiting limit))
  /-- the lock is had and let go again -/
  | findsTaken {x : Scene α} {i : Nat} {limit : Option Nat} :
    x.calls i = .waiting limit → x.lock = none → x.task.taken = true →
    Step x (.goesOn i) (x.put i (.returning (.error .finished)))
  | locks {x : Scene α} {i : Nat} {limit : Option Nat} :
    x.calls i = .waiting limit → x.lock = none → x.task.taken = false →
    Step x (.goesOn i) { x.put i (.receiving limit) with lock := some i }
  | takes {x : Scene α} {i : Nat} {limit : Option Nat} {result : Except WorkerError α}
    {t : BackgroundTask α} : x.calls i = .receiving limit → x.task.receive = some (result, t) →
    Step x (.takes i result) { x.put i (.received result) with task := t }
  | settles {x : Scene α} {i : Nat} {result : Except WorkerError α} : x.calls i = .received result →
    Step x (.goesOn i) { x.put i (.returning result) with task := x.task.settle, lock := none }
  | givesUp {x : Scene α} {i ms : Nat} :
    x.calls i = .receiving (some ms) → x.task.receive = none →
    Step x (.goesOn i) { x.put i (.returning (.error (.timeout ms))) with lock := none }
  | waited {x : Scene α} {i : Nat} {result : Except WorkerError α} : x.calls i = .returning result →
    Step x (.waited i result) (x.put i .ended)
  | asks {x : Scene α} {i : Nat} : x.calls i = .unborn → Step x (.asks i) (x.put i .asking)
  /-- the lock is had and let go again -/
  | looks {x : Scene α} {i : Nat} : x.calls i = .asking → x.lock = none →
    Step x (.goesOn i) (x.put i (if x.task.taken then .telling true else .looked))
  | reads {x : Scene α} {i : Nat} : x.calls i = .looked →
    Step x (.goesOn i) (x.put i (.telling x.task.channel.isSome))
  | answered {x : Scene α} {i : Nat} {finished : Bool} : x.calls i = .telling finished →
    Step x (.answered i finished) (x.put i .ended)

/-- What has happened since the work of a task began. -/
inductive Run (name : String) : List (Event α) → Scene α → Prop
  | spawn : Run name [] (.spawn name)
  | step {h : List (Event α)} {x y : Scene α} {e : Event α} :
    Run name h x → Step x e y → Run name (h ++ [e]) y

variable {x y : Scene α} {e : Event α} {h : List (Event α)} {t t' : BackgroundTask α} {i j : Nat}
  {limit : Option Nat} {result : Except WorkerError α} {c : Call α}

/-- The work has ended. -/
def Ended (h : List (Event α)) : Prop :=
  ∃ work, .ends work ∈ h

/-- The outcome was taken out of the channel. -/
def Taken (h : List (Event α)) : Prop :=
  ∃ i result, .takes i result ∈ h

theorem Ended.append (ended : Ended h) (more : List (Event α)) : Ended (h ++ more) :=
  ended.imp fun _ => List.mem_append_left more

theorem Taken.append (taken : Taken h) (more : List (Event α)) : Taken (h ++ more) :=
  taken.imp fun _ => .imp fun _ => List.mem_append_left more

theorem ended_concat : Ended (h ++ [e]) ↔ Ended h ∨ ∃ work, e = .ends work := by
  simp only [Ended, List.mem_append, List.mem_singleton, exists_or, eq_comm]

theorem taken_concat : Taken (h ++ [e]) ↔ Taken h ∨ ∃ i result, e = .takes i result := by
  simp only [Taken, List.mem_append, List.mem_singleton, exists_or, eq_comm]

/-- An event of a longer history is the last one, or one before it. -/
theorem concat_split {a : Event α} {before during : List (Event α)}
    (split : h ++ [e] = before ++ a :: during) :
    (∃ earlier, during = earlier ++ [e] ∧ h = before ++ a :: earlier) ∨
      during = [] ∧ before = h ∧ a = e := by
  obtain rfl | ⟨earlier, last, rfl⟩ := List.eq_nil_or_concat during
  · obtain ⟨rfl, same⟩ := List.append_inj' split rfl
    exact .inr ⟨rfl, rfl, (List.singleton_inj.mp same).symm⟩
  · rw [List.concat_eq_append, ← List.cons_append, ← List.append_assoc] at split
    obtain ⟨rfl, same⟩ := List.append_inj' split rfl
    exact .inl ⟨earlier, by rw [List.concat_eq_append, List.singleton_inj.mp same], rfl⟩

/-! ## Tasks agree with what has happened -/

/-- Whether a call has the lock. -/
def Call.locks : Call α → Bool
  | .receiving _ | .received _ => true
  | _ => false

/-- A call that has come to a stage has done what leads there. -/
def Call.Agrees (i : Nat) (h : List (Event α)) : Call α → Prop
  | .unborn => ∀ e ∈ h, e.call? ≠ some i
  | .waiting limit =>
    (∀ limit', .waits i limit' ∈ h → limit' = limit) ∧ ∀ result, .takes i result ∉ h
  | .receiving limit => (∀ limit', .waits i limit' ∈ h → limit' = limit) ∧ ¬ Taken h
  | .received result => .takes i result ∈ h
  | .returning result => .takes i result ∈ h ∨ (∀ result, .takes i result ∉ h) ∧
      (result = .error .finished ∧ Taken h ∨
        ∃ ms, result = .error (.timeout ms) ∧ ∀ before limit during,
          h = before ++ .waits i limit :: during → limit = some ms ∧ ¬ Ended before)
  | .looked => ∀ before during, h = before ++ .asks i :: during → ¬ Taken before
  | .telling true => Ended h
  | .telling false => ∀ before during, h = before ++ .asks i :: during →
      ¬ Ended before ∨ Taken during
  | .asking | .ended => True

/-- A task is in the state that follows from what has happened to it. -/
structure Scene.Agrees (x : Scene α) (h : List (Event α)) : Prop where
  working : x.working = true ↔ ¬ Ended h
  /-- until it is taken, the outcome of work that has ended waits in the channel -/
  channel : ∀ result, x.task.channel = some result ↔
    (∃ work, .ends work ∈ h ∧ result = outcome work) ∧ ¬ Taken h
  /-- it is taken once -/
  once : ∀ i j result result', .takes i result ∈ h → .takes j result' ∈ h →
    i = j ∧ result = result'
  ended : Taken h → Ended h
  /-- what was taken is noted, or will be -/
  taken : Taken h → x.task.taken = true ∨ ∃ i result, x.calls i = .received result
  noted : x.task.taken = true → Taken h
  holder : ∀ i, x.lock = some i ↔ (x.calls i).locks = true
  calls : ∀ i, (x.calls i).Agrees i h

/-- What is done for other calls leaves a call where it is. While it is about to take the outcome,
nobody else takes it. -/
theorem Call.Agrees.append (agrees : c.Agrees i h) (other : e.call? ≠ some i)
    (alone : c.locks = true → ∀ j result, e ≠ .takes j result) : c.Agrees i (h ++ [e]) := by
  have apart {a : Event α} (own : a.call? = some i) : a ≠ e := fun same => other (same ▸ own)
  have stays {a : Event α} (own : a.call? = some i) : a ∈ h ++ [e] → a ∈ h := by
    simp [apart own]
  have splits {a : Event α} (own : a.call? = some i) {before during : List (Event α)}
      (split : h ++ [e] = before ++ a :: during) :
      ∃ earlier, during = earlier ++ [e] ∧ h = before ++ a :: earlier :=
    (concat_split split).resolve_right fun ⟨_, _, same⟩ => apart own same
  cases c with
  | unborn =>
    intro a among
    obtain earlier | last := List.mem_append.mp among
    · exact agrees a earlier
    · exact List.mem_singleton.mp last ▸ other
  | waiting limit =>
    exact ⟨fun _ began => agrees.1 _ (stays rfl began), fun _ took => agrees.2 _ (stays rfl took)⟩
  | receiving limit =>
    refine ⟨fun _ began => agrees.1 _ (stays rfl began), fun taken => ?_⟩
    obtain earlier | ⟨j, result, rfl⟩ := taken_concat.mp taken
    · exact agrees.2 earlier
    · exact alone rfl j result rfl
  | received result => exact List.mem_append_left _ agrees
  | returning result =>
    obtain took | ⟨never, ⟨rfl, taken⟩ | ⟨ms, rfl, began⟩⟩ := agrees
    · exact .inl (List.mem_append_left _ took)
    · exact .inr ⟨fun _ took => never _ (stays rfl took), .inl ⟨rfl, taken.append _⟩⟩
    · refine .inr ⟨fun _ took => never _ (stays rfl took),
        .inr ⟨ms, rfl, fun before limit during split => ?_⟩⟩
      obtain ⟨earlier, -, split⟩ := splits rfl split
      exact began before limit earlier split
  | looked =>
    intro before during split
    obtain ⟨earlier, -, split⟩ := splits rfl split
    exact agrees before earlier split
  | telling finished =>
    cases finished with
    | true => exact Ended.append agrees _
    | false =>
      intro before during split
      obtain ⟨earlier, rfl, was⟩ := splits rfl split
      exact (agrees before earlier was).imp_right (·.append _)
  | asking | ended => trivial

namespace Scene.Agrees

theorem spawned (name : String) : (Scene.spawn name : Scene α).Agrees [] where
  working := by simp [Scene.spawn, Ended]
  channel := by simp [Scene.spawn, BackgroundTask.spawn]
  once := nofun
  ended := nofun
  taken := nofun
  noted := nofun
  holder := by simp [Scene.spawn, Call.locks]
  calls _ := nofun

variable (agrees : x.Agrees h)

include agrees

/-- When nobody has the lock, whatever was taken is noted. -/
theorem noted_iff (free : x.lock = none) : x.task.taken = true ↔ Taken h := by
  refine ⟨agrees.noted, fun taken => (agrees.taken taken).resolve_right ?_⟩
  rintro ⟨i, result, received⟩
  have held := (agrees.holder i).mpr (received ▸ rfl)
  exact nomatch free.symm.trans held

/-- The channel is empty as long as the work goes on, and when the outcome was taken. -/
theorem channel_none (empty : x.task.channel = none) : ¬ Ended h ∨ Taken h := by
  refine Classical.or_iff_not_imp_left.mpr fun ended => Classical.byContradiction fun untaken => ?_
  obtain ⟨work, ended⟩ := Classical.not_not.mp ended
  exact nomatch empty.symm.trans ((agrees.channel _).mpr ⟨⟨work, ended, rfl⟩, untaken⟩)

/-- The other calls stay where they are when a call goes on. -/
theorem calls_put (own : e.call? = some i)
    (alone : ∀ j result, e = .takes j result → ∀ k, k ≠ i → (x.calls k).locks = false)
    (stage : c.Agrees i (h ++ [e])) (k : Nat) : ((x.put i c).calls k).Agrees k (h ++ [e]) := by
  by_cases self : k = i
  · subst self
    rwa [Scene.put_self]
  · have other : e.call? ≠ some k := fun same => self (Option.some.inj (same.symm.trans own))
    have unlocked (locks : (x.calls k).locks = true) (j : Nat) (result : Except WorkerError α) :
        e ≠ .takes j result := fun takes => nomatch locks.symm.trans (alone j result takes k self)
    rw [Scene.put_of_ne x self]
    exact (agrees.calls k).append other unlocked

/-- The lock stays where it is. -/
theorem holder_put (same : c.locks = (x.calls i).locks) (k : Nat) :
    x.lock = some k ↔ ((x.put i c).calls k).locks = true := by
  rw [agrees.holder k]
  by_cases self : k = i
  · subst self
    rw [Scene.put_self, same]
  · rw [Scene.put_of_ne x self]

/-- A call gets the lock, or lets it go. -/
theorem holder_pass (mine : x.lock = none ∨ x.lock = some i) (k : Nat) :
    (if c.locks then some i else none) = some k ↔ ((x.put i c).calls k).locks = true := by
  by_cases self : k = i
  · subst self
    simp
  · have unlocked : (x.calls k).locks ≠ true := fun locks => by
      have held := (agrees.holder k).mpr locks
      obtain free | mine := mine
      · exact nomatch free.symm.trans held
      · exact self (Option.some.inj (held.symm.trans mine))
    simp [Scene.put_of_ne x self, Ne.symm self, unlocked]

/-- A call goes on, and neither takes anything nor notes what it took. -/
theorem moves (own : e.call? = some i) (takes : ∀ j result, e ≠ .takes j result)
    (unsettled : ∀ result, x.calls i ≠ .received result) {lock : Option Nat}
    (holder : ∀ k, lock = some k ↔ ((x.put i c).calls k).locks = true)
    (stage : c.Agrees i (h ++ [e])) : Scene.Agrees { x.put i c with lock } (h ++ [e]) := by
  have ends (work : HostWork α) : e ≠ .ends work := fun same => by simp [same, Event.call?] at own
  have ended : Ended (h ++ [e]) ↔ Ended h := by simp [ended_concat, ends]
  have taken : Taken (h ++ [e]) ↔ Taken h := by simp [taken_concat, takes]
  refine ⟨?_, ?_, ?_, ?_, ?_, ?_, holder,
    agrees.calls_put own (fun j r same => (takes j r same).elim) stage⟩
  · exact agrees.working.trans (not_congr ended.symm)
  · simpa [(ends _).symm, taken] using agrees.channel
  · simpa [(takes _ _).symm] using agrees.once
  · rw [taken, ended]
    exact agrees.ended
  · rw [taken]
    intro took
    obtain noted | ⟨j, result, received⟩ := agrees.taken took
    · exact .inl noted
    · have other : j ≠ i := fun self => unsettled result (self ▸ received)
      exact .inr ⟨j, result, (x.put_of_ne other c).trans received⟩
  · rw [taken]
    exact agrees.noted

/-- A call goes on, and the lock stays where it is. -/
theorem moves_put {d : Call α} (at_ : x.calls i = d) (own : e.call? = some i)
    (takes : ∀ j result, e ≠ .takes j result) (unsettled : ∀ result, d ≠ .received result)
    (same : c.locks = d.locks) (stage : c.Agrees i (h ++ [e])) :
    (x.put i c).Agrees (h ++ [e]) :=
  agrees.moves own takes (at_ ▸ unsettled) (agrees.holder_put (same.trans (at_ ▸ rfl))) stage

/-- The work ends. -/
theorem workEnds (work : HostWork α) (working : x.working = true) :
    Scene.Agrees { x with task := x.task.complete work, working := false } (h ++ [.ends work]) := by
  have before : ¬ Ended h := agrees.working.mp working
  have untaken : ¬ Taken h := fun taken => before (agrees.ended taken)
  have ended : Ended (h ++ [.ends work]) := ⟨work, by simp⟩
  have taken : Taken (h ++ [.ends work]) ↔ Taken h := by simp [taken_concat]
  have none (work : HostWork α) : .ends work ∉ h := fun ends => before ⟨work, ends⟩
  rw [complete_eq]
  refine ⟨?_, ?_, ?_, fun _ => ended, ?_, ?_, agrees.holder, fun i => ?_⟩
  · simp [ended]
  · simp [taken, untaken, none, eq_comm]
  · simpa using agrees.once
  · rw [taken]
    exact agrees.taken
  · rw [taken]
    exact agrees.noted
  · exact (agrees.calls i).append nofun fun _ _ _ => nofun

/-- A wait takes the outcome. -/
theorem takes (at_ : x.calls i = .receiving limit) (takes : x.task.receive = some (result, t')) :
    Scene.Agrees { x.put i (.received result) with task := t' } (h ++ [.takes i result]) := by
  obtain ⟨result', channel, same⟩ := Option.map_eq_some_iff.mp takes
  obtain ⟨rfl, rfl⟩ := Prod.mk.inj same
  obtain ⟨⟨work, ended, delivers⟩, untaken⟩ := (agrees.channel _).mp channel
  have taken : Taken (h ++ [.takes i result']) := ⟨i, result', by simp⟩
  have none (j : Nat) (r : Except WorkerError α) : .takes j r ∉ h :=
    fun took => untaken ⟨j, r, took⟩
  have held : x.lock = some i := (agrees.holder i).mpr (at_ ▸ rfl)
  refine ⟨?_, ?_, ?_, fun _ => ⟨work, by simp [ended]⟩, fun _ => .inr ⟨i, result', x.put_self i _⟩,
    fun _ => taken, ?_, ?_⟩
  · simpa [ended_concat] using agrees.working
  · simp [taken]
  · simp only [List.mem_append, none, false_or, List.mem_singleton, Event.takes.injEq]
    rintro _ _ _ _ ⟨rfl, rfl⟩ ⟨rfl, rfl⟩
    exact ⟨rfl, rfl⟩
  · exact agrees.holder_put (by rw [at_]; rfl)
  · refine agrees.calls_put rfl (fun _ _ _ k other => ?_) (by simp [Call.Agrees])
    refine Bool.eq_false_iff.mpr fun locks => other ?_
    exact Option.some.inj (((agrees.holder k).mpr locks).symm.trans held)

/-- A wait notes that it has taken the outcome, and lets the lock go. -/
theorem settles (at_ : x.calls i = .received result) :
    Scene.Agrees { x.put i (.returning result) with task := x.task.settle, lock := none }
      (h ++ [.goesOn i]) := by
  have took : .takes i result ∈ h := by simpa [at_, Call.Agrees] using agrees.calls i
  have ended : Ended (h ++ [.goesOn i]) ↔ Ended h := by simp [ended_concat]
  have taken : Taken (h ++ [.goesOn i]) ↔ Taken h := by simp [taken_concat]
  have held : x.lock = some i := (agrees.holder i).mpr (at_ ▸ rfl)
  refine ⟨?_, ?_, ?_, ?_, fun _ => .inl rfl, fun _ => ⟨i, result, by simp [took]⟩, ?_, ?_⟩
  · exact agrees.working.trans (not_congr ended.symm)
  · simpa [taken, settle] using agrees.channel
  · simpa using agrees.once
  · rw [taken, ended]
    exact agrees.ended
  · simpa [Call.locks] using agrees.holder_pass (c := .returning result) (.inr held)
  · exact agrees.calls_put rfl nofun (.inl (by simp [took]))

end Scene.Agrees

/-- A step keeps the agreement. -/
theorem Step.agrees (step : Step x e y) (agrees : x.Agrees h) : y.Agrees (h ++ [e]) := by
  cases step with
  | ends work working => exact agrees.workEnds work working
  | @waits i limit unborn =>
    have nothing : ∀ e ∈ h, e.call? ≠ some i := by simpa [unborn, Call.Agrees] using agrees.calls i
    have stage : (Call.waiting limit : Call α).Agrees i (h ++ [.waits i limit]) := by
      refine ⟨fun limit' began => ?_, fun result took => ?_⟩
      · obtain earlier | last := List.mem_append.mp began
        · exact (nothing _ earlier rfl).elim
        · cases List.mem_singleton.mp last
          rfl
      · exact nothing (.takes i result) (by simpa using took) rfl
    exact agrees.moves_put unborn rfl nofun nofun rfl stage
  | @findsTaken i limit at_ free noted =>
    have stage := agrees.calls i
    rw [at_] at stage
    exact agrees.moves_put at_ rfl nofun nofun rfl
      (.inr ⟨by simpa using stage.2, .inl ⟨rfl, (agrees.noted noted).append _⟩⟩)
  | @locks i limit at_ free unnoted =>
    have stage := agrees.calls i
    rw [at_] at stage
    have untaken : ¬ Taken h := fun taken => by simp [(agrees.noted_iff free).mpr taken] at unnoted
    refine agrees.moves rfl (by simp) (by simp [at_])
      (agrees.holder_pass (c := .receiving limit) (.inl free)) ?_
    exact ⟨by simpa using stage.1, by simpa [taken_concat] using untaken⟩
  | takes at_ takes => exact agrees.takes at_ takes
  | settles at_ => exact agrees.settles at_
  | @givesUp i ms at_ empty =>
    have stage := agrees.calls i
    rw [at_] at stage
    obtain ⟨began, untaken⟩ := stage
    have held : x.lock = some i := (agrees.holder i).mpr (at_ ▸ rfl)
    have unended : ¬ Ended h :=
      (agrees.channel_none (Option.map_eq_none_iff.mp empty)).resolve_right untaken
    refine agrees.moves rfl (by simp) (by simp [at_])
      (agrees.holder_pass (c := .returning _) (.inr held)) (.inr ⟨?_, .inr ⟨ms, rfl, ?_⟩⟩)
    · simpa using fun result took => untaken ⟨i, result, took⟩
    · intro before limit during split
      obtain ⟨earlier, rfl, was⟩ := (concat_split split).resolve_right nofun
      refine ⟨(Option.some.inj (?_ : some limit = some (some ms))), fun ended => unended ?_⟩
      · rw [began limit (by simp [was])]
      · rw [was]
        exact ended.append _
  | @waited i result at_ =>
    exact agrees.moves_put at_ rfl nofun nofun rfl trivial
  | @asks i unborn =>
    exact agrees.moves_put unborn rfl nofun nofun rfl trivial
  | @looks i at_ free =>
    refine agrees.moves_put at_ rfl nofun nofun (by split <;> rfl) ?_
    split
    next noted => exact (agrees.ended (agrees.noted noted)).append _
    next unnoted =>
      have untaken : ¬ Taken h := mt (agrees.noted_iff free).mpr unnoted
      intro before during split taken
      obtain ⟨earlier, rfl, was⟩ := (concat_split split).resolve_right nofun
      exact untaken (was ▸ taken.append _)
  | @reads i at_ =>
    have stage := agrees.calls i
    rw [at_] at stage
    refine agrees.moves_put at_ rfl nofun nofun rfl ?_
    cases channel : x.task.channel with
    | some result =>
      obtain ⟨⟨work, ended, -⟩, -⟩ := (agrees.channel result).mp channel
      exact Ended.append ⟨work, ended⟩ _
    | none =>
      intro before during split
      obtain ⟨earlier, rfl, was⟩ := (concat_split split).resolve_right nofun
      obtain unended | ⟨j, result, took⟩ := agrees.channel_none channel
      · exact .inl fun ended => unended (was ▸ ended.append _)
      · -- what was taken was not taken before the question
        have late : .takes j result ∉ before :=
          fun early => stage before earlier was ⟨j, result, early⟩
        have : .takes j result ∈ earlier := by simpa [was, late] using took
        exact .inr ⟨j, result, List.mem_append_left _ this⟩
  | @answered i finished at_ =>
    exact agrees.moves_put at_ rfl nofun nofun rfl trivial

/-- A task agrees with what has happened since its work began. -/
theorem Run.agrees {name : String} (run : Run name h x) : x.Agrees h := by
  induction run with
  | spawn => exact .spawned name
  | step _ step ih => exact step.agrees ih

/-- Whatever has happened has happened in a step, from a scene that agrees with what was before. -/
theorem Run.at {name : String} (run : Run name h x) {before after : List (Event α)}
    (split : h = before ++ e :: after) : ∃ y z, y.Agrees before ∧ Step y e z := by
  induction run generalizing after with
  | spawn => cases before <;> cases split
  | @step h x y e' run step ih =>
    obtain ⟨earlier, rfl, was⟩ | ⟨rfl, rfl, rfl⟩ := concat_split split
    · exact ih was
    · exact ⟨x, y, run.agrees, step⟩

/-! ## Answers -/

/-- The answers to owners are those that they ought to be. -/
structure Delivered (h : List (Event α)) : Prop where
  /-- the work ends once -/
  works : ∀ before work after, h = before ++ .ends work :: after → ¬ Ended before
  /-- the outcome is taken once, when the work has ended -/
  takes : ∀ before i result after, h = before ++ .takes i result :: after →
    ¬ Taken before ∧ ∃ work, .ends work ∈ before ∧ result = outcome work
  /-- the wait that takes it gives it -/
  gives : ∀ before i result after, h = before ++ .waited i result :: after →
    ∀ result', .takes i result' ∈ before → result = result'
  /-- all others are given up or say that it was taken, when it was -/
  others : ∀ before i result after, h = before ++ .waited i result :: after →
    (∀ result, .takes i result ∉ before) →
      (∃ ms, result = .error (.timeout ms)) ∨ result = .error .finished ∧ Taken before
  /-- a wait is given up at its limit, and only if the work had not ended when it began -/
  gaveUp : ∀ before i limit during ms after,
    h = before ++ .waits i limit :: (during ++ .waited i (.error (.timeout ms)) :: after) →
      limit = some ms ∧ ¬ Ended before
  /-- waits that begin when the outcome was taken say so -/
  later : ∀ before i limit during result after,
    h = before ++ .waits i limit :: (during ++ .waited i result :: after) → Taken before →
      result = .error .finished
  /-- the owners are told that the work has ended only when it has -/
  ended : ∀ before i after, h = before ++ .answered i true :: after → Ended before
  /-- they are told that it has not only if it had not when they asked, or if the outcome was taken
  meanwhile -/
  goesOn : ∀ before i during after,
    h = before ++ .asks i :: (during ++ .answered i false :: after) →
      ¬ Ended before ∨ Taken during
  /-- what they were told stays true, unless the outcome is taken in the middle of a question -/
  stays : ∀ before i between j during after,
    h = before ++ .answered i true ::
      (between ++ .asks j :: (during ++ .answered j false :: after)) →
      Taken during

variable {name : String}

/-- What a wait gives when it returns. -/
theorem Run.returns (run : Run name h x) {before after : List (Event α)}
    (split : h = before ++ .waited i result :: after) :
    (Call.returning result).Agrees i before ∧
      ∀ j r r', .takes i r ∈ before → .takes j r' ∈ before → i = j ∧ r = r' := by
  obtain ⟨y, z, agrees, step⟩ := run.at split
  cases step with
  | waited at_ => exact ⟨at_ ▸ agrees.calls i, fun j r r' => agrees.once i j r r'⟩

/-- What an owner who asked is told. -/
theorem Run.tells (run : Run name h x) {before after : List (Event α)} {finished : Bool}
    (split : h = before ++ .answered i finished :: after) :
    (Call.telling finished : Call α).Agrees i before := by
  obtain ⟨y, z, agrees, step⟩ := run.at split
  cases step with
  | answered at_ => exact at_ ▸ agrees.calls i

/-- What is taken is the outcome of work that has ended, and was not taken before. -/
theorem Run.took (run : Run name h x) {before after : List (Event α)}
    (split : h = before ++ .takes i result :: after) :
    ¬ Taken before ∧ ∃ work, .ends work ∈ before ∧ result = outcome work := by
  obtain ⟨y, z, agrees, step⟩ := run.at split
  cases step with
  | takes at_ takes =>
    obtain ⟨result', channel, same⟩ := Option.map_eq_some_iff.mp takes
    obtain ⟨rfl, -⟩ := Prod.mk.inj same
    exact ((agrees.channel _).mp channel).symm

/-- Before a wait begins, nothing has happened to it. -/
theorem Run.begins (run : Run name h x) {before after : List (Event α)}
    (split : h = before ++ .waits i limit :: after) : ∀ e ∈ before, e.call? ≠ some i := by
  obtain ⟨y, z, agrees, step⟩ := run.at split
  cases step with
  | waits _ unborn => simpa [unborn, Call.Agrees] using agrees.calls i

/-- An owner is told that the work has not ended only if it had not when the owner asked, or if the
outcome was taken meanwhile. -/
theorem Run.unended (run : Run name h x) {before during after : List (Event α)}
    (split : h = before ++ .asks i :: (during ++ .answered i false :: after)) :
    ¬ Ended before ∨ Taken during := by
  have answered : h = (before ++ .asks i :: during) ++ .answered i false :: after := by
    simpa using split
  have stage : ∀ earlier later, before ++ .asks i :: during = earlier ++ .asks i :: later →
      ¬ Ended earlier ∨ Taken later := run.tells answered
  exact stage before during rfl

/-- A wait that was given up began before the work had ended. -/
theorem Run.gaveUp (run : Run name h x) {before during after : List (Event α)} {ms : Nat}
    (split : h = before ++ .waits i limit ::
      (during ++ .waited i (.error (.timeout ms)) :: after)) :
    limit = some ms ∧ ¬ Ended before := by
  have returned : h = (before ++ .waits i limit :: during) ++
      .waited i (.error (.timeout ms)) :: after := by simpa using split
  obtain ⟨took | ⟨-, ⟨same, -⟩ | ⟨ms', same, began⟩⟩, -⟩ := run.returns returned
  · -- what is taken is no timeout
    obtain ⟨first, last, taken⟩ := List.append_of_mem took
    rw [taken, List.append_assoc] at returned
    obtain ⟨-, work, -, delivers⟩ := run.took returned
    unfold outcome at delivers
    generalize catchPanic work = caught at delivers
    cases caught <;> cases delivers
  · cases same
  · cases same
    exact began before limit during rfl

/-- A wait that began when the outcome was taken says so. -/
theorem Run.later (run : Run name h x) {before during after : List (Event α)}
    (split : h = before ++ .waits i limit :: (during ++ .waited i result :: after))
    (taken : Taken before) : result = .error .finished := by
  have returned : h = (before ++ .waits i limit :: during) ++ .waited i result :: after := by
    simpa using split
  obtain ⟨took | ⟨-, ⟨rfl, -⟩ | ⟨ms, rfl, -⟩⟩, once⟩ := run.returns returned
  · -- this wait took it, but before it began
    obtain ⟨j, r, early⟩ := taken
    obtain ⟨rfl, -⟩ := once j result r took (List.mem_append_left _ early)
    exact (run.begins split _ early rfl).elim
  · rfl
  · have ended : Ended before := by
      obtain ⟨j, r, early⟩ := taken
      obtain ⟨first, last, was⟩ := List.append_of_mem early
      rw [was, List.append_assoc] at split
      obtain ⟨-, work, ended, -⟩ := run.took split
      exact ⟨work, by simp [was, ended]⟩
    exact ((run.gaveUp split).2 ended).elim

theorem Run.delivered (run : Run name h x) : Delivered h where
  works before work after split := by
    obtain ⟨y, z, agrees, step⟩ := run.at split
    cases step with
    | ends _ working => exact agrees.working.mp working
  takes before i result after split := run.took split
  gives before i result after split result' took' := by
    obtain ⟨took | ⟨never, -⟩, once⟩ := run.returns split
    · exact (once i result result' took took').2
    · exact (never _ took').elim
  others before i result after split never := by
    obtain ⟨took | ⟨-, finished | ⟨ms, same, -⟩⟩, -⟩ := run.returns split
    · exact (never _ took).elim
    · exact .inr finished
    · exact .inl ⟨ms, same⟩
  gaveUp before i limit during ms after split := run.gaveUp split
  later before i limit during result after split := run.later split
  ended before i after split := run.tells split
  goesOn before i during after split := run.unended split
  stays before i between j during after split := by
    have ended : Ended before := run.tells split
    have again : h = (before ++ .answered i true :: between) ++
        .asks j :: (during ++ .answered j false :: after) := by simpa using split
    exact (run.unended again).resolve_left fun unended => unended (ended.append _)

/-! ## Nothing is stuck -/

/-- Whether a call is in progress. -/
def Call.isPending : Call α → Bool
  | .unborn | .ended => false
  | _ => true

/-- Whether a call needs the lock to go on. -/
def Call.needsLock : Call α → Bool
  | .waiting _ | .asking => true
  | _ => false

/-- Nothing is stuck: the work may end as long as it goes on, an owner may call at any time, and a
call in progress may go on, unless it needs the lock and another one has it, or is a wait without a
limit and the work goes on. -/
structure Scene.Proceeds (x : Scene α) : Prop where
  ends : x.working = true → ∀ work, ∃ y, Step x (.ends work) y
  calls : ∀ i, x.calls i = .unborn → (∀ limit, ∃ y, Step x (.waits i limit) y) ∧
    ∃ y, Step x (.asks i) y
  goesOn : ∀ i, (x.calls i).isPending = true → (∃ e y, e.call? = some i ∧ Step x e y) ∨
    ((x.calls i).needsLock = true ∧ ∃ j, x.lock = some j ∧ (x.calls j).needsLock = false ∧
      (x.calls j).isPending = true) ∨
    x.calls i = .receiving none ∧ x.working = true

/-- Whoever has the lock is in the middle of a wait. -/
theorem Scene.Agrees.holds (agrees : x.Agrees h) (held : x.lock = some j) :
    (x.calls j).needsLock = false ∧ (x.calls j).isPending = true := by
  have locks := (agrees.holder j).mp held
  cases at_ : x.calls j <;> simp_all [Call.locks, Call.needsLock, Call.isPending]

/-- A call that needs the lock goes on when nobody has it. -/
theorem Scene.goesOn_of_free (free : x.lock = none) (needs : (x.calls i).needsLock = true) :
    ∃ e y, e.call? = some i ∧ Step x e y := by
  cases at_ : x.calls i with
  | waiting limit =>
    cases noted : x.task.taken with
    | true => exact ⟨_, _, rfl, .findsTaken at_ free noted⟩
    | false => exact ⟨_, _, rfl, .locks at_ free noted⟩
  | asking => exact ⟨_, _, rfl, .looks at_ free⟩
  | _ => simp [at_, Call.needsLock] at needs

/-- A wait that has the lock goes on when there is an outcome, or when it has a limit. -/
theorem Scene.goesOn_of_receiving (at_ : x.calls i = .receiving limit)
    (may : x.task.channel ≠ none ∨ limit ≠ none) : ∃ e y, e.call? = some i ∧ Step x e y := by
  cases channel : x.task.channel with
  | some result =>
    exact ⟨_, _, rfl, .takes at_ (by rw [receive, channel]; rfl)⟩
  | none =>
    cases limit with
    | some ms => exact ⟨_, _, rfl, .givesUp at_ (by rw [receive, channel]; rfl)⟩
    | none => simp [channel] at may

theorem Run.proceeds (run : Run name h x) : x.Proceeds where
  ends working work := ⟨_, .ends work working⟩
  calls i unborn := ⟨fun limit => ⟨_, .waits limit unborn⟩, _, .asks unborn⟩
  goesOn i pending := by
    have agrees := run.agrees
    have locking (needs : (x.calls i).needsLock = true) :
        (∃ e y, e.call? = some i ∧ Step x e y) ∨ ∃ j, x.lock = some j ∧
          (x.calls j).needsLock = false ∧ (x.calls j).isPending = true := by
      cases lock : x.lock with
      | none => exact .inl (Scene.goesOn_of_free lock needs)
      | some j => exact .inr ⟨j, rfl, agrees.holds lock⟩
    cases at_ : x.calls i with
    | unborn | ended => simp [at_, Call.isPending] at pending
    | waiting limit => exact (locking (by rw [at_]; rfl)).imp_right fun held => .inl ⟨rfl, held⟩
    | asking => exact (locking (by rw [at_]; rfl)).imp_right fun held => .inl ⟨rfl, held⟩
    | receiving limit =>
      cases working : x.working with
      | false =>
        have stage := agrees.calls i
        rw [at_] at stage
        have full : x.task.channel ≠ none := fun empty => by
          have unended := (agrees.channel_none empty).resolve_right stage.2
          exact nomatch working.symm.trans (agrees.working.mpr unended)
        exact .inl (Scene.goesOn_of_receiving at_ (.inl full))
      | true =>
        cases limit with
        | some ms => exact .inl (Scene.goesOn_of_receiving at_ (.inr nofun))
        | none => exact .inr (.inr ⟨rfl, rfl⟩)
    | received result => exact .inl ⟨_, _, rfl, .settles at_⟩
    | returning result => exact .inl ⟨_, _, rfl, .waited at_⟩
    | looked => exact .inl ⟨_, _, rfl, .reads at_⟩
    | telling finished => exact .inl ⟨_, _, rfl, .answered at_⟩

/-! ## Calls that nobody gets in the way of -/

@[simp]
theorem Scene.put_put (x : Scene α) (i : Nat) (c d : Call α) : (x.put i c).put i d = x.put i d := by
  simp [Scene.put]

/-- When the owner's is the only call that goes on, a wait comes to what `wait` says. -/
theorem Run.wait_alone (run : Run name h x) (free : x.lock = none) (unborn : x.calls i = .unborn)
    (waited : x.task.wait limit = some (result, t)) :
    ∃ during, (∀ e ∈ during, e.call? = some i) ∧
      Run name (h ++ .waits i limit :: (during ++ [.waited i result]))
        { x.put i .ended with task := t } := by
  obtain ⟨task, working, lock, calls⟩ := x
  obtain rfl : lock = none := free
  have begun := run.step (.waits limit unborn)
  unfold wait at waited
  cases noted : task.taken with
  | true =>
    rw [if_pos noted] at waited
    cases waited
    have found := begun.step (.findsTaken (Scene.put_self ..) rfl noted)
    refine ⟨[.goesOn i], by simp [Event.call?], ?_⟩
    simpa [Scene.put] using found.step (.waited (Scene.put_self ..))
  | false =>
    rw [if_neg (by simp [noted])] at waited
    have locked := begun.step (.locks (Scene.put_self ..) rfl noted)
    cases received : task.receive with
    | some taken =>
      rw [received] at waited
      cases waited
      have took := locked.step (.takes (Scene.put_self ..) received)
      have settled := took.step (.settles (Scene.put_self ..))
      refine ⟨[.goesOn i, .takes i taken.1, .goesOn i], by simp [Event.call?], ?_⟩
      simpa [Scene.put] using settled.step (.waited (Scene.put_self ..))
    | none =>
      rw [received] at waited
      cases limit with
      | none => cases waited
      | some ms =>
        cases waited
        have gaveUp := locked.step (.givesUp (Scene.put_self ..) received)
        refine ⟨[.goesOn i, .goesOn i], by simp [Event.call?], ?_⟩
        simpa [Scene.put] using gaveUp.step (.waited (Scene.put_self ..))

/-- So does a question come to what `isFinished` says. -/
theorem Run.isFinished_alone (run : Run name h x) (free : x.lock = none)
    (unborn : x.calls i = .unborn) :
    ∃ during, (∀ e ∈ during, e.call? = some i) ∧
      Run name (h ++ .asks i :: (during ++ [.answered i x.task.isFinished])) (x.put i .ended) := by
  have looked := (run.step (.asks unborn)).step (.looks (x.put_self i _) free)
  rw [Scene.put_put, Scene.put_task] at looked
  unfold isFinished
  cases noted : x.task.taken with
  | true =>
    rw [if_pos noted] at looked
    refine ⟨[.goesOn i], by simp [Event.call?], ?_⟩
    simpa using looked.step (.answered (Scene.put_self ..))
  | false =>
    rw [if_neg (by simp [noted])] at looked
    have read := looked.step (.reads (x.put_self i _))
    refine ⟨[.goesOn i, .goesOn i], by simp [Event.call?], ?_⟩
    simpa using read.step (.answered (Scene.put_self ..))

/-! ## Main results -/

/-- The outcome of a task is delivered once, in whatever order the work ends and the steps of the
owners' calls are taken, any number of calls being in progress at a time. One wait takes the
outcome, be it a value or a panic, and gives it. Every other wait is given up at its limit, and then
it began before the work had ended, or says that the outcome was taken, as all do that begin later.
Until it is taken, the outcome of work that has ended waits for it: a wait that is given up loses
nothing. An owner who asks is told that the work has ended only when it has. That it has not is told
only if it had not when the owner asked, or if another owner takes the outcome in the middle of the
question, and only so can an owner be told first that it has and then that it has not. No call is
stuck, but a wait without a limit goes on as long as the work does. -/
theorem Run.delivered_once (run : Run name h x) :
    Delivered h ∧ (∀ work, .ends work ∈ h → ¬ Taken h → x.task.channel = some (outcome work)) ∧
      x.Proceeds :=
  ⟨run.delivered, fun work ended untaken =>
    (run.agrees.channel _).mpr ⟨⟨work, ended, rfl⟩, untaken⟩, run.proceeds⟩

/-- Two waits and a question overlap: the first wait is given up, the second one takes the outcome
while the question is asked, and says so after a third one is told that it was taken. -/
theorem Run.delivered_once_overlapping :
    Delivered [.waits 0 (some 20), .goesOn 0, .asks 1, .goesOn 0, .goesOn 1,
      .waited 0 (.error (.timeout 20)), .waits 2 none, .goesOn 2, .waits 3 (some 5),
      .ends (.ok 7), .takes 2 (.ok 7), .goesOn 1, .answered 1 false, .goesOn 2, .goesOn 3,
      .waited 3 (.error .finished), .waited 2 (.ok 7)] ∧
      ∃ x : Scene Nat, x.task.taken = true ∧ x.Proceeds := by
  have run : Run "sum" [.waits 0 (some 20), .goesOn 0, .asks 1, .goesOn 0, .goesOn 1,
      .waited 0 (.error (.timeout 20)), .waits 2 none, .goesOn 2, .waits 3 (some 5),
      .ends (.ok 7), .takes 2 (.ok 7), .goesOn 1, .answered 1 false, .goesOn 2, .goesOn 3,
      .waited 3 (.error .finished), .waited 2 (.ok 7)] (_ : Scene Nat) :=
    Run.spawn
      |>.step (.waits (i := 0) (some 20) rfl) |>.step (.locks (i := 0) rfl rfl rfl)
      |>.step (.asks (i := 1) rfl) |>.step (.givesUp (i := 0) rfl rfl)
      |>.step (.looks (i := 1) rfl rfl) |>.step (.waited (i := 0) rfl)
      |>.step (.waits (i := 2) none rfl) |>.step (.locks (i := 2) rfl rfl rfl)
      |>.step (.waits (i := 3) (some 5) rfl) |>.step (.ends (.ok 7) rfl)
      |>.step (.takes (i := 2) rfl rfl) |>.step (.reads (i := 1) rfl)
      |>.step (.answered (i := 1) rfl) |>.step (.settles (i := 2) rfl)
      |>.step (.findsTaken (i := 3) rfl rfl rfl) |>.step (.waited (i := 3) rfl)
      |>.step (.waited (i := 2) rfl)
  obtain ⟨delivered, -, proceeds⟩ := Run.delivered_once run
  exact ⟨delivered, _, rfl, proceeds⟩

/-- It may be told of work that it has ended, and to a later question that it has not: an owner has
looked whether the outcome was taken when another one takes it, and looks at the channel then. -/
theorem isFinished_unsteady : ¬ ∀ (h : List (Event Nat)) (x : Scene Nat), Run "sum" h x →
    ∀ before i between j during finished after, h = before ++ .answered i true ::
      (between ++ .asks j :: (during ++ .answered j finished :: after)) → finished = true := by
  intro steady
  have run : Run "sum" [.ends (.ok 7), .asks 0, .goesOn 0, .goesOn 0, .answered 0 true, .asks 1,
      .goesOn 1, .waits 2 none, .goesOn 2, .takes 2 (.ok 7), .goesOn 1, .answered 1 false]
      (_ : Scene Nat) :=
    Run.spawn
      |>.step (.ends (.ok 7) rfl) |>.step (.asks (i := 0) rfl) |>.step (.looks (i := 0) rfl rfl)
      |>.step (.reads (i := 0) rfl) |>.step (.answered (i := 0) rfl) |>.step (.asks (i := 1) rfl)
      |>.step (.looks (i := 1) rfl rfl) |>.step (.waits (i := 2) none rfl)
      |>.step (.locks (i := 2) rfl rfl rfl) |>.step (.takes (i := 2) rfl rfl)
      |>.step (.reads (i := 1) rfl) |>.step (.answered (i := 1) rfl)
  have told := steady _ _ run [.ends (.ok 7), .asks 0, .goesOn 0, .goesOn 0] 0 [] 1
    [.goesOn 1, .waits 2 none, .goesOn 2, .takes 2 (.ok 7), .goesOn 1] false [] rfl
  cases told

end CellScript.BackgroundTask

namespace CellScript

/-! ## Work that takes time -/

variable {α : Type}

namespace Eventual

theorem isWithin_later (e : Eventual α) (a b : Nat) :
    (e.later a).isWithin b = e.isWithin (a + b) := by
  obtain ⟨value, _ | t⟩ := e
  · rfl
  · exact decide_eq_decide.mpr Nat.sub_le_iff_le_add'

theorem isWithin_mono (e : Eventual α) {a b : Nat} (le : a ≤ b) (within : e.isWithin a) :
    e.isWithin b := by
  obtain ⟨value, _ | t⟩ := e
  · exact within
  · exact decide_eq_true (Nat.le_trans (of_decide_eq_true within) le)

theorem later_later (e : Eventual α) (a b : Nat) : (e.later a).later b = e.later (a + b) := by
  obtain ⟨value, _ | t⟩ := e
  · rfl
  · exact congrArg (Eventual.mk value ∘ some) (Nat.sub_sub t a b)

theorem later_zero (e : Eventual α) : e.later 0 = e := by
  obtain ⟨value, _ | t⟩ := e <;> rfl

end Eventual

namespace Undertaking

variable (name : String) (work : Eventual α) (milliseconds : Nat)

/-- After some time, work is what is left of it, begun now. -/
theorem pass_start : (start name work).pass milliseconds =
    if work.isWithin milliseconds then ⟨(BackgroundTask.spawn name).complete (.ok work.value), none⟩
    else ⟨.spawn name, some (work.later milliseconds)⟩ := by
  have now : work.isWithin 0 → work.isWithin milliseconds := work.isWithin_mono (Nat.zero_le _)
  unfold start pass
  dsimp only
  cases here : work.isWithin 0 with
  | true =>
    rw [if_pos (now here)]
    rfl
  | false => simp [Eventual.later_zero]

/-- A wait that is long enough delivers what the work comes to. From then on the outcome is
taken. -/
theorem wait_of_within {limit : Nat} (within : work.isWithin limit) :
    ∃ ended, (start name work).wait (some limit) = some (.ok work.value, ended) ∧
      ∀ limit, ended.wait limit = some (.error .finished, ended) := by
  refine ⟨⟨⟨name, none, true⟩, none⟩, ?_, fun _ => rfl⟩
  unfold wait
  rw [Option.getD_some, pass_start, if_pos within]
  rfl

/-- One that is too short gives up, and less work is left. -/
theorem wait_of_not_within {limit : Nat} (late : ¬ work.isWithin limit) :
    (start name work).wait (some limit) =
      some (.error (.timeout limit), start name (work.later limit)) := by
  have left : (work.later limit).isWithin 0 = false := by
    rw [Eventual.isWithin_later]
    exact (Bool.not_eq_true _).mp late
  have begun : start name (work.later limit) = ⟨.spawn name, some (work.later limit)⟩ := by
    unfold start pass
    simp [left, Eventual.later_zero]
  unfold wait
  rw [Option.getD_some, pass_start, if_neg late, begun]
  rfl

/-- Waits that are too short use up the time that the work takes, one after the other. -/
theorem foldlM_wait_of_not_within (limits : List Nat) (late : ¬ work.isWithin limits.sum) :
    limits.foldlM (fun u limit => (u.wait (some limit)).map (·.2)) (start name work) =
      some (start name (work.later limits.sum)) := by
  induction limits generalizing work with
  | nil => rw [List.sum_nil, Eventual.later_zero]; rfl
  | cons limit rest ih =>
    rw [List.sum_cons] at late ⊢
    rw [← Eventual.isWithin_later] at late
    have short : ¬ work.isWithin limit := fun within => late <| by
      rw [Eventual.isWithin_later]
      exact work.isWithin_mono (Nat.le_add_right ..) within
    rw [List.foldlM_cons, wait_of_not_within name work short, ← Eventual.later_later]
    exact ih (work.later limit) late

/-- A wait without a limit is one that is just long enough. It goes on for ever when the work never
ends. -/
theorem wait_none : (start name work).wait none =
    work.after.bind fun t => (start name work).wait (some t) := by
  obtain ⟨value, _ | t⟩ := work
  · rfl
  · have within : Eventual.isWithin ⟨value, some t⟩ t = true := decide_eq_true (Nat.le_refl t)
    have remaining : (start name (⟨value, some t⟩ : Eventual α)).remaining = t := by
      cases t <;> rfl
    rw [Option.bind_some]
    unfold wait
    rw [Option.getD_none, Option.getD_some, remaining, pass_start, if_pos within]
    rfl

end Undertaking
end CellScript
