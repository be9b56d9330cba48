import CellScript.Panic

/-!
# Background tasks

A task runs beside its owners. Its outcome goes through a channel of one place and is delivered to
one waiter. An owner who waits holds a lock while it looks whether the outcome was taken, takes the
outcome out of the channel and notes that it did so. An owner who asks whether the work has ended
holds the lock only while it looks whether the outcome was taken, and looks at the channel then.

## Main definitions

* `WorkerError` — why there is no result.
* `BackgroundTask` — a task as its owners see it.
* `BackgroundTask.complete` — the end of the work.
* `BackgroundTask.receive`, `BackgroundTask.settle` — taking the outcome, and noting it.
* `BackgroundTask.wait`, `BackgroundTask.isFinished` — what a wait and a question come to when no
  other owner does anything meanwhile.
* `Eventual` — what comes about after some time.
* `Undertaking` — a task with the time that its work still takes.
-/

namespace CellScript

/-- Why a wait gave no result. -/
inductive WorkerError where
  | timeout (milliseconds : Nat)
  | panicked (text : String)
  | finished
  deriving DecidableEq, Inhabited, Repr

namespace WorkerError

def message : WorkerError → String
  | .timeout milliseconds => s!"worker timed out after {milliseconds} ms"
  | .panicked text => s!"worker panicked: {text}"
  | .finished => "worker result was already taken"

/-- The fault a script sees. -/
def toFault : WorkerError → Fault
  | .timeout milliseconds => .timeout milliseconds
  | .panicked text => .fatal text
  | .finished => .runtime .resultTaken

end WorkerError

/-- A task as its owners see it. -/
structure BackgroundTask (α : Type) where
  name : String
  /-- the outcome that waits to be taken -/
  channel : Option (Except WorkerError α)
  /-- whether the outcome was taken -/
  taken : Bool
  deriving Inhabited

namespace BackgroundTask

/-- A task whose work goes on. -/
def spawn {α : Type} (name : String) : BackgroundTask α :=
  ⟨name, none, false⟩

/-- The work of a task has ended. -/
def complete {α : Type} (t : BackgroundTask α) (work : HostWork α) : BackgroundTask α :=
  let outcome := match catchPanic work with
    | .ok value => .ok value
    | .error e => .error (.panicked e.payload)
  { t with channel := some outcome }

/-- Take the outcome out of the channel, if there is one. -/
def receive {α : Type} (t : BackgroundTask α) :
    Option (Except WorkerError α × BackgroundTask α) :=
  t.channel.map fun outcome => (outcome, { t with channel := none })

/-- Note that the outcome was taken. -/
def settle {α : Type} (t : BackgroundTask α) : BackgroundTask α :=
  { t with taken := true }

/-- Wait for the outcome, with a limit in milliseconds or without. Nothing when the wait goes on
until the work ends. -/
def wait {α : Type} (t : BackgroundTask α) (limit : Option Nat) :
    Option (Except WorkerError α × BackgroundTask α) :=
  if t.taken then some (.error .finished, t)
  else
    match t.receive, limit with
    | some (outcome, t), _ => some (outcome, t.settle)
    | none, some milliseconds => some (.error (.timeout milliseconds), t)
    | none, none => none

/-- Whether the work has ended, as far as the owner can tell. -/
def isFinished {α : Type} (t : BackgroundTask α) : Bool :=
  t.taken || t.channel.isSome

end BackgroundTask

/-- What comes about after some milliseconds, or never. -/
structure Eventual (α : Type) where
  value : α
  after : Option Nat

namespace Eventual

/-- Whether it comes about within some milliseconds. -/
def isWithin {α : Type} (e : Eventual α) (milliseconds : Nat) : Bool :=
  e.after.any (· ≤ milliseconds)

/-- What is left of it after some milliseconds. -/
def later {α : Type} (e : Eventual α) (milliseconds : Nat) : Eventual α :=
  { e with after := e.after.map (· - milliseconds) }

/-- What comes about at a limit when nothing has come about before. -/
def upTo {α : Type} (e : Eventual α) (limit : Option Nat) (late : Nat → α) : Eventual α :=
  match limit with
  | none => e
  | some milliseconds =>
    if e.isWithin milliseconds then e else ⟨late milliseconds, some milliseconds⟩

end Eventual

/-- A task and the work that it does. The time of the work passes while it is waited for. -/
structure Undertaking (α : Type) where
  task : BackgroundTask α
  /-- what the work comes to, as long as it goes on -/
  work : Option (Eventual α)
  deriving Inhabited

namespace Undertaking

/-- Milliseconds pass. -/
def pass {α : Type} (u : Undertaking α) (milliseconds : Nat) : Undertaking α :=
  match u.work with
  | none => u
  | some work =>
    if work.isWithin milliseconds then ⟨u.task.complete (.ok work.value), none⟩
    else { u with work := some (work.later milliseconds) }

/-- Begin to work. What takes no time is done at once. -/
def start {α : Type} (name : String) (work : Eventual α) : Undertaking α :=
  (⟨.spawn name, some work⟩ : Undertaking α).pass 0

/-- The milliseconds up to the end of the work, if there is an end to come. -/
def remaining {α : Type} (u : Undertaking α) : Nat :=
  (u.work.bind (·.after)).getD 0

/-- Wait for the outcome, with a limit in milliseconds or without. Nothing when the wait never
ends. -/
def wait {α : Type} (u : Undertaking α) (limit : Option Nat) :
    Option (Except WorkerError α × Undertaking α) :=
  let u := u.pass (limit.getD u.remaining)
  (u.task.wait limit).map fun (result, task) => (result, { u with task })

end Undertaking

end CellScript
