import CellScript.Proofs.Run.Monitor
import Mathlib.Data.List.Induction

/-!
# Chronicles of calls

A chronicle is what happens with calls in a run, in the order of time: calls that are entered, left
or refused, what watchers are told besides, and flags that are set. Calls end in the reverse order
of their beginnings, so a chronicle is read with the calls that are in progress at hand.

## Main definitions

* `Call`, `Call.report`, `Call.trace` — a call as it is made, and the trace of it.
* `Event` — what happens with calls.
* `openCalls` — the calls that are in progress after a chronicle.
* `Event.Fits`, `Fits` — calls are entered where there is room for them, and refused where there is
  none.
* `Event.trace?`, `Event.note?`, `Event.counted?` — the trace of a call, what watchers are told, and
  which calls are counted.

## Main statements

* `openCalls_ends`, `entered_perm` — calls that are entered come to their ends.
* `Fits.append`, `Fits.enter`, `Fits.leave` — chronicles in sequence, and the chronicle of a call.
* `Fits.bound` — never are there more calls in progress than there is room for.
-/

namespace CellScript

/-- A call, with what is found when it is made. -/
structure Call where
  script : ScriptRef
  name : String
  /-- descriptions of its arguments -/
  args : String
  /-- where it is made -/
  source : Option String
  line : UInt32
  /-- what is traced and counted there -/
  flags : DebugFlags
  /-- how many calls may be in progress -/
  limit : Nat
  deriving DecidableEq

namespace Call

/-- A call that is made in a machine. -/
def ofMachine (m : Machine) (name : String) (args : List CellRef) : Call where
  script := m.context.script
  name
  args := ", ".intercalate (args.map m.heap.describe)
  source := m.context.currentSource
  line := m.context.line
  flags := m.context.flags
  limit := m.context.maxDepth

/-- What is said of a call that has ended, with the description of a result or without one. -/
def report (c : Call) : Option String → String
  | some result => s!"{c.name}({c.args}) = {result}"
  | none => s!"{c.name}({c.args}) - FAILED!"

/-- The trace of a call that has ended where some source is current. -/
def trace (c : Call) (result source : Option String) : Warning where
  message := c.report result
  line := c.line
  source
  trace := true

end Call

/-- What happens with calls. -/
inductive Event where
  | enter (c : Call)
  /-- a call has ended, with a result or without one, and some source is current -/
  | leave (c : Call) (result : Option String) (source : Option String)
  | refuse (c : Call)
  /-- the watchers of a script are told of something else -/
  | note (s : ScriptRef) (flags : DebugFlags) (w : Warning)
  /-- other flags are set in a script -/
  | set (s : ScriptRef) (flags : DebugFlags)

namespace Event

/-- The flags that are found when something happens, or that are set. -/
def flags : Event → DebugFlags
  | enter c | leave c _ _ | refuse c => c.flags
  | note _ flags _ | set _ flags => flags

/-- The script in which something happens. -/
def script : Event → ScriptRef
  | enter c | leave c _ _ | refuse c => c.script
  | note s _ _ | set s _ => s

/-- The call that is tried: it is entered, or it is refused. -/
def tried? : Event → Option Call
  | enter c | refuse c => some c
  | _ => none

def entered? : Event → Option Call
  | enter c => some c
  | _ => none

/-- The call that has ended. -/
def ended? : Event → Option Call
  | leave c _ _ => some c
  | _ => none

/-- The trace of a call that has ended. -/
def trace? : Event → Option Warning
  | leave c result source => some (c.trace result source)
  | _ => none

/-- The call that is counted. -/
def counted? (e : Event) : Option Call :=
  e.ended?.filter (·.flags.profile)

/-- What watchers are told, and those of which script. A call is told of when it has ended. -/
def note? : Event → Option (ScriptRef × Warning)
  | leave c result source =>
    if c.flags.traceCalls then some (c.script, c.trace result source) else none
  | note s _ w => some (s, w)
  | _ => none

/-- The calls in progress after something has happened, the innermost first. A call ends when it is
the innermost. -/
def follow (inside : List Call) : Event → Option (List Call)
  | enter c => some (c :: inside)
  | leave c _ _ =>
    match inside with
    | inner :: outer => if inner = c then some outer else none
    | [] => none
  | refuse _ | note _ _ _ | set _ _ => some inside

/-- With so many calls in progress, there is room for a call that is entered, and none for a call
that is refused. -/
def Fits (calls : Nat) : Event → Prop
  | enter c => calls < c.limit
  | refuse c => c.limit ≤ calls
  | leave _ _ _ | note _ _ _ | set _ _ => True

theorem follow_append {inside inner : List Call} {e : Event} (h : e.follow inside = some inner)
    (outer : List Call) :
    e.follow (inside ++ outer) = some (inner ++ outer) := by
  cases e with
  | enter c =>
    cases h
    rfl
  | leave c result source =>
    cases inside with
    | nil => cases h
    | cons first rest =>
      simp only [follow, List.cons_append] at h ⊢
      split at h
      · cases h
        rw [if_pos ‹_›]
      · cases h
  | refuse c | note s flags w | set s flags =>
    cases h
    rfl

end Event

/-- The calls in progress after a chronicle, if each call that ends in it is the innermost by
then. -/
def openCalls (inside : List Call) (h : List Event) : Option (List Call) :=
  h.foldlM Event.follow inside

/-- All along a chronicle, calls are entered where there is room for them and refused where there is
none, with so many calls in progress at its beginning. -/
def Fits (calls : Nat) (h : List Event) : Prop :=
  ∀ p e rest, h = p ++ e :: rest → ∃ inside, openCalls [] p = some inside ∧
    e.Fits (calls + inside.length)

variable {inside inner outer : List Call} {h h' : List Event} {calls : Nat}

@[simp] theorem openCalls_nil (inside : List Call) : openCalls inside [] = some inside := rfl

@[simp] theorem openCalls_cons (inside : List Call) (e : Event) (h : List Event) :
    openCalls inside (e :: h) = (e.follow inside).bind (openCalls · h) := rfl

theorem openCalls_append (inside : List Call) (h h' : List Event) :
    openCalls inside (h ++ h') = (openCalls inside h).bind (openCalls · h') := by
  simp only [openCalls, List.foldlM_append]
  rfl

/-- What is in progress around a chronicle makes no difference to it. -/
theorem openCalls_around (opened : openCalls inside h = some inner) (outer : List Call) :
    openCalls (inside ++ outer) h = some (inner ++ outer) := by
  induction h generalizing inside with
  | nil =>
    cases opened
    rfl
  | cons e h ih =>
    rw [openCalls_cons] at opened ⊢
    obtain ⟨next, followed, rest⟩ := Option.bind_eq_some_iff.mp opened
    rw [Event.follow_append followed]
    exact ih rest

/-- A chronicle in which every call has ended, and one after it. -/
theorem openCalls_after (closed : openCalls [] h = some []) (h' : List Event) :
    openCalls [] (h ++ h') = openCalls [] h' := by
  rw [openCalls_append, closed]
  rfl

/-- Only notes. -/
theorem openCalls_notes {s : ScriptRef} {flags : DebugFlags} (notes : List Warning) :
    openCalls inside (notes.map (.note s flags)) = some inside := by
  induction notes with
  | nil => rfl
  | cons w notes ih => simpa [Event.follow] using ih

theorem openCalls_enter (c : Call) (opened : openCalls [] h = some inner) :
    openCalls [] (.enter c :: h) = some (inner ++ [c]) :=
  openCalls_around opened [c]

/-- A call in progress ends when all those that are made in it have ended. -/
theorem openCalls_inside {c : Call} (stack : List Call)
    (closed : openCalls (stack ++ c :: outer) h = some []) :
    ∃ inside result source after, h = inside ++ .leave c result source :: after ∧
      openCalls stack inside = some [] := by
  induction h generalizing stack with
  | nil => simp at closed
  | cons e h ih =>
    rw [openCalls_cons] at closed
    obtain ⟨next, followed, closed⟩ := Option.bind_eq_some_iff.mp closed
    cases e with
    | enter c' =>
      cases followed
      obtain ⟨inside, result, source, after, rfl, ends⟩ := ih (c' :: stack) closed
      exact ⟨.enter c' :: inside, result, source, after, rfl, ends⟩
    | leave c' result source =>
      -- the innermost call is this one, or one that was made in it
      cases stack with
      | nil =>
        simp only [Event.follow, List.nil_append] at followed
        split at followed
        · exact ⟨[], result, source, h, by simp [*], rfl⟩
        · cases followed
      | cons innermost stack =>
        simp only [Event.follow, List.cons_append] at followed
        split at followed
        · cases followed
          obtain ⟨inside, result', source', after, rfl, ends⟩ := ih stack closed
          exact ⟨.leave c' result source :: inside, result', source', after,
            rfl, by simp [Event.follow, *]⟩
        · cases followed
    | refuse c' | note s flags w | set s flags =>
      cases followed
      obtain ⟨inside, result, source, after, rfl, ends⟩ := ih stack closed
      exact ⟨_ :: inside, result, source, after, rfl, ends⟩

/-- Each call that is entered comes to its end, and before that do those that are made in it. -/
theorem openCalls_ends {c : Call} {before rest : List Event}
    (closed : openCalls [] (before ++ .enter c :: rest) = some []) :
    ∃ inside result source after, rest = inside ++ .leave c result source :: after ∧
      openCalls [] inside = some [] := by
  rw [openCalls_append] at closed
  obtain ⟨outer, -, closed⟩ := Option.bind_eq_some_iff.mp closed
  exact openCalls_inside [] closed

/-- The calls that were entered are those that have ended and those that are still in progress. -/
theorem entered_perm (opened : openCalls inside h = some inner) :
    (h.filterMap Event.entered? ++ inside).Perm (h.filterMap Event.ended? ++ inner) := by
  induction h generalizing inside with
  | nil =>
    cases opened
    rfl
  | cons e h ih =>
    rw [openCalls_cons] at opened
    obtain ⟨next, followed, opened⟩ := Option.bind_eq_some_iff.mp opened
    have rest := ih opened
    cases e with
    | enter c =>
      cases followed
      exact List.perm_middle.symm.trans rest
    | leave c result source =>
      cases inside with
      | nil => cases followed
      | cons inner outer =>
        simp only [Event.follow] at followed
        split at followed
        case isTrue same =>
          cases followed
          exact List.perm_middle.trans (same ▸ rest.cons inner)
        case isFalse => cases followed
    | refuse c | note s flags w | set s flags =>
      cases followed
      exact rest

namespace Fits

theorem notes {s : ScriptRef} {flags : DebugFlags} (notes : List Warning) :
    Fits calls (notes.map (.note s flags)) := by
  intro p e rest split
  obtain ⟨before, after, -, rfl, note⟩ := List.map_eq_append_iff.mp split
  obtain ⟨w, after, -, rfl, -⟩ := List.map_eq_cons_iff.mp note
  exact ⟨[], openCalls_notes before, trivial⟩

/-- One event. -/
theorem single {e : Event} (fits : e.Fits calls) : Fits calls [e] := by
  intro p e' rest split
  obtain ⟨rfl, rfl, rfl⟩ : p = [] ∧ e' = e ∧ rest = [] := by
    cases p with
    | nil => simpa [eq_comm] using split
    | cons first p => simp at split
  exact ⟨[], rfl, fits⟩

/-- A chronicle, and one after all calls of it have ended. -/
theorem append (fits : Fits calls h) (closed : openCalls [] h = some []) (fits' : Fits calls h') :
    Fits calls (h ++ h') := by
  intro p e rest split
  obtain ⟨before, rfl, second⟩ | ⟨after, first, second⟩ := List.append_eq_append_iff.mp split
  · obtain ⟨inside, opened, there⟩ := fits' before e rest second
    exact ⟨inside, (openCalls_after closed before).trans opened, there⟩
  · cases after with
    | nil =>
      obtain rfl : h = p := by simpa using first
      obtain ⟨inside, opened, there⟩ := fits' [] e rest (by simpa using second.symm)
      exact ⟨inside, closed.trans opened, there⟩
    | cons first' after =>
      obtain ⟨rfl, -⟩ := List.cons_eq_cons.mp second
      exact fits p e after first

/-- A call that is entered and what happens in it. -/
theorem enter {c : Call} (room : calls < c.limit) (fits : Fits (calls + 1) h) :
    Fits calls (.enter c :: h) := by
  intro p e rest split
  cases p with
  | nil =>
    obtain ⟨rfl, -⟩ := List.cons_eq_cons.mp split
    exact ⟨[], rfl, room⟩
  | cons first p =>
    obtain ⟨rfl, later⟩ := List.cons_eq_cons.mp split
    obtain ⟨inside, opened, there⟩ := fits p e rest later
    refine ⟨inside ++ [c], openCalls_enter c opened, ?_⟩
    rwa [List.length_append, List.length_singleton, Nat.add_comm inside.length, ← Nat.add_assoc]

/-- What does not bring calls may follow. -/
theorem leave {c : Call} {result source : Option String} (fits : Fits calls h)
    (opened : openCalls [] h = some inside) :
    Fits calls (h ++ [.leave c result source]) := by
  intro p e rest split
  obtain ⟨before, rfl, second⟩ | ⟨after, first, second⟩ := List.append_eq_append_iff.mp split
  · cases before with
    | nil =>
      obtain ⟨rfl, -⟩ := List.cons_eq_cons.mp second
      exact ⟨inside, by simpa using opened, trivial⟩
    | cons first before => simp at second
  · cases after with
    | nil =>
      obtain rfl : h = p := by simpa using first
      obtain ⟨rfl, -⟩ := List.cons_eq_cons.mp second
      exact ⟨inside, opened, trivial⟩
    | cons first' after =>
      obtain ⟨rfl, -⟩ := List.cons_eq_cons.mp second
      exact fits p e after first

/-- Where no call may be entered with more than so many calls in progress, there are never more. -/
theorem bound {most : Nat} (fits : Fits calls h) (opened : openCalls [] h = some inside)
    (start : calls ≤ most) (limits : ∀ e ∈ h, ∀ c, e.tried? = some c → c.limit ≤ most)
    {p : List Event} (part : p <+: h) :
    ∃ inside, openCalls [] p = some inside ∧ calls + inside.length ≤ most := by
  induction p using List.reverseRecOn with
  | nil => exact ⟨[], rfl, start⟩
  | append_singleton p e ih =>
    obtain ⟨rest, rfl⟩ := part
    obtain ⟨inner, before, few⟩ := ih ⟨e :: rest, by simp⟩
    obtain ⟨_, same, there⟩ := fits p e rest (by simp)
    obtain rfl := Option.some_inj.mp (before.symm.trans same)
    have after : openCalls [] (p ++ [e]) = e.follow inner := by
      rw [openCalls_append, before]
      cases followed : e.follow inner <;> simp [followed]
    rw [after]
    cases e with
    | enter c =>
      have limit := limits (.enter c) (by simp) c rfl
      exact ⟨c :: inner, rfl, by
        simp only [Event.Fits] at there; simp only [List.length_cons]; omega⟩
    | leave c result source =>
      have ends : (openCalls [] (p ++ [.leave c result source])).isSome := by
        rw [openCalls_append] at opened
        obtain ⟨next, ends, -⟩ := Option.bind_eq_some_iff.mp opened
        simp [ends]
      rw [after] at ends
      obtain ⟨next, followed⟩ := Option.isSome_iff_exists.mp ends
      refine ⟨next, followed, ?_⟩
      cases inner with
      | nil => cases followed
      | cons first outer =>
        simp only [Event.follow] at followed
        split at followed
        · cases followed
          simp only [List.length_cons] at few
          omega
        · cases followed
    | refuse c | note s flags w | set s flags => exact ⟨inner, rfl, few⟩

end Fits

end CellScript
