import CellScript.Proofs.Mirror.House

/-!
# Scripts of one engine are apart

What a host does with the scripts of others changes nothing about the script of a party: the host is
told the same of all that it does for the party, and sees the same of its script. It is so as long
as the host gives no script a function or a value of another one, no class is imported, nothing is
read from the console and nothing is asked of the system.

## Main statements

* `Engine.House.neighbours_unheard` — runs and calls of other scripts change nothing.
* `Engine.neighbours_heard` — they may change much, where the host gives a function or a value of a
  script to another one.
-/

namespace CellScript.Engine

open Mirror (own together_new)

namespace House

variable {ι : Type} [DecidableEq ι]

/-- Loading is quiet, one program after another. -/
theorem undisturbed_loads (n : Nat) (deeds : List (ι × Deed)) (loads : ∀ d ∈ deeds, d.2.isLoad)
    (h : House ι) :
    h.Undisturbed n deeds := by
  induction deeds generalizing h with
  | nil => trivial
  | cons first rest ih =>
    obtain ⟨who, deed⟩ := first
    obtain ⟨load, others⟩ := List.forall_mem_cons.mp loads
    cases deed with
    | load p => exact ⟨h.isQuiet_load n who p, ih others _⟩
    | run | call => cases load

/-- Scripts of one engine are apart. Several parties have scripts in an engine that does not share
global variables, has the standard classes of the host, and gives no function of a script to others.
Programs are loaded for the parties, their scripts are run and their functions are called, in any
order and with any outcome, with new values and with what earlier requests of the same party have
come to; nobody imports a class, reads from the console or asks the system for anything. Now nothing
but loading is done for other parties than one. Of all that it does for this party the host is told
the same, as to the value or the fault, the output, and what the watchers of the script are told. In
the end it sees the same of the script: its global variables, functions, inline blocks, profile,
last trace, counts of frames and configuration with its flags. -/
theorem neighbours_unheard (config : EngineConfig) (console : Console) (environment : Environment)
    (system : System) (native : environment.IsNative) (n : Nat) (deeds : List (ι × Deed))
    (quiet : (House.new config console environment system).Undisturbed n deeds) (who : ι) :
    let h := House.new config console environment system
    let alone := deeds.filter fun d => d.1 = who ∨ d.2.isLoad
    (h.accounts n deeds).filter (·.1 = who) = (h.accounts n alone).filter (·.1 = who) ∧
      (h.play n deeds).look who = (h.play n alone).look who := by
  intro h alone
  have together := together_new (ι := ι) config console system native
  have each := (together.undisturbed_iff n deeds).mpr quiet
  have mine : own who alone = own who deeds := by
    simp only [own, alone, List.filter_filter]
    exact List.filter_congr fun d _ => by simp; tauto
  have theirs (t : ι) (ne : t ≠ who) : ∀ d ∈ own t alone, d.2.isLoad := by
    intro d among
    simp only [own, alone, List.mem_filter, decide_eq_true_eq, Bool.decide_or,
      Bool.or_eq_true] at among
    obtain ⟨⟨-, rfl | load⟩, rfl⟩ := among
    · exact absurd rfl ne
    · exact load
  have quiet' : h.Undisturbed n alone := by
    refine (together.undisturbed_iff n alone).mp fun t => ?_
    by_cases self : t = who
    · rw [self, mine]
      exact each who
    · exact undisturbed_loads n _ (theirs t self) _
  obtain ⟨w, played⟩ := together.play n deeds quiet
  obtain ⟨w', played'⟩ := together.play n alone quiet'
  refine ⟨?_, ?_⟩
  · rw [together.accounts_eq n deeds quiet, together.accounts_eq n alone quiet', mine]
  · rw [← played.look_eq who, ← played'.look_eq who, mine]

/-- A script that counts in a global variable. -/
def counter : Program :=
  .ofBlock "main" (Body.build (.mk none 1
    [.define "&add" (.mk none 1
      [.expr (.assign (.var "$n") none (.op "+" [.var "$n", .var "$1"])),
        .expr (.call "&println" [.var "$n"]),
        .flow .return (some (.var "$n"))]) false,
      .expr (.assign (.var "$n") none (.literal (.int 1))),
      .flow .return (some (.var "$n"))]))

/-- Two parties count. -/
def counting : List (Bool × Deed) :=
  [(true, .load counter), (false, .load counter), (false, .run), (true, .run),
    (false, .call "&add" [.document (.object [("int", .ofInt 5)])]),
    (true, .call "&add" [.earlier 0]), (false, .run)]

/-- The counts of one party are not those of the other. -/
theorem neighbours_unheard_counting :
    let h := House.new .standard (.ofInput []) .empty
    let alone := counting.filter fun d => d.1 = true ∨ d.2.isLoad
    h.Undisturbed 20 counting ∧
      (h.accounts 20 counting).map (·.2.output) = ["", "", "", "", "6\n", "2\n", ""] ∧
      (h.accounts 20 alone).map (·.2.output) = ["", "", "", "2\n"] ∧
      (h.accounts 20 counting).filter (·.1 = true) = (h.accounts 20 alone).filter (·.1 = true) ∧
      (h.play 20 counting).look true = (h.play 20 alone).look true := by
  have quiet : (House.new .standard (.ofInput []) .empty).Undisturbed 20 counting := by
    decide +kernel
  exact ⟨quiet, by decide +kernel, by decide +kernel,
    neighbours_unheard .standard (.ofInput []) .empty .still nofun 20 counting quiet true⟩

end House

/-! ## What is lent -/

/-- A script with a function that tells of its global variable, and one that changes its list. -/
def lender : Program :=
  .ofBlock "a" (Body.build (.mk none 1
    [.define "&f" (.mk none 1 [.flow .return (some (.var "$g"))]) false,
      .define "&grow" (.mk none 1 [.expr (.call "&push" [.var "@a", .literal (.int 2)])]) false,
      .expr (.assign (.var "$g") none (.literal (.int 1))),
      .expr (.assign (.var "@a") none (.call "&array" [.literal (.int 1)])),
      .flow .return (some (.var "@a"))]))

/-- A script that calls a function of another one, and one that keeps what it is given. -/
def borrower : Program :=
  .ofBlock "b" (Body.build (.mk none 1
    [.define "&keep" (.mk none 1 [.expr (.assign (.var "@b") none (.var "$1"))]) false,
      .flow .return (some (.call "&f" []))]))

/-- Ask something of a script; without a result, of no cell. -/
def request (s : ScriptRef) (request : Request) : StateM Engine CellRef := do
  return (← perform (request.serve (Eval.reentry 20) s)).toOption.getD default

/-- An engine in which a function of the one script was given to the other. -/
def lending : Engine :=
  (do
    let _ ← load lender
    let _ ← publish ⟨0⟩ "&f"
    let _ ← load borrower : StateM Engine Unit) (.create .standard (.ofInput [])) |>.2

/-- What the borrower gives, described. -/
def borrowed (e : Engine) : String :=
  let (cell, e) := request ⟨1⟩ .run e
  e.machine.heap.describe cell

/-- The engine when the borrower has also been given the list of the lender. -/
def entrusted : Engine :=
  (do
    let list ← request ⟨0⟩ .run
    let _ ← request ⟨1⟩ (.call "&keep" [list]) : StateM Engine Unit) lending |>.2

/-- What the borrower has kept, described. -/
def kept (e : Engine) : Option String :=
  (e.global? ⟨1⟩ "@b").map e.machine.heap.describe

/-- Scripts of one engine are not apart where the host lends one of them something of the other,
although they share no variables, import no class and read nothing. A function of a script that is
given to the scripts loaded later keeps its scope, and tells what a run of its own script has left.
A list of a script that another one keeps is changed by calls of the first. -/
theorem neighbours_heard :
    let run := (request ⟨0⟩ .run lending).2
    let called := (request ⟨0⟩ (.call "&grow" []) entrusted).2
    lending.globals = none ∧ called.machine.hosts.aliases.entries = [] ∧
      called.machine.console = lending.machine.console ∧
      (borrowed lending = "$null" ∧ borrowed run = "1") ∧ kept entrusted = some "@(1)" ∧
      kept called = some "@(1, 2)" := by
  decide +kernel

end CellScript.Engine
