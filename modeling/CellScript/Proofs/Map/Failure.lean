import CellScript.Proofs.Map.Recency

/-!
# Policies that fail

A request to a map fails only when a policy does. The value of a missing key is made before anything
else happens, so nothing is lost when that fails. The removal policy is asked once the new entry is
in the map, which it may look at; the new entry stays there when the policy fails, and no entry is
dropped.

## Main definitions

* `Discreet` — a computation that leaves a map alone, however it ends.
* `Undecided` — the removal policy fails.
* `Fails` — the rules of requests that fail.

## Main statements

* `Table.put_fails`, `Table.getOrCreate_fails` — requests fail by the rules.
* `MapRequest.failure_keeps_entries` — what a failed request leaves of the map.
-/

namespace CellScript

open Run

variable {s : Reentry} {t : TableRef} {inv : Machine → Prop} {m m' : Machine} {l l' : AgedList}
  {key : String} {cell : CellRef} {stop : Stop} {request : MapRequest}

/-! ## The rules -/

/-- The removal policy is asked about the eldest entry, and fails. -/
def Undecided (s : Reentry) (t : TableRef) (l : AgedList) (m : Machine) (stop : Stop)
    (m' : Machine) : Prop :=
  ∃ policy key cell, l.question? = some (policy, key, cell) ∧
    policy.verdict s t key cell m = (.error stop, m')

/-- The rules of requests that fail: what they leave in the list of a map. -/
inductive Fails (s : Reentry) (t : TableRef) :
    AgedList → Machine → MapRequest → Stop → AgedList → Machine → Prop
  | put {l : AgedList} {m m₁ m' : Machine} {key : String} {cell : CellRef} {stop : Stop}
    (absent : l.find? key = none) (added : m.Turns t (l.add key cell) m₁)
    (undecided : Undecided s t (l.add key cell) m₁ stop m') :
    Fails s t l m (.put key cell) stop (l.add key cell) m'
  | unmade {l : AgedList} {m m' : Machine} {key : String} {stop : Stop}
    (absent : l.find? key = none) (failed : Table.madeBy s t key l.miss m = (.error stop, m')) :
    Fails s t l m (.getOrCreate key) stop l m'
  | made {l : AgedList} {m m₁ m₂ m' : Machine} {key : String} {cell : CellRef} {stop : Stop}
    (absent : l.find? key = none) (made : Table.madeBy s t key l.miss m = (.ok cell, m₁))
    (added : m₁.Turns t (l.add key cell) m₂)
    (undecided : Undecided s t (l.add key cell) m₂ stop m') :
    Fails s t l m (.getOrCreate key) stop (l.add key cell) m'

/-! ## Policies that leave the map alone -/

/-- The computation leaves the map as it is, however it ends, from wherever `inv` holds, which it
keeps. -/
def Discreet (t : TableRef) (inv : Machine → Prop) {α : Type} (x : Run α) : Prop :=
  ∀ m, inv m → inv (x m).2 ∧ (x m).2.map? t = m.map? t

theorem Discreet.of_run {α : Type} {x : Run α} {result : Except Stop α} (h : Discreet t inv x)
    (holds : inv m) (run : x m = (result, m')) : inv m' ∧ m'.map? t = m.map? t := by
  have after := h m holds
  rwa [run] at after

/-- The policies of a list are discreet. -/
structure AgedList.IsDiscreet (s : Reentry) (t : TableRef) (inv : Machine → Prop)
    (l : AgedList) : Prop where
  miss : ∀ key, Discreet t inv (Table.madeBy s t key l.miss)
  removal : ∀ policy, l.removal = some policy →
    ∀ key cell, Discreet t inv (policy.verdict s t key cell)

/-- Discretion is a matter of the policies. -/
theorem AgedList.IsDiscreet.add (h : l.IsDiscreet s t inv) (key : String) (cell : CellRef) :
    (l.add key cell).IsDiscreet s t inv :=
  ⟨h.miss, h.removal⟩

/-! ## Requests -/

/-- A computation stops where its first part stops, or where the rest does. -/
theorem Run.bind_eq_error {α β : Type} {x : Run α} {f : α → Run β} :
    (x >>= f) m = (.error stop, m') ↔
    x m = (.error stop, m') ∨ ∃ a m₁, x m = (.ok a, m₁) ∧ f a m₁ = (.error stop, m') := by
  rw [bind_run]
  rcases run : x m with ⟨other | a, m₁⟩
  · refine ⟨fun stopped => .inl ?_, fun stopped => ?_⟩
    · cases stopped
      rfl
    · rcases stopped with first | ⟨_, _, passed, -⟩
      · cases first
        rfl
      · cases passed
  · refine ⟨fun stopped => .inr ⟨a, m₁, rfl, stopped⟩, fun stopped => ?_⟩
    rcases stopped with first | ⟨_, _, passed, rest⟩
    · cases first
    · cases passed
      exact rest

namespace Machine

/-- A map that is there can be changed. -/
theorem Shows.onMap (h : m.Shows t l) (step : Table → Table) (sound : (step (m.heap.table t)).Sound)
    (shown : (step (m.heap.table t)).aged = l') :
    ∃ m', Run.onMap t step m = (.ok (), m') ∧ m.Turns t l' m' ∧ m'.Shows t l' := by
  obtain ⟨table, held, -, -⟩ := h
  rw [table_of_map? held] at sound shown
  exact ⟨_, onMap_run held step, ⟨_, shown, rfl⟩, _, map?_setMap held _, sound, shown⟩

theorem Shows.append (h : m.Shows t l) (absent : l.find? key = none) (cell : CellRef) :
    ∃ m', Run.onMap t (·.append key cell) m = (.ok (), m') ∧ m.Turns t (l.add key cell) m' ∧
      m'.Shows t (l.add key cell) := by
  obtain ⟨sound, rfl⟩ := h.sound
  have new := sound.get?_eq_none absent
  exact h.onMap _ (sound.append new cell) (sound.aged_append new cell)

end Machine

theorem Table.evict_fails (shows : m.Shows t l) (failed : Table.evict s t m = (.error stop, m')) :
    Undecided s t l m stop m' := by
  obtain ⟨sound, aged⟩ := shows.sound
  have candidate := sound.candidate?_eq
  rw [aged] at candidate
  unfold Table.evict at failed
  rw [bind_run, askHeap_run] at failed
  cases question : l.question? with
  | none =>
    rw [question, Option.map_none] at candidate
    simp only [candidate] at failed
    cases failed
  | some asked =>
    obtain ⟨policy, key, cell⟩ := asked
    rw [question, Option.map_some] at candidate
    simp only [candidate, bind_run, pure_run] at failed
    refine ⟨policy, key, cell, question, ?_⟩
    rcases run : policy.verdict s t key cell m with ⟨other | verdict, m₁⟩
    · rw [run] at failed
      cases failed
      rfl
    · rw [run] at failed
      cases verdict <;> cases failed

/-- After a failed insertion the entry is there and the removal policy has failed. -/
theorem Table.insert_fails (shows : m.Shows t l) (absent : l.find? key = none)
    (failed : (Run.onMap t (·.append key cell) >>= fun _ => Table.evict s t) m =
      (.error stop, m')) :
    ∃ m₁, m.Turns t (l.add key cell) m₁ ∧ m₁.Shows t (l.add key cell) ∧
      Undecided s t (l.add key cell) m₁ stop m' := by
  obtain ⟨m₁, added, turned, shows₁⟩ := shows.append absent cell
  rw [bind_run, added] at failed
  exact ⟨m₁, turned, shows₁, Table.evict_fails shows₁ failed⟩

/-- A removal policy that fails leaves the map as it was when the policy was asked. -/
theorem Undecided.shows (h : Undecided s t l m stop m') (shows : m.Shows t l) (holds : inv m)
    (discreet : l.IsDiscreet s t inv) : m'.Shows t l := by
  obtain ⟨policy, key, cell, question, verdict⟩ := h
  have same :=
    (discreet.removal policy (AgedList.of_question? question).1 key cell).of_run holds verdict
  exact shows.of_map? same.2

section Requests

variable (turns : ∀ m table, inv m → inv (m.setMap t table)) (holds : inv m) (shows : m.Shows t l)
  (discreet : l.IsDiscreet s t inv)

include turns holds shows discreet

theorem Table.put_fails (failed : Table.put s t key cell m = (.error stop, m')) :
    Fails s t l m (.put key cell) stop (l.add key cell) m' ∧ m'.Shows t (l.add key cell) := by
  obtain ⟨sound, aged⟩ := shows.sound
  cases held : l.find? key with
  | some old =>
    obtain ⟨entry, found, -⟩ := sound.get?_eq_some (aged ▸ held)
    rw [Table.put_run_held found] at failed
    cases failed
  | none =>
    rw [Table.put_run_new (sound.get?_eq_none (aged ▸ held))] at failed
    obtain ⟨m₁, turned, shows₁, undecided⟩ := Table.insert_fails shows held failed
    refine ⟨.put held turned undecided, undecided.shows shows₁ ?_ (discreet.add key cell)⟩
    obtain ⟨table, -, rfl⟩ := turned
    exact turns m table holds

theorem Table.getOrCreate_fails (failed : Table.getOrCreate s t key m = (.error stop, m')) :
    ∃ l', Fails s t l m (.getOrCreate key) stop l' m' ∧ m'.Shows t l' := by
  have peek := shows.peek_eq key
  cases held : l.find? key with
  | some cell =>
    rw [Table.getOrCreate_run_hit (peek.trans held)] at failed
    cases failed
  | none =>
    have policy : (m.heap.table t).miss = l.miss := by
      obtain ⟨-, rfl⟩ := shows.sound
      rfl
    rw [Table.getOrCreate_run_miss (peek.trans held), policy, bind_eq_error] at failed
    rcases failed with failed | ⟨cell, m₁, made, failed⟩
    · exact ⟨l, .unmade held failed, shows.of_map? ((discreet.miss key).of_run holds failed).2⟩
    · obtain ⟨holds₁, same⟩ := (discreet.miss key).of_run holds made
      have shows₁ : m₁.Shows t l := shows.of_map? same
      have absent : (m₁.heap.table t).peek key = none := (shows₁.peek_eq key).trans held
      rw [bind_run, askHeap_run] at failed
      simp only [absent] at failed
      rw [← bind_assoc, bind_eq_error] at failed
      rcases failed with failed | ⟨_, _, _, done⟩
      · obtain ⟨m₂, turned, shows₂, undecided⟩ := Table.insert_fails shows₁ held failed
        refine ⟨_, .made held made turned undecided,
          undecided.shows shows₂ ?_ (discreet.add key cell)⟩
        obtain ⟨table, -, rfl⟩ := turned
        exact turns m₁ table holds₁
      · cases done

/-- A request fails where one of the policies fails, and only by the rules: what is left of the map
is what it was before when no value can be made for a missing key, and else that with the new entry
at the young end. -/
theorem MapRequest.failure_keeps_entries (failed : request.perform s t m = (.error stop, m')) :
    ∃ l', Fails s t l m request stop l' m' ∧ m'.Shows t l' := by
  cases request with
  | put key cell =>
    rw [perform, bind_eq_error] at failed
    rcases failed with failed | ⟨_, _, _, done⟩
    · exact ⟨_, Table.put_fails turns holds shows discreet failed⟩
    · cases done
  | getOrCreate key =>
    rw [perform, bind_eq_error] at failed
    rcases failed with failed | ⟨_, _, _, done⟩
    · exact Table.getOrCreate_fails turns holds shows discreet failed
    · cases done
  | lookup key =>
    rw [perform, bind_run, Table.lookup_run] at failed
    cases held : (m.heap.table t).peek key <;> simp only [held] at failed <;> cases failed
  | ask | remove | clear | setMiss | setRemoval | setCapacity => cases failed

end Requests

/-! ## A map whose policies fail -/

/-- A map of one entry whose policies fail. -/
def Table.failing : Table :=
  { (Table.empty .insertion).append "a" ⟨0⟩ with
    miss := some (.fail (.runtime .divisionByZero)), removal :=
      some (.fail (.runtime .divisionByZero)) }

/-- A machine with this map and one more cell. -/
def Machine.withFailing : Machine :=
  { (default : Machine) with
    heap :=
      { Heap.empty with cells := #[.clean (.int 1), .clean (.int 2)], tables := #[.failing] } }

theorem Machine.shows_withFailing : Machine.withFailing.Shows ⟨0⟩ Table.failing.aged :=
  ⟨.failing, rfl, ((Table.sound_empty .insertion).append rfl ⟨0⟩).of_entries rfl rfl rfl, rfl⟩

/-- Policies that fail at once are discreet. -/
theorem Table.isDiscreet_failing : Table.failing.aged.IsDiscreet .idle ⟨0⟩ fun _ => True where
  miss _ _ _ := ⟨trivial, rfl⟩
  removal
    | _, rfl, _, _, _, _ => ⟨trivial, rfl⟩

/-- A missing key is not added when its value cannot be made. -/
theorem MapRequest.failure_keeps_entries_withFailing : ∃ stop m',
    (getOrCreate "b").perform .idle ⟨0⟩ .withFailing = (.error stop, m') ∧
    m'.Shows ⟨0⟩ Table.failing.aged := by
  have failed : (getOrCreate "b").perform .idle ⟨0⟩ .withFailing =
      (.error (.fault (.runtime .divisionByZero)), .withFailing) := rfl
  obtain ⟨l', fails, shows⟩ :=
      failure_keeps_entries (fun _ _ _ => trivial) trivial Machine.shows_withFailing
        Table.isDiscreet_failing failed
  refine ⟨_, _, failed, ?_⟩
  cases fails with
  | unmade => exact shows
  | made absent made => cases made

/-- An entry that is put stays in the map when the removal policy fails. -/
theorem MapRequest.failed_put_adds :
    Machine.withFailing.Shows ⟨0⟩ Table.failing.aged ∧
    Table.failing.aged.IsDiscreet .idle ⟨0⟩ (fun _ => True) ∧
      ∃ stop m', (put "b" ⟨1⟩).perform .idle ⟨0⟩ .withFailing = (.error stop, m') ∧
        ¬ m'.Shows ⟨0⟩ Table.failing.aged := by
  refine ⟨Machine.shows_withFailing, Table.isDiscreet_failing, _, _, rfl, ?_⟩
  rintro ⟨table, held, -, aged⟩
  cases held
  cases congrArg AgedList.keys aged

end CellScript
