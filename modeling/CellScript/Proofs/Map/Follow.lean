import CellScript.Proofs.Map.Aged

/-!
# Requests follow the rules of the list

What a request does to a map, said as rules about the list of the map. The policies are asked where
a rule says so, by the machine itself, and nowhere else: what a rule does not say changes nothing.
Requests follow the rules when the policies fulfil what is asked of them: they come to an answer and
leave the map alone.

## Main definitions

* `Machine.Turns` — a machine after a change of one map.
* `Settles` — what comes of the removal policy after an insertion.
* `Follows` — the rules.
* `Courteous` — a computation that comes to an answer and leaves a map alone.

## Main statements

* `Table.put_follows`, `Table.getOrCreate_follows` — a key is put, and the cell of a key is made, by
  the rules.
* `MapRequest.follows` — every request follows the rules.
-/

namespace CellScript

open Run

variable {s : Reentry} {t : TableRef} {inv : Machine → Prop} {m m' : Machine} {table : Table}
  {l l' : AgedList} {key : String} {cell : CellRef}

namespace Machine

/-- The map exists, its parts belong together and it shows a list. -/
def Shows (m : Machine) (t : TableRef) (l : AgedList) : Prop :=
  ∃ table, m.map? t = some table ∧ table.Sound ∧ table.aged = l

/-- The same machine, but the map shows another list. -/
def Turns (m : Machine) (t : TableRef) (l : AgedList) (m' : Machine) : Prop :=
  ∃ table : Table, table.aged = l ∧ m' = m.setMap t table

end Machine

/-! ## The rules -/

/-- The key that becomes the youngest when a key that is there is used. -/
def AgedList.renewed (l : AgedList) (key : String) : Option String :=
  match l.mode with
  | .insertion => none
  | .access => some key

/-- What comes of a request: the reply, the key that became the youngest and the one that was
dropped. -/
structure Outcome where
  reply : MapReply
  renewed : Option String
  dropped : Option String

/-- After an insertion the removal policy is asked, once, about the eldest entry if it has to be,
and that entry is dropped if it says so. -/
inductive Settles (s : Reentry) (t : TableRef) :
    AgedList → Machine → Option String → AgedList → Machine → Prop
  | unasked {l : AgedList} {m : Machine} (question : l.question? = none) : Settles s t l m none l m
  | kept {l : AgedList} {m m' : Machine} {policy : RemovalPolicy} {key : String} {cell : CellRef}
    (question : l.question? = some (policy, key, cell))
    (verdict : policy.verdict s t key cell m = (.ok false, m')) : Settles s t l m none l m'
  | dropped {l : AgedList} {m m₁ m' : Machine} {policy : RemovalPolicy} {key : String}
    {cell : CellRef} (question : l.question? = some (policy, key, cell))
    (verdict : policy.verdict s t key cell m = (.ok true, m₁))
    (gone : m₁.Turns t (l.without key) m') :
    Settles s t l m (some key) (l.without key) m'

/-- The rules: what a request does to the list of a map, and to the machine. -/
inductive Follows (s : Reentry) (t : TableRef) :
    AgedList → Machine → MapRequest → Outcome → AgedList → Machine → Prop
  | ask {l : AgedList} {m : Machine} (question : MapQuestion) :
    Follows s t l m (.ask question) ⟨l.answer m.heap question, none, none⟩ l m
  | putNew {l l' : AgedList} {m m₁ m' : Machine} {key : String} {cell : CellRef}
    {dropped : Option String} (absent : l.find? key = none) (added : m.Turns t (l.add key cell) m₁)
    (settled : Settles s t (l.add key cell) m₁ dropped l' m') :
    Follows s t l m (.put key cell) ⟨.done, some key, dropped⟩ l' m'
  | putHeld {l : AgedList} {m m' : Machine} {key : String} {cell old : CellRef}
    (held : l.find? key = some old) (written : m.Turns t (l.write key cell) m') :
    Follows s t l m (.put key cell) ⟨.done, l.renewed key, none⟩ (l.write key cell) m'
  | hit {l : AgedList} {m m' : Machine} {key : String} {cell : CellRef}
    (held : l.find? key = some cell) (used : m.Turns t (l.use key) m') :
    Follows s t l m (.getOrCreate key) ⟨.cell cell, l.renewed key, none⟩ (l.use key) m'
  | miss {l l' : AgedList} {m m₁ m₂ m' : Machine} {key : String} {cell : CellRef}
    {dropped : Option String} (absent : l.find? key = none)
    (made : Table.madeBy s t key l.miss m = (.ok cell, m₁)) (added : m₁.Turns t (l.add key cell) m₂)
    (settled : Settles s t (l.add key cell) m₂ dropped l' m') :
    Follows s t l m (.getOrCreate key) ⟨.cell cell, some key, dropped⟩ l' m'
  | lookupHit {l : AgedList} {m m' : Machine} {key : String} {cell : CellRef}
    (held : l.find? key = some cell) (used : m.Turns t (l.use key) m') :
    Follows s t l m (.lookup key) ⟨.cell? (some cell), l.renewed key, none⟩ (l.use key) m'
  | lookupMiss {l : AgedList} {m : Machine} {key : String} (absent : l.find? key = none) :
    Follows s t l m (.lookup key) ⟨.cell? none, none, none⟩ l m
  | remove {l : AgedList} {m m' : Machine} (key : String) (removed : m.Turns t (l.without key) m') :
    Follows s t l m (.remove key) ⟨.cell? (l.find? key), none, none⟩ (l.without key) m'
  | clear {l : AgedList} {m m' : Machine} (cleared : m.Turns t { l with items := [] } m') :
    Follows s t l m .clear ⟨.done, none, none⟩ { l with items := [] } m'
  | setMiss {l : AgedList} {m m' : Machine} (miss : Option MissPolicy)
    (set : m.Turns t { l with miss } m') :
    Follows s t l m (.setMiss miss) ⟨.done, none, none⟩ { l with miss } m'
  | setRemoval {l : AgedList} {m m' : Machine} (removal : Option RemovalPolicy)
    (set : m.Turns t { l with removal } m') :
    Follows s t l m (.setRemoval removal) ⟨.done, none, none⟩ { l with removal } m'
  | setCapacity {l : AgedList} {m m' : Machine} (capacity : Option Nat)
    (set : m.Turns t { l with capacity } m') :
    Follows s t l m (.setCapacity capacity) ⟨.done, none, none⟩ { l with capacity } m'

/-! ## Policies that leave the map alone -/

/-- The computation comes to an answer and leaves the map as it is, from wherever `inv` holds, which
it keeps. -/
def Courteous (t : TableRef) (inv : Machine → Prop) {α : Type} (x : Run α) : Prop :=
  ∀ m, inv m → ∃ a m', x m = (.ok a, m') ∧ inv m' ∧ m'.map? t = m.map? t

/-- The removal policy is courteous, whatever entry it is asked about. -/
def RemovalPolicy.IsCourteous (s : Reentry) (t : TableRef) (inv : Machine → Prop)
    (policy : RemovalPolicy) : Prop :=
  ∀ key cell, Courteous t inv (policy.verdict s t key cell)

/-- The policies of a list are courteous. -/
structure AgedList.IsCourteous (s : Reentry) (t : TableRef) (inv : Machine → Prop)
    (l : AgedList) : Prop where
  miss : ∀ key, Courteous t inv (Table.madeBy s t key l.miss)
  removal : ∀ policy, l.removal = some policy → policy.IsCourteous s t inv

/-- The policies that a request sets are courteous. -/
def MapRequest.IsCourteous (s : Reentry) (t : TableRef) (inv : Machine → Prop) : MapRequest → Prop
  | .setMiss miss => ∀ key, Courteous t inv (Table.madeBy s t key miss)
  | .setRemoval removal => ∀ policy, removal = some policy → policy.IsCourteous s t inv
  | _ => True

namespace AgedList

/-- Courtesy is a matter of the policies. -/
theorem IsCourteous.of_policies (h : l.IsCourteous s t inv) (miss : l'.miss = l.miss)
    (removal : l'.removal = l.removal) : l'.IsCourteous s t inv :=
  ⟨miss ▸ h.miss, removal ▸ h.removal⟩

@[simp] theorem miss_use (l : AgedList) (key : String) : (l.use key).miss = l.miss := by
  unfold use
  split <;> rfl

@[simp] theorem removal_use (l : AgedList) (key : String) : (l.use key).removal = l.removal := by
  unfold use
  split <;> rfl

/-- A question is about the head of the list. -/
theorem of_question? {policy : RemovalPolicy} (h : l.question? = some (policy, key, cell)) :
    l.removal = some policy ∧ ∃ rest, l.items = (key, cell) :: rest := by
  unfold question? at h
  split at h
  case h_1 removal items =>
    split at h
    · cases h
    · cases h
      exact ⟨removal, _, items⟩
  case h_2 => cases h

end AgedList

theorem Settles.policies {dropped : Option String} (h : Settles s t l m dropped l' m') :
    l'.miss = l.miss ∧ l'.removal = l.removal := by
  cases h <;> exact ⟨rfl, rfl⟩

/-! ## Requests -/

namespace Machine.Shows

theorem sound (h : m.Shows t l) : (m.heap.table t).Sound ∧ (m.heap.table t).aged = l := by
  obtain ⟨table, held, sound, rfl⟩ := h
  rw [table_of_map? held]
  exact ⟨sound, rfl⟩

theorem of_map? (h : m.Shows t l) (same : m'.map? t = m.map? t) : m'.Shows t l := by
  obtain ⟨table, held, sound, aged⟩ := h
  exact ⟨table, same.trans held, sound, aged⟩

theorem peek_eq (h : m.Shows t l) (key : String) : (m.heap.table t).peek key = l.find? key := by
  obtain ⟨sound, rfl⟩ := h.sound
  exact (sound.find?_aged key).symm

end Machine.Shows

/-- The state between two requests: the map shows a list, the invariant holds and the policies are
courteous. -/
structure Settled (s : Reentry) (t : TableRef) (inv : Machine → Prop) (l : AgedList)
    (m : Machine) : Prop where
  shows : m.Shows t l
  holds : inv m
  courteous : l.IsCourteous s t inv

section Requests

variable (turns : ∀ m table, inv m → inv (m.setMap t table))

include turns

/-- A step of a map that is a step of its list. -/
theorem Settled.onMap (h : Settled s t inv l m) (step : Table → Table)
    (sound : (step (m.heap.table t)).Sound) (shown : (step (m.heap.table t)).aged = l')
    (courteous : l'.IsCourteous s t inv) :
    ∃ m', Run.onMap t step m = (.ok (), m') ∧ m.Turns t l' m' ∧ Settled s t inv l' m' := by
  obtain ⟨table, held, -, -⟩ := h.shows
  rw [Machine.table_of_map? held] at sound shown
  exact ⟨_, Machine.onMap_run held step, ⟨_, shown, rfl⟩,
    ⟨_, Machine.map?_setMap held _, sound, shown⟩, turns _ _ h.holds, courteous⟩

theorem Settled.remove (h : Settled s t inv l m) (key : String) :
    ∃ m', Run.onMap t (·.remove key) m = (.ok (), m') ∧ m.Turns t (l.without key) m' ∧
      Settled s t inv (l.without key) m' := by
  obtain ⟨sound, rfl⟩ := h.shows.sound
  exact h.onMap turns (·.remove key) (sound.remove key) (sound.aged_remove key)
    (h.courteous.of_policies rfl rfl)

/-- A key that is there is used. -/
theorem Settled.use (h : Settled s t inv l m) (held : l.find? key = some cell) :
    ∃ m', Run.onMap t (·.touchIfAccessed key) m = (.ok (), m') ∧ m.Turns t (l.use key) m' ∧
      Settled s t inv (l.use key) m' := by
  obtain ⟨sound, rfl⟩ := h.shows.sound
  obtain ⟨entry, found, -⟩ := sound.get?_eq_some held
  exact h.onMap turns (·.touchIfAccessed key) (sound.touchIfAccessed key)
    (sound.aged_touchIfAccessed found)
    (h.courteous.of_policies (AgedList.miss_use _ key) (AgedList.removal_use _ key))

theorem Table.evict_settles (h : Settled s t inv l m) :
    ∃ dropped l' m', Table.evict s t m = (.ok (), m') ∧ Settles s t l m dropped l' m' ∧
      Settled s t inv l' m' := by
  obtain ⟨sound, aged⟩ := h.shows.sound
  have candidate := sound.candidate?_eq
  rw [aged] at candidate
  unfold Table.evict
  rw [bind_run, askHeap_run]
  cases question : l.question? with
  | none =>
    rw [question] at candidate
    refine ⟨none, l, m, ?_, .unasked question, h⟩
    simp only [candidate, Option.map_none]
    rfl
  | some asked =>
    obtain ⟨policy, key, cell⟩ := asked
    rw [question, Option.map_some] at candidate
    obtain ⟨verdict, m₁, run, kept, same⟩ :=
        h.courteous.removal policy (AgedList.of_question? question).1 key cell m
          h.holds
    have after : Settled s t inv l m₁ := ⟨h.shows.of_map? same, kept, h.courteous⟩
    simp only [candidate, bind_run, pure_run, run]
    cases verdict with
    | false => exact ⟨none, l, m₁, rfl, .kept question run, after⟩
    | true =>
      obtain ⟨m', gone, turned, settled⟩ := after.remove turns key
      exact ⟨some key, _, m', gone, .dropped question run turned, settled⟩

/-- A new key is added, and then the removal policy has its say. -/
theorem Table.insert_settles (h : Settled s t inv l m) (absent : l.find? key = none)
    (cell : CellRef) :
    ∃ dropped l' m₁ m', (Run.onMap t (·.append key cell) >>= fun _ => Table.evict s t)
      m = (.ok (), m') ∧
      m.Turns t (l.add key cell) m₁ ∧ Settles s t (l.add key cell) m₁ dropped l' m' ∧
      Settled s t inv l' m' := by
  obtain ⟨sound, rfl⟩ := h.shows.sound
  have new := sound.get?_eq_none absent
  obtain ⟨m₁, added, turned, after⟩ :=
      h.onMap turns (·.append key cell) (sound.append new cell) (sound.aged_append new cell)
        (h.courteous.of_policies rfl rfl)
  obtain ⟨dropped, l', m', run, settles, settled⟩ := Table.evict_settles turns after
  refine ⟨dropped, l', m₁, m', ?_, turned, settles, settled⟩
  rw [bind_run, added]
  exact run

theorem Table.put_follows (h : Settled s t inv l m) (key : String) (cell : CellRef) :
    ∃ o l' m', (MapRequest.put key cell).perform s t m = (.ok o.reply, m') ∧
      Follows s t l m (.put key cell) o l' m' ∧ Settled s t inv l' m' := by
  obtain ⟨sound, aged⟩ := h.shows.sound
  rw [MapRequest.perform, bind_run]
  cases held : l.find? key with
  | none =>
    have absent := sound.get?_eq_none (aged ▸ held)
    obtain ⟨dropped, l', m₁, m', run, turned, settles, settled⟩ :=
        Table.insert_settles turns h held cell
    refine ⟨⟨.done, some key, dropped⟩, l', m', ?_, .putNew held turned settles, settled⟩
    rw [Table.put_run_new absent, run]
    rfl
  | some old =>
    obtain ⟨entry, found, -⟩ := sound.get?_eq_some (aged ▸ held)
    have written : ((m.heap.table t).replace key entry cell).aged = l.write key cell :=
      aged ▸ sound.aged_replace found cell
    obtain ⟨m', run, turned, settled⟩ :=
        h.onMap turns (·.replace key entry cell) (sound.replace found cell) written
          (h.courteous.of_policies (AgedList.miss_use _ key) (AgedList.removal_use _ key))
    refine ⟨⟨.done, l.renewed key, none⟩, _, m', ?_, .putHeld held turned, settled⟩
    rw [Table.put_run_held found, run]
    rfl

theorem Table.getOrCreate_follows (h : Settled s t inv l m) (key : String) :
    ∃ o l' m', (MapRequest.getOrCreate key).perform s t m = (.ok o.reply, m') ∧
      Follows s t l m (.getOrCreate key) o l' m' ∧ Settled s t inv l' m' := by
  have peek := h.shows.peek_eq key
  rw [MapRequest.perform, bind_run]
  cases held : l.find? key with
  | some cell =>
    obtain ⟨m', run, turned, settled⟩ := h.use turns held
    refine ⟨⟨.cell cell, l.renewed key, none⟩, _, m', ?_, .hit held turned, settled⟩
    rw [Table.getOrCreate_run_hit (peek.trans held), bind_run, run]
    rfl
  | none =>
    obtain ⟨cell, m₁, made, kept, same⟩ := h.courteous.miss key m h.holds
    have after : Settled s t inv l m₁ := ⟨h.shows.of_map? same, kept, h.courteous⟩
    have absent : (m₁.heap.table t).peek key = none := (after.shows.peek_eq key).trans held
    have policy : (m.heap.table t).miss = l.miss := by
      obtain ⟨-, rfl⟩ := h.shows.sound
      rfl
    obtain ⟨dropped, l', m₂, m', run, turned, settles, settled⟩ :=
        Table.insert_settles turns after held cell
    refine ⟨⟨.cell cell, some key, dropped⟩, l', m', ?_, .miss held made turned settles, settled⟩
    rw [Table.getOrCreate_run_miss (peek.trans held), policy, bind_run, made]
    dsimp only
    rw [bind_run, askHeap_run]
    simp only [absent]
    rw [← bind_assoc, bind_run, run]
    rfl

/-- Every request follows the rules, and the rules hold again afterwards. -/
theorem MapRequest.follows (h : Settled s t inv l m) {request : MapRequest}
    (polite : request.IsCourteous s t inv) :
    ∃ o l' m', request.perform s t m = (.ok o.reply, m') ∧ Follows s t l m request o l' m' ∧
      Settled s t inv l' m' := by
  obtain ⟨sound, rfl⟩ := h.shows.sound
  cases request with
  | ask question =>
    refine ⟨_, _, m, ?_, .ask question, h⟩
    rw [perform, askHeap_run, sound.answer_eq]
  | put key cell => exact Table.put_follows turns h key cell
  | getOrCreate key => exact Table.getOrCreate_follows turns h key
  | lookup key =>
    have peek := h.shows.peek_eq key
    rw [perform, bind_run, Table.lookup_run, peek]
    cases held : (m.heap.table t).aged.find? key with
    | none => exact ⟨_, _, m, rfl, .lookupMiss held, h⟩
    | some cell =>
      obtain ⟨m', run, turned, settled⟩ := h.use turns held
      refine ⟨_, _, m', ?_, .lookupHit held turned, settled⟩
      dsimp only
      rw [bind_run, run]
      rfl
  | remove key =>
    obtain ⟨m', run, turned, settled⟩ := h.remove turns key
    refine ⟨_, _, m', ?_, .remove key turned, settled⟩
    rw [perform, bind_run, askHeap_run]
    dsimp only
    rw [bind_run, run, h.shows.peek_eq]
    rfl
  | clear =>
    obtain ⟨m', run, turned, settled⟩ :=
        h.onMap turns (·.clear) .clear rfl (h.courteous.of_policies rfl rfl)
    refine ⟨_, _, m', ?_, .clear turned, settled⟩
    rw [perform, bind_run, run]
    rfl
  | setMiss miss =>
    obtain ⟨m', run, turned, settled⟩ :=
        h.onMap turns ({ · with miss }) (sound.of_entries rfl rfl rfl) rfl
          ⟨polite, h.courteous.removal⟩
    refine ⟨_, _, m', ?_, .setMiss miss turned, settled⟩
    rw [perform, bind_run, run]
    rfl
  | setRemoval removal =>
    obtain ⟨m', run, turned, settled⟩ :=
        h.onMap turns ({ · with removal }) (sound.of_entries rfl rfl rfl) rfl
          ⟨h.courteous.miss, polite⟩
    refine ⟨_, _, m', ?_, .setRemoval removal turned, settled⟩
    rw [perform, bind_run, run]
    rfl
  | setCapacity capacity =>
    obtain ⟨m', run, turned, settled⟩ :=
        h.onMap turns ({ · with capacity }) (sound.of_entries rfl rfl rfl) rfl
          (h.courteous.of_policies rfl rfl)
    refine ⟨_, _, m', ?_, .setCapacity capacity turned, settled⟩
    rw [perform, bind_run, run]
    rfl

end Requests

end CellScript
