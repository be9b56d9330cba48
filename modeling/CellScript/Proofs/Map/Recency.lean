import CellScript.Proofs.Map.Follow

/-!
# Bounded maps drop what was used the longest time ago

A run of requests follows the rules of the list. Two things come of it for a map that was empty.
With a removal policy that always agrees the map never has more entries than its capacity. And
whatever the policies are, the keys stand in the order in which they were last used or inserted, so
the entry that is dropped is the one for which that is longest ago.

## Main definitions

* `Trail` — a run of requests by the rules.
* `Staler` — one key was used after the last use of another.
* `RemovalPolicy.AlwaysDrops` — a policy that only ever agrees.

## Main statements

* `Trail.bounded` — a map stays within its capacity.
* `Trail.staler` — keys stand in the order of their last use, and the dropped key stood before all
  others.
* `MapRequest.run_follows_list` — runs of requests follow the rules, with both consequences.
-/

namespace CellScript

open Run

variable {s : Reentry} {t : TableRef} {inv : Machine → Prop} {m m' : Machine} {l l' : AgedList}
  {key other : String} {cell : CellRef} {dropped : Option String} {request : MapRequest}
  {o : Outcome} {requests : List MapRequest} {outcomes : List Outcome} {n : Nat}

/-- A run of requests by the rules. -/
inductive Trail (s : Reentry) (t : TableRef) :
    AgedList → Machine → List MapRequest → List Outcome → AgedList → Machine → Prop
  | done (l : AgedList) (m : Machine) : Trail s t l m [] [] l m
  | next {l l₁ l' : AgedList} {m m₁ m' : Machine} {request : MapRequest} {o : Outcome}
    {requests : List MapRequest} {outcomes : List Outcome} (first : Follows s t l m request o l₁ m₁)
    (rest : Trail s t l₁ m₁ requests outcomes l' m') :
    Trail s t l m (request :: requests) (o :: outcomes) l' m'

namespace MapRequest

/-- Serve requests one after the other. -/
def performAll (s : Reentry) (t : TableRef) (requests : List MapRequest) : Run (List MapReply) :=
  requests.mapM (perform s t)

theorem trail (turns : ∀ m table, inv m → inv (m.setMap t table)) (h : Settled s t inv l m)
    (polite : ∀ request ∈ requests, request.IsCourteous s t inv) :
    ∃ outcomes l' m', performAll s t requests m = (.ok (outcomes.map (·.reply)), m') ∧
      Trail s t l m requests outcomes l' m' ∧ Settled s t inv l' m' := by
  induction requests generalizing l m with
  | nil => exact ⟨[], l, m, rfl, .done l m, h⟩
  | cons request requests ih =>
    obtain ⟨o, l₁, m₁, run, follows, settled⟩ := follows turns h (polite request List.mem_cons_self)
    obtain ⟨outcomes, l', m', rest, trail, settled'⟩ :=
        ih settled fun r hr => polite r (List.mem_cons_of_mem _ hr)
    refine ⟨o :: outcomes, l', m', ?_, .next follows trail, settled'⟩
    rw [performAll] at rest ⊢
    rw [List.mapM_cons, bind_run, run]
    dsimp only
    rw [bind_run, rest]
    rfl

end MapRequest

/-! ## Keys -/

namespace AgedList

theorem mem_keys_of_find? (held : l.find? key = some cell) : key ∈ l.keys :=
  List.mem_map.mpr ⟨_, Dictionary.mem_of_find? held, rfl⟩

theorem not_mem_keys (absent : l.find? key = none) : key ∉ l.keys := by
  intro there
  obtain ⟨⟨_, cell⟩, held, rfl⟩ := List.mem_map.mp there
  exact Dictionary.not_mem_of_find?_eq_none absent held

@[simp] theorem keys_add (l : AgedList) (key : String) (cell : CellRef) :
    (l.add key cell).keys = l.keys ++ [key] := by
  simp [keys, add]

@[simp] theorem keys_without (l : AgedList) (key : String) :
    (l.without key).keys = l.keys.filter (· != key) := by
  simp only [keys, without, List.filter_map]
  rfl

@[simp] theorem keys_overwrite (l : AgedList) (key : String) (cell : CellRef) :
    (l.overwrite key cell).keys = l.keys := by
  simp only [keys, overwrite, List.map_map]
  refine List.map_congr_left fun item _ => ?_
  by_cases same : item.1 = key <;> simp [same]

/-- The keys after one of them was used. -/
def keysAfter (l : AgedList) : Option String → List String
  | none => l.keys
  | some key => l.keys.filter (· != key) ++ [key]

theorem keys_use (held : l.find? key = some cell) :
    (l.use key).keys = l.keysAfter (l.renewed key) := by
  cases mode : l.mode with
  | insertion =>
    rw [use_of_insertion mode]
    simp only [renewed, mode, keysAfter]
  | access =>
    rw [use_of_access mode held, keys_add, keys_without]
    simp only [renewed, mode, keysAfter]

theorem keys_write (held : l.find? key = some cell) (new : CellRef) :
    (l.write key new).keys = l.keysAfter (l.renewed key) := by
  rw [write, keys_use (find?_overwrite_self held new)]
  cases mode : l.mode <;> simp [renewed, overwrite, mode, keysAfter, ← keys_overwrite l key new]

theorem keys_add_new (absent : l.find? key = none) (cell : CellRef) :
    (l.add key cell).keys = l.keysAfter (some key) := by
  rw [keys_add, keysAfter, List.filter_eq_self.mpr]
  rintro other there
  rw [bne_iff_ne]
  rintro rfl
  exact not_mem_keys absent there

@[simp] theorem capacity_use (l : AgedList) (key : String) : (l.use key).capacity = l.capacity := by
  unfold use
  split <;> rfl

theorem length_keys (l : AgedList) : l.keys.length = l.items.length :=
  List.length_map _

/-- To use a key that is there makes the list no longer. -/
theorem length_keysAfter_renewed (held : l.find? key = some cell) :
    (l.keysAfter (l.renewed key)).length ≤ l.items.length := by
  rw [← length_keys]
  cases mode : l.mode with
  | insertion => simp [renewed, mode, keysAfter]
  | access =>
    have shorter : (l.keys.filter (· != key)).length < l.keys.length :=
      List.length_filter_lt_length_iff_exists.mpr ⟨key, mem_keys_of_find? held, by simp⟩
    simp only [renewed, mode, keysAfter, List.length_append, List.length_singleton]
    exact shorter

end AgedList

/-- After an insertion at most the eldest key is dropped. -/
theorem Settles.keys (h : Settles s t l m dropped l' m') :
    (dropped.toList ++ l'.keys).Sublist l.keys := by
  cases h with
  | unasked => exact .refl _
  | kept => exact .refl _
  | dropped question =>
    obtain ⟨-, rest, items⟩ := AgedList.of_question? question
    rw [Option.toList_some, List.singleton_append, AgedList.keys_without, AgedList.keys,
      items, List.map_cons, List.filter_cons_of_neg (by simp)]
    exact .cons_cons _ List.filter_sublist

/-- What a request does to the keys: it makes one the youngest or none, and drops at most the
eldest. -/
theorem Follows.keys (h : Follows s t l m request o l' m') :
    (o.dropped.toList ++ l'.keys).Sublist (l.keysAfter o.renewed) := by
  cases h with
  | ask => exact .refl _
  | putNew absent added settled => exact AgedList.keys_add_new absent _ ▸ settled.keys
  | putHeld held => exact AgedList.keys_write held _ ▸ .refl _
  | hit held => exact AgedList.keys_use held ▸ .refl _
  | miss absent made added settled => exact AgedList.keys_add_new absent _ ▸ settled.keys
  | lookupHit held => exact AgedList.keys_use held ▸ .refl _
  | lookupMiss => exact .refl _
  | remove key => exact AgedList.keys_without l key ▸ List.filter_sublist
  | clear => exact List.nil_sublist _
  | setMiss | setRemoval | setCapacity => exact .refl _

/-! ## Capacity -/

theorem Settles.capacity (h : Settles s t l m dropped l' m') : l'.capacity = l.capacity := by
  cases h <;> rfl

/-- A policy that agrees whenever it comes to an answer. -/
def RemovalPolicy.AlwaysDrops (s : Reentry) (t : TableRef) (policy : RemovalPolicy) : Prop :=
  ∀ key cell m verdict m', policy.verdict s t key cell m = (.ok verdict, m') → verdict = true

/-- At most `n` entries, which is the capacity, and a removal policy that always agrees. -/
structure AgedList.IsBounded (s : Reentry) (t : TableRef) (n : Nat) (l : AgedList) : Prop where
  capacity : l.capacity = some n
  removal : ∃ policy, l.removal = some policy ∧ policy.AlwaysDrops s t

/-- Whether a request changes when entries are dropped. -/
def MapRequest.setsBound : MapRequest → Bool
  | .setRemoval _ | .setCapacity _ => true
  | _ => false

/-- The insertion of one entry into a list within its capacity leaves it within its capacity. -/
theorem Settles.within (h : Settles s t l m dropped l' m') (bound : l.IsBounded s t n)
    (size : l.items.length ≤ n + 1) : l'.items.length ≤ n := by
  obtain ⟨policy, removal, always⟩ := bound.removal
  cases h with
  | unasked question =>
    unfold AgedList.question? at question
    rw [removal, bound.capacity] at question
    cases items : l.items with
    | nil => exact Nat.zero_le n
    | cons item rest =>
      rw [items, Option.any_some] at question
      dsimp only at question
      split at question
      case isTrue fits => exact of_decide_eq_true fits
      case isFalse => cases question
  | kept question verdict =>
    obtain ⟨same, -⟩ := AgedList.of_question? question
    rw [removal] at same
    cases same
    cases always _ _ _ _ _ verdict
  | dropped question =>
    obtain ⟨-, rest, items⟩ := AgedList.of_question? question
    rw [items, List.length_cons] at size
    rw [AgedList.without, items, List.filter_cons_of_neg (by simp)]
    exact Nat.le_trans (List.length_filter_le _ _) (Nat.le_of_succ_le_succ size)

/-- A request that leaves the bound as it is keeps a list within it. -/
theorem Follows.within (h : Follows s t l m request o l' m') (fixed : request.setsBound = false)
    (bound : l.IsBounded s t n) (size : l.items.length ≤ n) :
    l'.IsBounded s t n ∧ l'.items.length ≤ n := by
  have unchanged {l' : AgedList} (capacity : l'.capacity = l.capacity)
    (removal : l'.removal = l.removal) :
      l'.IsBounded s t n := ⟨capacity ▸ bound.capacity, removal ▸ bound.removal⟩
  have renewed (key : String) (cell : CellRef) (held : l.find? key = some cell) (l' : AgedList)
      (keys : l'.keys = l.keysAfter (l.renewed key)) : l'.items.length ≤ n := by
    rw [← l'.length_keys, keys]
    exact Nat.le_trans (AgedList.length_keysAfter_renewed held) size
  have longer (key : String) (cell : CellRef) : (l.add key cell).items.length ≤ n + 1 := by
    simpa [AgedList.add] using size
  cases h with
  | ask | lookupMiss => exact ⟨bound, size⟩
  | putNew _ _ settled | miss _ _ _ settled =>
    exact ⟨unchanged settled.capacity settled.policies.2,
      settled.within (unchanged rfl rfl) (longer _ _)⟩
  | putHeld held =>
    exact ⟨unchanged (AgedList.capacity_use _ _) (AgedList.removal_use _ _),
      renewed _ _ held _ (AgedList.keys_write held _)⟩
  | hit held | lookupHit held =>
    exact ⟨unchanged (AgedList.capacity_use _ _) (AgedList.removal_use _ _),
      renewed _ _ held _ (AgedList.keys_use held)⟩
  | remove => exact ⟨unchanged rfl rfl, Nat.le_trans (List.length_filter_le _ _) size⟩
  | clear => exact ⟨unchanged rfl rfl, Nat.zero_le n⟩
  | setMiss => exact ⟨unchanged rfl rfl, size⟩
  | setRemoval | setCapacity => cases fixed

theorem Trail.bounded (h : Trail s t l m requests outcomes l' m')
    (fixed : ∀ request ∈ requests, request.setsBound = false) (bound : l.IsBounded s t n)
    (size : l.items.length ≤ n) : l'.items.length ≤ n := by
  induction h with
  | done => exact size
  | next first rest ih =>
    obtain ⟨bound', size'⟩ := first.within (fixed _ List.mem_cons_self) bound size
    exact ih (fun r hr => fixed r (List.mem_cons_of_mem _ hr)) bound' size'

/-! ## Recency -/

/-- A recent part of the log has `other`, but not `key`: it was used, and `key` was not used
since. -/
def Staler (log : List String) (key other : String) : Prop :=
  ∃ recent, recent <:+ log ∧ other ∈ recent ∧ key ∉ recent

/-- The keys that a run made the youngest, one after the other. -/
def renewals (outcomes : List Outcome) : List String :=
  outcomes.filterMap (·.renewed)

/-- The keys stand in the order of their last renewal. -/
def AgedList.IsByAge (log : List String) (l : AgedList) : Prop :=
  l.keys.Pairwise (Staler log)

theorem Staler.snoc {log : List String} (h : Staler log key other) {youngest : String}
    (apart : key ≠ youngest) :
    Staler (log ++ [youngest]) key other := by
  obtain ⟨recent, ⟨before, rfl⟩, used, unused⟩ := h
  refine ⟨recent ++ [youngest], ⟨before, by rw [List.append_assoc]⟩, List.mem_append_left _ used,
    ?_⟩
  rw [List.mem_append, List.mem_singleton]
  exact fun there => there.elim unused apart

/-- The key that is renewed is less stale than all others. -/
theorem AgedList.pairwise_keysAfter {log : List String} (h : l.IsByAge log)
    (renewed : Option String) :
    (l.keysAfter renewed).Pairwise (Staler (log ++ renewed.toList)) := by
  cases renewed with
  | none => rwa [Option.toList_none, List.append_nil]
  | some key =>
    have apart : ∀ other ∈ l.keys.filter (· != key), other ≠ key := fun other there =>
      bne_iff_ne.mp (List.mem_filter.mp there).2
    refine List.pairwise_append.mpr
      ⟨?_, List.pairwise_singleton _ _, fun older there youngest new => ?_⟩
    · refine (List.Pairwise.sublist List.filter_sublist h).imp_of_mem fun older _ staler => ?_
      exact staler.snoc (apart _ older)
    · rw [List.mem_singleton.mp new]
      exact ⟨[key], List.suffix_append _ _, List.mem_singleton_self _, by simpa using apart _ there⟩

/-- The keys still stand in the order of their last renewal, and what was dropped stood before all
of them. -/
theorem Follows.byAge {log : List String} (h : Follows s t l m request o l' m')
    (byAge : l.IsByAge log) :
    (o.dropped.toList ++ l'.keys).Pairwise (Staler (log ++ o.renewed.toList)) :=
  (AgedList.pairwise_keysAfter byAge o.renewed).sublist h.keys

theorem Trail.byAge {log : List String} (h : Trail s t l m requests outcomes l' m')
    (byAge : l.IsByAge log) :
    l'.IsByAge (log ++ renewals outcomes) := by
  induction h generalizing log with
  | done => rwa [renewals, List.filterMap_nil, List.append_nil]
  | @next _ _ _ _ _ _ _ o _ outcomes first rest ih =>
    have split : renewals (o :: outcomes) = o.renewed.toList ++ renewals outcomes := by
      cases renewed : o.renewed <;> simp [renewals, renewed]
    rw [split, ← List.append_assoc]
    exact ih (List.pairwise_append.mp (first.byAge byAge)).2.1

theorem Trail.unsnoc {last : Outcome}
    (h : Trail s t l m requests (outcomes ++ [last]) l' m') : ∃ before request l₁ m₁,
      Trail s t l m before outcomes l₁ m₁ ∧ Follows s t l₁ m₁ request last l' m' := by
  induction outcomes generalizing l m requests with
  | nil =>
    cases h with
    | next first rest =>
      cases rest
      exact ⟨[], _, l, m, .done l m, first⟩
  | cons o outcomes ih =>
    cases h with
    | next first rest =>
      obtain ⟨before, request, l₁, m₁, trail, follows⟩ := ih rest
      exact ⟨_ :: before, request, l₁, m₁, .next first trail, follows⟩

/-- The entry that the last request of a run drops was renewed before all that are left. -/
theorem Trail.staler {last : Outcome} (h : Trail s t l m requests (outcomes ++ [last]) l' m')
    (empty : l.items = []) (gone : last.dropped = some key) :
    ∀ other ∈ l'.keys, Staler (renewals (outcomes ++ [last])) key other := by
  obtain ⟨before, request, l₁, m₁, trail, follows⟩ := h.unsnoc
  have start : l.IsByAge [] := by
    rw [AgedList.IsByAge, AgedList.keys, empty]
    exact .nil
  have byAge := follows.byAge (trail.byAge start)
  have log : renewals (outcomes ++ [last]) = [] ++ renewals outcomes ++ last.renewed.toList := by
    cases renewed : last.renewed <;> simp [renewals, renewed]
  rw [gone, ← log] at byAge
  exact (List.pairwise_cons.mp byAge).1

/-- Every run of requests follows the rules of the list, with policies that leave the map alone and
come to an answer, from any state of the map. A map that was empty never has more entries than its
capacity while its removal policy always agrees, and the entry that it drops was used, or inserted,
before all that it keeps. -/
theorem MapRequest.run_follows_list (inv : Machine → Prop) (requests : List MapRequest) (n : Nat)
    (turns : ∀ m table, inv m → inv (m.setMap t table)) (holds : inv m) (shows : m.Shows t l)
    (courteous : l.IsCourteous s t inv)
    (polite : ∀ request ∈ requests, request.IsCourteous s t inv) :
    ∃ outcomes l' m', performAll s t requests m = (.ok (outcomes.map (·.reply)), m') ∧
      Trail s t l m requests outcomes l' m' ∧ m'.Shows t l' ∧
      (l.items = [] → l.IsBounded s t n → (∀ request ∈ requests, request.setsBound = false) →
        l'.items.length ≤ n) ∧
      (l.items = [] → l'.IsByAge (renewals outcomes) ∧
        ∀ earlier last key, outcomes = earlier ++ [last] → last.dropped = some key →
          ∀ other ∈ l'.keys, Staler (renewals outcomes) key other) := by
  obtain ⟨outcomes, l', m', run, trail, settled⟩ := trail turns ⟨shows, holds, courteous⟩ polite
  refine ⟨outcomes, l', m', run, trail, settled.shows, fun empty bound fixed => ?_,
    fun empty => ⟨?_, ?_⟩⟩
  · exact trail.bounded fixed bound (empty ▸ Nat.zero_le n)
  · have start : l.IsByAge [] := by
      rw [AgedList.IsByAge, AgedList.keys, empty]
      exact .nil
    exact trail.byAge start
  · rintro earlier last key rfl gone
    exact trail.staler empty gone

/-- An empty map in access order that keeps two entries. -/
def Table.cache : Table :=
  { Table.empty .access with removal := some .always, capacity := some 2 }

/-- A machine with such a map. -/
def Machine.withCache : Machine :=
  { (default : Machine) with heap := { Heap.empty with tables := #[.cache] } }

/-- An evaluator that has no fuel. -/
def Reentry.idle : Reentry where
  rounds := 0
  block _ _ := throw .exhausted
  call _ _ _ := throw .exhausted
  invoke _ _ _ := throw .exhausted

/-- Two entries, a use of the elder one and a third entry. -/
def cacheRequests : List MapRequest :=
  [.put "a" ⟨0⟩, .put "b" ⟨1⟩, .getOrCreate "a", .put "c" ⟨2⟩]

theorem MapRequest.run_follows_list_withCache :
    ∃ (outcomes : List Outcome) (l' : AgedList) (m' : Machine),
    performAll .idle ⟨0⟩ cacheRequests .withCache = (.ok (outcomes.map (·.reply)), m') ∧
    m'.Shows ⟨0⟩ l' ∧
      l'.items.length ≤ 2 := by
  have always : RemovalPolicy.IsCourteous .idle ⟨0⟩ (fun _ => True) .always := fun _ _ m _ =>
    ⟨true, m, rfl, trivial, rfl⟩
  have drops : RemovalPolicy.AlwaysDrops .idle ⟨0⟩ .always := by
    rintro key cell m verdict m' ⟨⟩
    rfl
  obtain ⟨outcomes, l', m', run, -, shows, bounded, -⟩ :=
    run_follows_list (s := .idle) (m := .withCache) (fun _ => True) cacheRequests 2
      (fun _ _ _ => trivial) trivial
      (l := Table.cache.aged) ⟨.cache, rfl, (Table.sound_empty .access).of_entries rfl rfl rfl, rfl⟩
      ⟨fun _ m _ => ⟨_, _, rfl, trivial, rfl⟩, fun | _, rfl => always⟩
        (by simp [cacheRequests, IsCourteous])
  exact ⟨outcomes, l', m', run, shows,
    bounded rfl ⟨rfl, _, rfl, drops⟩ (by simp [cacheRequests, setsBound])⟩

end CellScript
