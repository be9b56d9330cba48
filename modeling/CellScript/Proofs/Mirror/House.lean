import CellScript.Proofs.Mirror.Request

/-!
# Parties beside each other

The data of the parties in an engine are in different places. Each party alone, in an engine of its
own, is followed by what belongs to it in the engine of all. What is done for one party leaves the
places of the others alone.

## Main definitions

* `others` — the places of all parties but one.
* `Together` — an engine of all parties, and an engine for each.

## Main statements

* `Pool.elsewhere` — what is done for one party leaves the data of another one alike.
* `Together.act` — what is done for a party is done in its own engine and in the engine of all.
* `Together.whole` — all is there that a party can reach.
-/

namespace CellScript.Mirror

open Engine (Deed House Idle)

/-! ## Other places -/

section Places

variable {e : Surroundings} {w v : Links} {kind : Kind} {α : Type} [Paired α]
  {outside as bs cs ds : Array α} {kept kept' : Kind → Nat → Prop} {M M' : Machine}

/-- What is there is outside from now on. -/
theorem Pool.rebase (pool : Pool e w kind outside as bs) : Pool ⟨e.kept, M⟩ w kind bs as bs where
  linked := pool.linked
  apart := pool.apart
  kept outer :=
    have ⟨b, _, now⟩ := pool.kept outer
    ⟨b, now, now⟩

/-- Something was done elsewhere: what this side is linked to was kept there, and is not among what
is kept now. -/
theorem Pool.elsewhere (mine : Pool e w kind outside as bs)
    (theirs : Pool ⟨kept, M⟩ v kind bs cs ds) (away : ∀ {i j}, w.Has kind i j → kept kind j)
    (among : ∀ {j}, kept' kind j → (∃ i, v.Has kind i j) ∨ kept kind j ∧ e.kept kind j) :
    Pool ⟨kept', M'⟩ w kind ds as ds where
  linked h := by
    obtain ⟨a, b, left, right, same⟩ := mine.linked h
    obtain ⟨_, before, now⟩ := theirs.kept (away h)
    obtain rfl := Option.some.inj (right.symm.trans before)
    exact ⟨a, b, left, now, same⟩
  apart h outer := by
    obtain ⟨i, linked⟩ | ⟨-, outer⟩ := among outer
    · exact theirs.apart linked (away h)
    · exact mine.apart h outer
  kept outer := by
    obtain ⟨i, linked⟩ | ⟨outer, -⟩ := among outer
    · obtain ⟨_, b, -, now, -⟩ := theirs.linked linked
      exact ⟨b, now, now⟩
    · obtain ⟨b, -, now⟩ := theirs.kept outer
      exact ⟨b, now, now⟩

theorem Heaps.rebase {h h' : Heap} (heaps : Heaps e w h h') (here : M.heap = h') :
    Heaps ⟨e.kept, M⟩ w h h' := by
  subst here
  exact { heaps with
    cells := heaps.cells.rebase
    sequences :=
      ⟨heaps.sequences.stores.rebase, heaps.sequences.views.rebase, heaps.sequences.older⟩
    tables := heaps.tables.rebase
    objects := heaps.objects.rebase
    functions := heaps.functions.rebase
    vars := heaps.vars.rebase }

theorem Heaps.elsewhere {h h' : Heap} (mine : Heaps e w h M.heap)
    (theirs : Heaps ⟨kept, M⟩ v h' M'.heap) (away : ∀ {kind i j}, w.Has kind i j → kept kind j)
    (among : ∀ {kind j}, kept' kind j → (∃ i, v.Has kind i j) ∨ kept kind j ∧ e.kept kind j) :
    Heaps ⟨kept', M'⟩ w h M'.heap where
  cells := mine.cells.elsewhere theirs.cells away among
  sequences :=
    { stores := mine.sequences.stores.elsewhere theirs.sequences.stores away among
      views := mine.sequences.views.elsewhere theirs.sequences.views away among
      older := fun {_ j} linked => by
        obtain ⟨_, b, -, right, -⟩ := mine.sequences.views.linked linked
        obtain ⟨_, before, now⟩ := theirs.sequences.views.kept (away linked)
        obtain rfl := Option.some.inj (right.symm.trans before)
        have same : M'.heap.sequences.viewAt j = M.heap.sequences.viewAt j := by
          unfold Sequences.viewAt
          rw [Array.getD_eq_getD_getElem?, Array.getD_eq_getD_getElem?, now, right]
        rw [same]
        exact mine.sequences.older linked }
  sound := mine.sound
  tables := mine.tables.elsewhere theirs.tables away among
  objects := mine.objects.elsewhere theirs.objects away among
  functions := mine.functions.elsewhere theirs.functions away among
  vars := mine.vars.elsewhere theirs.vars away among

end Places

/-! ## Parties -/

variable {ι : Type}

/-- The places of all parties but one. -/
def others (w : ι → Links) (t : ι) (kind : Kind) (j : Nat) : Prop :=
  ∃ u, u ≠ t ∧ ∃ i, (w u).Has kind i j

theorem others_update_self [DecidableEq ι] (w : ι → Links) (t : ι) (v : Links) :
    others (Function.update w t v) t = others w t := by
  funext kind j
  refine propext (exists_congr fun u => and_congr_right fun ne => ?_)
  rw [Function.update_of_ne ne]

theorem of_others_update [DecidableEq ι] {w : ι → Links} {t u : ι} {v : Links} {kind : Kind}
    {j : Nat} (outer : others (Function.update w t v) u kind j) :
    (∃ i, v.Has kind i j) ∨ others w t kind j ∧ others w u kind j := by
  obtain ⟨x, apart, i, linked⟩ := outer
  by_cases self : x = t
  · subst self
    rw [Function.update_self] at linked
    exact .inl ⟨i, linked⟩
  · rw [Function.update_of_ne self] at linked
    exact .inr ⟨⟨x, self, i, linked⟩, x, apart, i, linked⟩

/-- An engine of all parties, and an engine for each. What each party has in its own engine is alike
to what it has in the engine of all. No call is in progress, and the host has taken what was written
and what the watchers were told. -/
structure Together (w : ι → Links) (S : ι → House ι) (H : House ι) : Prop where
  engine : ∀ t, (S t).engine = { H.engine with machine := (S t).engine.machine }
  native : H.engine.environment.IsNative
  unshared : H.engine.globals = none
  settled : ∀ t, Settled ⟨others w t, H.engine.machine⟩ (w t) (S t).engine.machine H.engine.machine
  holdings : ∀ t, Alike (w t) ((S t).holdings t) (H.holdings t)
  output : H.engine.machine.console.output = ""
  logs : H.engine.machine.logs = #[[]]
  idle : Idle H.engine.config.maxCallDepth H.engine.machine

namespace Together

variable {w : ι → Links} {S : ι → House ι} {H : House ι} (together : Together w S H) (n : Nat)
  (t : ι) (deed : Deed)

include together

/-- What is done for a party in its own engine and in the engine of all comes to the same. -/
theorem comes : ∃ v, w t ≤ v ∧
    Settled ⟨others w t, H.engine.machine⟩ v ((S t).ended n t deed).2.machine
      (H.ended n t deed).2.machine ∧
      Alike v ((S t).ended n t deed).1 (H.ended n t deed).1 := by
  have := together.holdings t
  exact rests_work (together.engine t) together.native together.unshared n ((S t).holdings t)
    (H.holdings t) deed _ _
    (together.settled t)

/-- The host is told the same. -/
theorem account_eq : (S t).account n t deed = H.account n t deed := by
  obtain ⟨v, -, settled, results⟩ := together.comes n t deed
  have := settled.heap
  have outcome :=
    tellOutcome_eq ((S t).ended n t deed).2.machine.heap (H.ended n t deed).2.machine.heap results
  have output : ((S t).ended n t deed).2.takeOutput.1 = (H.ended n t deed).2.takeOutput.1 :=
    congrArg (·.takeOutput.1) settled.console
  have events :
      (Engine.takeEvents 0 ((S t).ended n t deed).2).1 =
      (Engine.takeEvents 0 (H.ended n t deed).2).1 :=
    congrArg (fun logs => (logs.getD 0 []).reverse) settled.logs
  unfold House.account
  dsimp only
  rw [outcome, output, events]

/-- The host sees the same. -/
theorem look_eq : (S t).look t = H.look t := by
  unfold House.look
  have := together.holdings t
  obtain ⟨left, right⟩ | ⟨s, s', left, right, same⟩ :=
      (inferInstance : Alike (w t) ((S t).holdings t).script (H.holdings t).script).option <;>
        rw [left, right]
  · rfl
  · exact congrArg some ((together.settled t).sight_eq same)

/-- All is there that a party can reach when its script is run. -/
theorem whole {s : ScriptRef} (held : (H.holdings t).script = some s) :
    Whole (H.engine.machine.entered s) := by
  have := together.holdings t
  obtain ⟨-, right⟩ | ⟨s', _, -, right, _⟩ :=
      (inferInstance : Alike (w t) ((S t).holdings t).script (H.holdings t).script).option <;>
        cases held.symm.trans right
  obtain ⟨_, begun⟩ := (together.settled t).entered s' s
  exact ⟨_, _, _, begun⟩

/-- A deed is quiet in the engine of its party when it is quiet in the engine of all. -/
theorem isQuiet_iff : (S t).IsQuiet n t deed ↔ H.IsQuiet n t deed := by
  obtain ⟨v, -, settled, results⟩ := together.comes n t deed
  have ends : ((S t).ended n t deed).1 = .error .exhausted ↔
    (H.ended n t deed).1 = .error .exhausted := by
    obtain ⟨stop, stop', left, right, stopped⟩ | ⟨_, _, left, right, -⟩ :=
        results.except <;> rw [left, right]
    · cases stopped.rel <;> simp
    · simp
  have hosts : ((S t).ended n t deed).2.machine.hosts = (H.ended n t deed).2.machine.hosts :=
    settled.hosts.sameRegistry
  have before : (S t).engine.machine.hosts = H.engine.machine.hosts :=
    (together.settled t).hosts.sameRegistry
  have console : ((S t).ended n t deed).2.machine.console = (H.ended n t deed).2.machine.console :=
    settled.console
  have console' : (S t).engine.machine.console = H.engine.machine.console :=
    (together.settled t).console
  have takes (e : Engine) :
      (Engine.takeOutput e).2.machine.console = e.machine.console.takeOutput.2 := rfl
  have outside : ((S t).ended n t deed).2.machine.outside = (H.ended n t deed).2.machine.outside :=
    settled.outside
  have outside' : (S t).engine.machine.outside = H.engine.machine.outside :=
    (together.settled t).outside
  constructor
  · intro quiet
    have reads := quiet.reads
    rw [takes, takes, console, console'] at reads
    exact ⟨mt ends.mpr quiet.ends, by rw [← hosts, ← before]; exact quiet.imports, reads,
      by
        rw [← outside, ← outside']; exact quiet.asks, by
          rw [← outside, ← outside']; exact quiet.opens⟩
  · intro quiet
    have reads := quiet.reads
    rw [takes, takes, ← console, ← console'] at reads
    exact ⟨mt ends.mp quiet.ends, by rw [hosts, before]; exact quiet.imports, reads,
      by rw [outside, outside']; exact quiet.asks, by rw [outside, outside']; exact quiet.opens⟩

/-! ### What a deed changes for others -/

section Acting

variable [DecidableEq ι] {n t deed} (quiet : H.IsQuiet n t deed)

include quiet

theorem hosts_act : (H.act n t deed).engine.machine.hosts = H.engine.machine.hosts := by
  obtain ⟨v, -, settled, -⟩ := together.comes n t deed
  have same : ((S t).ended n t deed).2.machine.hosts = (H.ended n t deed).2.machine.hosts :=
    settled.hosts.sameRegistry
  have classes : (H.ended n t deed).2.machine.hosts.classes = H.engine.machine.hosts.classes :=
    same ▸ settled.classes
  have aliases :
      (H.ended n t deed).2.machine.hosts.aliases.entries = H.engine.machine.hosts.aliases.entries :=
        quiet.imports
  change (H.ended n t deed).2.machine.hosts = _
  generalize (H.ended n t deed).2.machine.hosts = r, H.engine.machine.hosts = r' at classes aliases
  obtain ⟨_, ⟨_⟩⟩ := r
  obtain ⟨_, ⟨_⟩⟩ := r'
  obtain rfl : _ = _ := classes
  obtain rfl : _ = _ := aliases
  rfl

theorem console_act : (H.act n t deed).engine.machine.console = H.engine.machine.console := by
  have kept : (H.act n t deed).engine.machine.console = H.engine.machine.console.takeOutput.2 :=
    quiet.reads
  rw [kept, Console.takeOutput, ← together.output]

theorem outside_act : (H.act n t deed).engine.machine.outside = H.engine.machine.outside := by
  obtain ⟨v, -, settled, -⟩ := together.comes n t deed
  have system : (H.ended n t deed).2.machine.outside.system = H.engine.machine.outside.system :=
    settled.outside ▸ settled.system
  have requests :
      (H.ended n t deed).2.machine.outside.requests = H.engine.machine.outside.requests :=
        quiet.asks
  have ports : (H.ended n t deed).2.machine.outside.ports = H.engine.machine.outside.ports :=
    quiet.opens
  change (H.ended n t deed).2.machine.outside = _
  generalize (H.ended n t deed).2.machine.outside = r,
    H.engine.machine.outside = r' at system requests ports
  obtain ⟨_, _, _⟩ := r
  obtain ⟨_, _, _⟩ := r'
  obtain rfl : _ = _ := system
  obtain rfl : _ = _ := requests
  obtain rfl : _ = _ := ports
  rfl

omit quiet in
theorem logs_act : (H.act n t deed).engine.machine.logs = #[[]] := by
  obtain ⟨v, -, settled, -⟩ := together.comes n t deed
  have size : (H.ended n t deed).2.machine.logs.size = 1 := by
    rw [← settled.logs, settled.watched, together.logs]
    rfl
  change (H.ended n t deed).2.machine.logs.setIfInBounds 0 [] = _
  generalize (H.ended n t deed).2.machine.logs = logs at size
  obtain ⟨_ | ⟨log, _ | _⟩⟩ := logs
  · cases size
  · rfl
  · simp at size

theorem idle_act :
    Idle (H.act n t deed).engine.config.maxCallDepth (H.act n t deed).engine.machine :=
  (Engine.idle_work together.idle n (H.holdings t) deed quiet.ends).of_same rfl rfl rfl

omit together quiet in
/-- The party is alike to what it is in its own engine. -/
theorem settled_self {v : Links} (settled : Settled ⟨others w t, H.engine.machine⟩ v
    ((S t).ended n t deed).2.machine (H.ended n t deed).2.machine) :
    Settled ⟨others (Function.update w t v) t, (H.act n t deed).engine.machine⟩ v
      ((S t).act n t deed).engine.machine
      (H.act n t deed).engine.machine := by
  rw [others_update_self]
  exact
    { heap := settled.heap.rebase rfl
      scripts := settled.scripts.rebase
      hosts := settled.hosts
      classes := congrArg (·.classes) settled.hosts.sameRegistry
      console := congrArg (·.takeOutput.2) settled.console
      outside := settled.outside
      system := congrArg (·.system) settled.outside
      logs := congrArg (·.setIfInBounds 0 []) settled.logs
      watched := congrArg (fun logs => (logs.setIfInBounds 0 []).size) settled.logs
      activeCalls := settled.activeCalls }

/-- So are all others, for which nothing has happened. -/
theorem settled_other {v : Links} (settled : Settled ⟨others w t, H.engine.machine⟩ v
    ((S t).ended n t deed).2.machine (H.ended n t deed).2.machine) {u : ι} (ne : u ≠ t) :
    Settled ⟨others (Function.update w t v) u, (H.act n t deed).engine.machine⟩ (w u)
      (S u).engine.machine (H.act n t deed).engine.machine := by
  have before := together.settled u
  have hosts := together.hosts_act quiet
  have logs : (H.act n t deed).engine.machine.logs = #[[]] := together.logs_act
  have away {kind : Kind} {i j : Nat} (linked : (w u).Has kind i j) : others w t kind j :=
    ⟨u, ne, i, linked⟩
  exact
    { heap := before.heap.elsewhere settled.heap away of_others_update
      scripts := before.scripts.elsewhere settled.scripts away of_others_update
      hosts := hosts ▸ before.hosts
      classes := before.classes.trans (congrArg (·.classes) hosts).symm
      console := before.console.trans (together.console_act quiet).symm
      outside := before.outside.trans (together.outside_act quiet).symm
      system := before.system.trans (congrArg (·.system) (together.outside_act quiet)).symm
      logs := before.logs.trans (together.logs.trans logs.symm)
      watched := before.watched.trans (congrArg Array.size (together.logs.trans logs.symm))
      activeCalls :=
        before.activeCalls.trans (together.idle.calls.trans (together.idle_act quiet).calls.symm) }

/-- What is done for a party is done in its own engine and in the engine of all. -/
theorem act : ∃ w', Together w' (Function.update S t ((S t).act n t deed)) (H.act n t deed) := by
  obtain ⟨v, le, settled, results⟩ := together.comes n t deed
  refine ⟨Function.update w t v, fun u => ?_, together.native, together.unshared, fun u => ?_,
    fun u => ?_, ?_, together.logs_act, together.idle_act quiet⟩
  · by_cases self : u = t
    · subst self
      rw [Function.update_self]
      exact congrArg (fun e : Engine => { e with machine := ((S u).act n u deed).engine.machine })
        (together.engine u)
    · rw [Function.update_of_ne self]
      exact together.engine u
  · by_cases self : u = t
    · subst self
      rw [Function.update_self, Function.update_self]
      exact settled_self settled
    · rw [Function.update_of_ne self, Function.update_of_ne self]
      exact together.settled_other quiet settled self
  · by_cases self : u = t
    · subst self
      rw [Function.update_self, Function.update_self]
      have held := (together.holdings u).mono le
      change Alike v
        (Function.update (S u).holdings u (((S u).holdings u).after ((S u).ended n u deed).1) u)
        (Function.update H.holdings u ((H.holdings u).after (H.ended n u deed).1) u)
      rw [Function.update_self, Function.update_self]
      infer_instance
    · rw [Function.update_of_ne self, Function.update_of_ne self]
      change Alike (w u) ((S u).holdings u) (Function.update H.holdings t _ u)
      rw [Function.update_of_ne self]
      exact together.holdings u
  · exact (congrArg Console.output (together.console_act quiet)).trans together.output

end Acting

/-! ### Deeds one after another -/

end Together

/-- The deeds for a party. -/
def own [DecidableEq ι] (t : ι) (deeds : List (ι × Deed)) : List (ι × Deed) :=
  deeds.filter (·.1 = t)

section Own

variable [DecidableEq ι] (S : ι → House ι) (n : Nat) (t u : ι) (deed : Deed)
  (rest : List (ι × Deed))

theorem own_cons_self : own t ((t, deed) :: rest) = (t, deed) :: own t rest :=
  List.filter_cons_of_pos (by simp)

theorem own_cons_of_ne {t u : ι} (ne : t ≠ u) : own u ((t, deed) :: rest) = own u rest :=
  List.filter_cons_of_neg (by simpa using ne)

/-- A deed is done in the engine of its party. -/
theorem play_own_cons : (S u).play n (own u ((t, deed) :: rest)) =
    (Function.update S t ((S t).act n t deed) u).play n (own u rest) := by
  by_cases self : u = t
  · subst self
    rw [own_cons_self, Function.update_self]
    rfl
  · rw [own_cons_of_ne deed rest (Ne.symm self), Function.update_of_ne self]

theorem undisturbed_own_cons : (∀ u, (S u).Undisturbed n (own u ((t, deed) :: rest))) ↔
    (S t).IsQuiet n t deed ∧ ∀ u, (Function.update S t ((S t).act n t deed) u).Undisturbed
      n (own u rest) := by
  constructor
  · intro all
    have first := all t
    rw [own_cons_self] at first
    refine ⟨first.1, fun u => ?_⟩
    by_cases self : u = t
    · subst self
      rw [Function.update_self]
      exact first.2
    · rw [Function.update_of_ne self, ← own_cons_of_ne deed rest (Ne.symm self)]
      exact all u
  · rintro ⟨quiet, all⟩ u
    have later := all u
    by_cases self : u = t
    · subst self
      rw [own_cons_self]
      rw [Function.update_self] at later
      exact ⟨quiet, later⟩
    · rw [own_cons_of_ne deed rest (Ne.symm self)]
      rwa [Function.update_of_ne self] at later

end Own

/-! ## The beginning -/

/-- A class whose members give no values with references. -/
def IsPlainClass (c : HostClass) : Bool :=
  (c.constructors ++ c.methods).all (IsPlainBody ·.body) && c.fields.all (IsPlainBody ·.body)

theorem alike_registry {w : Links} {r : HostRegistry}
    (plain : r.classes.entries.all fun entry => IsPlainClass entry.2) :
    Alike w r r := by
  refine ⟨rfl, List.forall₂_same.mpr fun entry among => ⟨rfl, rfl, ?_⟩⟩
  have plain := List.all_eq_true.mp plain entry among
  simp only [IsPlainClass, Bool.and_eq_true, List.all_append, List.all_eq_true] at plain
  obtain ⟨⟨constructors, methods⟩, fields⟩ := plain
  exact ⟨List.forall₂_same.mpr fun m here => ⟨rfl, rfl, constructors m here⟩,
    List.forall₂_same.mpr fun m here => ⟨rfl, rfl, methods m here⟩,
    List.forall₂_same.mpr fun f here => ⟨rfl, rfl, fields f here⟩⟩

instance (w : Links) : Alike w HostRegistry.standard HostRegistry.standard :=
  alike_registry (by decide +kernel)

theorem pool_none {α : Type} [Paired α] {e : Surroundings} (nothing : ∀ kind j, ¬ e.kept kind j)
    (kind : Kind) (outside as bs : Array α) : Pool e .none kind outside as bs :=
  ⟨nofun, nofun, fun outer => (nothing _ _ outer).elim⟩

/-- In the beginning, nobody has anything. -/
theorem together_new (config : EngineConfig) (console : Console) (system : System)
    {environment : Environment} (native : environment.IsNative) :
    Together (fun _ : ι => .none) (fun _ => .new config console environment system)
      (.new config console environment system) where
  engine _ := rfl
  native := native
  unshared := rfl
  settled t := by
    have nothing (kind : Kind) (j : Nat) : ¬ others (fun _ : ι => Links.none) t kind j := nofun
    exact
      { heap :=
          { cells := pool_none nothing ..
            sequences := ⟨pool_none nothing .., pool_none nothing .., nofun⟩
            sound := Sequences.sound_empty
            tables := pool_none nothing ..
            objects := pool_none nothing ..
            functions := pool_none nothing ..
            vars := pool_none nothing .. }
        scripts := pool_none nothing ..
        hosts := (inferInstance : Alike .none HostRegistry.standard .standard)
        classes := rfl
        console := rfl
        outside := rfl
        system := rfl
        logs := rfl
        watched := rfl
        activeCalls := rfl }
  holdings _ := ⟨.none, .nil⟩
  output := rfl
  logs := rfl
  idle := (Engine.Hosted.create config console system).idle.of_same rfl rfl rfl

namespace Together

variable [DecidableEq ι] {w : ι → Links} {S : ι → House ι} {H : House ι} (n : Nat)

theorem play (deeds : List (ι × Deed)) (together : Together w S H) (quiet : H.Undisturbed n deeds) :
    ∃ w', Together w' (fun t => (S t).play n (own t deeds)) (H.play n deeds) := by
  induction deeds generalizing w S H with
  | nil => exact ⟨w, together⟩
  | cons first rest ih =>
    obtain ⟨t, deed⟩ := first
    obtain ⟨w', acted⟩ := together.act quiet.1
    obtain ⟨w'', played⟩ := ih acted quiet.2
    refine ⟨w'', ?_⟩
    simp only [play_own_cons]
    exact played

/-- The host is told the same of deeds for a party. -/
theorem accounts_eq (deeds : List (ι × Deed)) (together : Together w S H)
    (quiet : H.Undisturbed n deeds) (t : ι) :
    (H.accounts n deeds).filter (·.1 = t) = (S t).accounts n (own t deeds) := by
  induction deeds generalizing w S H with
  | nil => rfl
  | cons first rest ih =>
    obtain ⟨u, deed⟩ := first
    obtain ⟨w', acted⟩ := together.act quiet.1
    have later := ih acted quiet.2
    by_cases self : u = t
    · subst self
      rw [Function.update_self] at later
      rw [own_cons_self, House.accounts, House.accounts, List.filter_cons_of_pos (by simp),
        later, together.account_eq]
    · rw [Function.update_of_ne (Ne.symm self)] at later
      rw [own_cons_of_ne deed rest self, House.accounts,
        List.filter_cons_of_neg (by simpa using self), later]

/-- Deeds are quiet when those for each party are quiet in its own engine. -/
theorem undisturbed_iff (deeds : List (ι × Deed)) (together : Together w S H) :
    (∀ t, (S t).Undisturbed n (own t deeds)) ↔ H.Undisturbed n deeds := by
  induction deeds generalizing w S H with
  | nil => exact ⟨fun _ => trivial, fun _ _ => trivial⟩
  | cons first rest ih =>
    obtain ⟨t, deed⟩ := first
    rw [undisturbed_own_cons, together.isQuiet_iff]
    refine and_congr_right fun quiet => ?_
    obtain ⟨w', acted⟩ := together.act quiet
    exact ih acted

end Together

end CellScript.Mirror
