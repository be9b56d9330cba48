import CellScript.Diagnostics
import CellScript.Proofs.Chronicle.Event
import CellScript.Proofs.Map.Entries
import Mathlib.Algebra.GroupWithZero.Nat

/-!
# Counts of calls

A profile counts every call twice: under its name and under the place where it is made. All counts
of one kind make up the number of calls.

## Main definitions

* `Profiler.callsOf`, `Profiler.callsAt` — the calls of a name, and those from a place.
* `Profiler.byNames`, `Profiler.byLines` — the calls of all names, and those from all places.
* `Profiler.count` — the profile after some calls.

## Main statements

* `Profiler.callsOf_count`, `Profiler.callsAt_count` — every call is counted once under its name and
  once at its place.
* `Profiler.byNames_count`, `Profiler.byLines_count` — so that both kinds of counts make up the same
  number.
-/

namespace CellScript

namespace Dictionary

variable {α : Type} {es : List (String × α)}

/-- What the entries add up to, when one of them is put in. -/
theorem sum_insertInto (name : String) (value : α) (f : α → Nat) (sorted : AreSorted es) :
    ((insertInto name value es).map (f ·.2)).sum + ((find? name es).map f).getD 0 =
    (es.map (f ·.2)).sum + f value := by
  induction es with
  | nil => simp [insertInto, find?]
  | cons entry rest ih =>
    obtain ⟨key, old⟩ := entry
    obtain ⟨first, rest_sorted⟩ := List.pairwise_cons.mp sorted
    rw [insertInto, find?_cons]
    split
    case isTrue same =>
      simp only [List.map_cons, List.sum_cons, Option.map_some, Option.getD_some]
      omega
    case isFalse apart =>
      split
      case isTrue before =>
        have later : find? name rest = none :=
          find?_eq_none_of_forall fun entry h =>
            (String.ne_of_lt (String.lt_trans before (first entry h))).symm
        simp only [later, List.map_cons, List.sum_cons, Option.map_none, Option.getD_none]
        omega
      case isFalse =>
        have := ih rest_sorted
        simp only [List.map_cons, List.sum_cons]
        omega

end Dictionary

namespace Profiler

/-- The calls of a name. -/
def callsOf (p : Profiler) (name : String) : Nat :=
  ((p.byName.get? name).map (·.calls)).getD 0

/-- The calls from a place. -/
def callsAt (p : Profiler) (site : Option String × UInt32) : Nat :=
  ((p.byLine.filter (·.1 = site)).map (·.2.calls)).sum

/-- The calls of all names. -/
def byNames (p : Profiler) : Nat :=
  (p.entries.map (·.2.calls)).sum

/-- The calls from all places. -/
def byLines (p : Profiler) : Nat :=
  (p.byLine.map (·.2.calls)).sum

/-- The profile after some calls. -/
def count (p : Profiler) (calls : List Call) : Profiler :=
  calls.foldl (fun p c => p.record c.name c.source c.line 0) p

variable {p : Profiler} {name : String} {source : Option String} {line : UInt32} {time : Nat}

theorem callsOf_record (p : Profiler) (name other : String) :
    (p.record name source line time).callsOf other = p.callsOf other + if name = other then 1
      else 0 := by
  unfold callsOf record
  split
  case isTrue same =>
    subst same
    rw [Dictionary.get?_insert_self]
    cases p.byName.get? name <;> simp [CallStat.add]
  case isFalse apart => rw [Dictionary.get?_insert_of_ne _ apart, Nat.add_zero]

/-- One more call from some place, as far as places are concerned that are among some. -/
theorem sum_recordSite (among : Option String × UInt32 → Bool) (site : Option String × UInt32)
    (counts : List ((Option String × UInt32) × CallStat)) :
    (((recordSite site time counts).filter (among ·.1)).map (·.2.calls)).sum =
      ((counts.filter (among ·.1)).map (·.2.calls)).sum + if among site then 1 else 0 := by
  induction counts with
  | nil => cases h : among site <;> simp [recordSite, h]
  | cons entry rest ih =>
    obtain ⟨other, stat⟩ := entry
    rw [recordSite]
    split
    case isTrue same =>
      subst same
      cases h : among other <;> simp [h, CallStat.add]
      omega
    case isFalse =>
      split
      · cases h : among site <;> simp [h]
        omega
      · cases h : among other <;>
          simp only [h, List.filter_cons, Bool.false_eq_true, if_false, if_true, ih, List.map_cons,
            List.sum_cons]
        omega

theorem callsAt_record (p : Profiler) (name : String) (site : Option String × UInt32) :
    (p.record name source line time).callsAt site = p.callsAt site + if (source, line) = site then 1
      else 0 := by
  simpa only [callsAt, record, decide_eq_true_eq] using sum_recordSite (· = site) (source, line)
    p.byLine

theorem byLines_record (p : Profiler) :
    (p.record name source line time).byLines = p.byLines + 1 := by
  have all (counts : List ((Option String × UInt32) × CallStat)) :
      counts.filter (fun _ => true) = counts :=
    List.filter_eq_self.mpr fun _ _ => rfl
  simpa only [byLines, record, all, if_true] using sum_recordSite (fun _ => true) (source, line)
    p.byLine

/-- The order in which the counts are shown makes no difference to their sum. -/
theorem byNames_eq (p : Profiler) : p.byNames = (p.byName.entries.map (·.2.calls)).sum :=
  ((List.mergeSort_perm _ _).map _).sum_nat

theorem byNames_record (sorted : p.byName.IsSorted) :
    (p.record name source line time).byNames = p.byNames + 1 := by
  have sum :=
    Dictionary.sum_insertInto name (((p.byName.get? name).getD ⟨0, 0⟩).add time) CallStat.calls
      sorted
  rw [byNames_eq, byNames_eq]
  change (((Dictionary.insertInto ..).map _).sum) = _
  revert sum
  unfold Dictionary.get?
  cases Dictionary.find? name p.byName.entries <;>
  · simp only [Option.map_none, Option.map_some, Option.getD_none, Option.getD_some, CallStat.add]
    omega

theorem sorted_count (sorted : p.byName.IsSorted) (calls : List Call) :
    (p.count calls).byName.IsSorted := by
  induction calls generalizing p with
  | nil => exact sorted
  | cons c calls ih => exact ih (p := p.record c.name c.source c.line 0) (sorted.insert _ _)

/-- What one call adds one to, if it is such a call, grows by the number of such calls. -/
theorem measure_count (f : Profiler → Nat) (such : Call → Bool)
    (step : ∀ (p : Profiler) (c : Call), f (p.record c.name c.source c.line 0) =
      f p + if such c then 1 else 0)
    (p : Profiler) (calls : List Call) : f (p.count calls) = f p + calls.countP such := by
  induction calls generalizing p with
  | nil => rfl
  | cons c calls ih =>
    change f ((p.record c.name c.source c.line 0).count calls) = _
    rw [ih, step, List.countP_cons, Nat.add_assoc, Nat.add_comm (List.countP _ _)]

/-- Every call is counted once under its name. -/
theorem callsOf_count (p : Profiler) (calls : List Call) (name : String) :
    (p.count calls).callsOf name = p.callsOf name + calls.countP (·.name = name) :=
  measure_count (callsOf · name) _ (fun p c => by simp [callsOf_record]) p calls

/-- Every call is counted once at its place. -/
theorem callsAt_count (p : Profiler) (calls : List Call) (site : Option String × UInt32) :
    (p.count calls).callsAt site = p.callsAt site + calls.countP fun c =>
      (c.source, c.line) = site :=
  measure_count (callsAt · site) _ (fun p c => by simp [callsAt_record]) p calls

theorem byLines_count (p : Profiler) (calls : List Call) :
    (p.count calls).byLines = p.byLines + calls.length := by
  rw [measure_count byLines (fun _ => true) (fun p c => by simp [byLines_record]), List.countP_true]

theorem byNames_count (sorted : p.byName.IsSorted) (calls : List Call) :
    (p.count calls).byNames = p.byNames + calls.length := by
  induction calls generalizing p with
  | nil => rfl
  | cons c calls ih =>
    change ((p.record c.name c.source c.line 0).count calls).byNames = _
    rw [ih (sorted.insert _ _), byNames_record sorted, List.length_cons]
    omega

end Profiler

end CellScript
