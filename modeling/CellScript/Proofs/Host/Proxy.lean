import CellScript.Machine.HostCall

/-!
# Conversions that make proxies

The only thing that conversion to the host does to the heap is to make proxies of functions.
`Marshal.Wraps` is a class, and a conversion makes proxies only when instances for its parts are
found.

## Main definitions

* `Heap.Proxied` — the same heap with more proxies.
* `Marshal.Wraps` — conversions that make proxies.

## Main statements

* `wraps_toHost` — conversion for a declared type.
* `toHost_function` — the conversion that makes a proxy.
-/

namespace CellScript

namespace Heap

variable {h h' h'' : Heap}

/-- The heap with one more proxy. -/
def withProxy (h : Heap) (f : FunctionRef) (interface : String) : Heap :=
  { h with objects := h.objects.push (.proxy f interface) }

@[simp]
theorem object_size_withProxy (h : Heap) (f : FunctionRef) (interface : String) :
    (h.withProxy f interface).object ⟨h.objects.size⟩ = .proxy f interface := by
  simp [Heap.object, withProxy]

/-- The heap `h` with more proxies. -/
inductive Proxied (h : Heap) : Heap → Prop
  | refl : Proxied h h
  | wrap {h' : Heap} (before : Proxied h h') (f : FunctionRef) (interface : String) :
    Proxied h (h'.withProxy f interface)

theorem Proxied.trans (first : h.Proxied h') (next : h'.Proxied h'') : h.Proxied h'' := by
  induction next with
  | refl => exact first
  | wrap _ f interface ih => exact .wrap ih f interface

end Heap

namespace Marshal

variable {α β : Type}

/-- A conversion makes proxies and changes nothing else. -/
class Wraps (x : Marshal α) : Prop where
  proxied : ∀ h : Heap, h.Proxied (x h).2

theorem bind_run (x : Marshal α) (f : α → Marshal β) (h : Heap) :
    (x >>= f) h = match x h with
      | (.ok a, h) => f a h
      | (.error e, h) => (.error e, h) := by
  change ExceptT.bindCont f (x h).1 (x h).2 = _
  cases x h with
  | mk r h' => cases r <;> rfl

instance (a : α) : Wraps (pure a) := ⟨fun _ => .refl⟩

instance (e : HostFault) : Wraps (throw e : Marshal α) := ⟨fun _ => .refl⟩

instance : Wraps (getThe Heap : Marshal Heap) := ⟨fun _ => .refl⟩

instance (x : Marshal α) (f : α → Marshal β) [hx : Wraps x] [hf : ∀ a, Wraps (f a)] :
    Wraps (x >>= f) where
  proxied h := by
    have first := hx.proxied h
    rw [bind_run]
    rcases run : x h with ⟨_ | a, h'⟩ <;> rw [run] at first
    · exact first
    · exact first.trans ((hf a).proxied h')

/-- A conversion and one that depends on its result. -/
theorem Wraps.andThen {x : Marshal α} {f : α → Marshal β} [Wraps x] (next : ∀ a, Wraps (f a)) :
    Wraps (x >>= f) :=
  inferInstance

theorem Wraps.mapM {f : α → Marshal β} (items : List α) (each : ∀ a, Wraps (f a)) :
    Wraps (items.mapM f) := by
  induction items with
  | nil =>
    rw [List.mapM_nil]
    infer_instance
  | cons a items ih =>
    rw [List.mapM_cons]
    infer_instance

end Marshal

open Marshal

instance wraps_toHost (r : HostRegistry) (type : HostType) (content : Content) :
    Wraps (toHost r type content) := by
  fun_induction toHost r type content with
  | case4 | case16 | case17 | case18 | case19 =>
    refine .andThen fun h => ?_
    split <;> infer_instance
  | case12 element q ih =>
    refine .andThen fun h => ?_
    split
    · infer_instance
    · rename_i cells _
      have items := Wraps.mapM cells (ih h)
      infer_instance
  | case14 => exact ⟨fun _ => .wrap .refl _ _⟩
  | _ => infer_instance

instance (r : HostRegistry) (params : List HostType) (args : List Content) :
    Wraps (Host.marshalArgs r params args) :=
  .mapM _ fun _ => inferInstance

/-- A function goes to the host as a proxy where an interface is declared. -/
theorem toHost_function {r : HostRegistry} {interface : String} (declared : r.isInterface interface)
    (f : FunctionRef) (h : Heap) :
    toHost r (.named interface) (.function f) h =
      (.ok (.object ⟨h.objects.size⟩), h.withProxy f interface) := by
  rw [toHost, if_pos declared]
  rfl

end CellScript
