import Mathlib.Data.List.Basic

/-!
# Loops that stop at the first failure

Two loop shapes over a list: one that runs a body on every item, and one whose
body may also change the item in place.  Both stop at the first body that reports
a failure and leave the remaining items alone.
-/

namespace VirtualFactory
namespace Foundation

variable {item state : Type}

/-- Run a body on every item, up to and including the first one that fails. -/
def untilFailure (body : item -> state -> Bool × state) :
    List item -> state -> Bool × state
  | [], s => (true, s)
  | x :: rest, s =>
      match body x s with
      | (true, s') => untilFailure body rest s'
      | (false, s') => (false, s')

theorem untilFailure_cons_of_true {body : item -> state -> Bool × state}
    {x : item} {s s' : state} (h : body x s = (true, s')) (rest : List item) :
    untilFailure body (x :: rest) s = untilFailure body rest s' := by
  rw [untilFailure, h]

theorem untilFailure_cons_of_false {body : item -> state -> Bool × state}
    {x : item} {s s' : state} (h : body x s = (false, s')) (rest : List item) :
    untilFailure body (x :: rest) s = (false, s') := by
  rw [untilFailure, h]

/-- Run a body that changes the items in place, up to and including the first one
that fails. -/
def updateUntilFailure (body : item -> state -> Bool × item × state) :
    List item -> state -> Bool × List item × state
  | [], s => (true, [], s)
  | x :: rest, s =>
      match body x s with
      | (true, x', s') =>
          let after := updateUntilFailure body rest s'
          (after.1, x' :: after.2.1, after.2.2)
      | (false, x', s') => (false, x' :: rest, s')

theorem view_untilFailure {other : Type} (view : state -> other)
    {body : item -> state -> Bool × state}
    (hbody : forall x s, view (body x s).2 = view s)
    (xs : List item) (s : state) : view (untilFailure body xs s).2 = view s := by
  induction xs generalizing s with
  | nil => rfl
  | cons x rest ih =>
      have hx := hbody x s
      unfold untilFailure
      split
      · rename_i s' hs'
        rw [hs'] at hx
        exact (ih s').trans hx
      · rename_i s' hs'
        rw [hs'] at hx
        exact hx

theorem untilFailure_invariant {body : item -> state -> Bool × state}
    {invariant : state -> Prop}
    (hbody : forall x s, invariant s -> invariant (body x s).2)
    (xs : List item) {s : state} (hs : invariant s) :
    invariant (untilFailure body xs s).2 := by
  induction xs generalizing s with
  | nil => exact hs
  | cons x rest ih =>
      have hx := hbody x s hs
      unfold untilFailure
      split
      · rename_i s' hs'
        rw [hs'] at hx
        exact ih hx
      · rename_i s' hs'
        rw [hs'] at hx
        exact hx

/-- A loop that succeeds has done every item, when no later body undoes one. -/
theorem untilFailure_done {body : item -> state -> Bool × state}
    {done : item -> state -> Prop}
    (hdone : forall x s, (body x s).1 = true -> done x (body x s).2)
    (hkeeps : forall x y s, (body x s).1 = true -> done y s -> done y (body x s).2)
    (xs : List item) {s : state} (h : (untilFailure body xs s).1 = true) :
    forall x, x ∈ xs ∨ done x s -> done x (untilFailure body xs s).2 := by
  induction xs generalizing s with
  | nil =>
      intro x hx
      rcases hx with hmem | hx
      · cases hmem
      · exact hx
  | cons y rest ih =>
      rcases hbody : body y s with ⟨ok, s'⟩
      have hmakes := hdone y s
      have hkept := hkeeps y (s := s)
      rw [hbody] at hmakes hkept
      cases ok with
      | false =>
          rw [untilFailure_cons_of_false hbody] at h
          cases h
      | true =>
          rw [untilFailure_cons_of_true hbody] at h ⊢
          intro x hx
          apply ih h
          rcases hx with hmem | hx
          · rcases List.mem_cons.mp hmem with rfl | hmem
            · exact Or.inr (hmakes rfl)
            · exact Or.inl hmem
          · exact Or.inr (hkept x rfl hx)

/-- A body that succeeds keeps the invariant, and one that fails establishes another
condition. -/
def Outcome (invariant failed : state -> Prop) (ok : Bool) (s : state) : Prop :=
  (ok = true -> invariant s) ∧ (ok = false -> failed s)

theorem updateUntilFailure_outcome
    {body : item -> state -> Bool × item × state}
    {invariant failed : state -> Prop}
    {xs : List item}
    (hbody : forall x, x ∈ xs -> forall s, invariant s ->
      Outcome invariant failed (body x s).1 (body x s).2.2)
    {s : state} (hs : invariant s) :
    Outcome invariant failed (updateUntilFailure body xs s).1
      (updateUntilFailure body xs s).2.2 := by
  induction xs generalizing s with
  | nil => exact ⟨fun _ => hs, fun h => Bool.noConfusion h⟩
  | cons x rest ih =>
      have hx := hbody x List.mem_cons_self s hs
      have hrest := fun y hy => hbody y (List.mem_cons_of_mem x hy)
      unfold updateUntilFailure
      split
      · rename_i x' s' heq
        rw [heq] at hx
        exact ih hrest (hx.1 rfl)
      · rename_i x' s' heq
        rw [heq] at hx
        exact ⟨fun h => Bool.noConfusion h, fun _ => hx.2 rfl⟩

end Foundation
end VirtualFactory
