import Mathlib.Data.List.Basic

/-!
# How a library is used

A client works with one handle of a library at a time.  It creates a handle while it
holds none, and what it calls goes to the handle it holds.  Its calls are on record, the
newest first.
-/

namespace VirtualFactory
namespace Foundation

variable {call : Type}

/-- What a call does to the handle of its client.  Some steps on record are no calls on a
handle. -/
inductive Custody where
  | acquire
  | refuse
  | release
  | use
  | outside
  deriving DecidableEq

namespace Custody

def leaves : Custody -> Bool -> Bool
  | acquire, _ => true
  | refuse, _ => false
  | release, _ => false
  | use, held => held
  | outside, held => held

/-- Whether the call may be made with a handle, or without one. -/
def Fits : Custody -> Bool -> Prop
  | acquire, held => held = false
  | refuse, held => held = false
  | release, held => held = true
  | use, held => held = true
  | outside, _ => True

end Custody

/-- How a library is to be used: what a call does to the handle, and what it may ask
for.  Both may depend on the calls before it. -/
structure Usage (call : Type) where
  custody : List call -> call -> Custody
  permits : List call -> call -> Prop

namespace Usage

variable {u : Usage call} {c : call} {calls : List call}

/-- Whether a record leaves a handle in the hands of its client. -/
def held (u : Usage call) : List call -> Bool
  | [] => false
  | c :: earlier => (u.custody earlier c).leaves (u.held earlier)

/-- No handle is used when it is not held, or lost, and only what is permitted is asked
for. -/
def Proper (u : Usage call) : List call -> Prop
  | [] => True
  | c :: earlier =>
      (u.custody earlier c).Fits (u.held earlier) ∧ u.permits earlier c ∧
        u.Proper earlier

/-- How many calls of a record do the same to the handle. -/
def count (u : Usage call) (custody : Custody) : List call -> Nat
  | [] => 0
  | c :: earlier =>
      u.count custody earlier + if u.custody earlier c = custody then 1 else 0

/-- Every handle is released once, but for the one that is held. -/
theorem Proper.balanced (h : u.Proper calls) :
    u.count .acquire calls = u.count .release calls + (u.held calls).toNat := by
  induction calls with
  | nil => rfl
  | cons c earlier ih =>
      have hearlier := ih h.2.2
      have hfits := h.1
      unfold count held
      cases hcustody : u.custody earlier c with
      | acquire =>
          rw [hcustody] at hfits
          have hheld : u.held earlier = false := hfits
          rw [hheld] at hearlier
          simp only [Custody.leaves, if_true, reduceCtorEq, if_false, Bool.toNat_true,
            Bool.toNat_false] at hearlier ⊢
          omega
      | refuse =>
          rw [hcustody] at hfits
          have hheld : u.held earlier = false := hfits
          rw [hheld] at hearlier
          simpa [Custody.leaves] using hearlier
      | release =>
          rw [hcustody] at hfits
          have hheld : u.held earlier = true := hfits
          rw [hheld] at hearlier
          simpa [Custody.leaves] using hearlier
      | use => simpa [Custody.leaves] using hearlier
      | outside => simpa [Custody.leaves] using hearlier

/-!
# Clients
-/

/-- A client with a proper record that knows whether it holds a handle. -/
structure Holds (u : Usage call) (calls : List call) (holding : Bool) : Prop where
  proper : u.Proper calls
  agrees : u.held calls = holding

theorem holds_nil (u : Usage call) : u.Holds [] false :=
  ⟨trivial, rfl⟩

namespace Holds

theorem next {holding : Bool} (h : u.Holds calls holding)
    (hfits : (u.custody calls c).Fits holding) (hpermits : u.permits calls c) :
    u.Holds (c :: calls) ((u.custody calls c).leaves holding) := by
  constructor
  · refine ⟨?_, hpermits, h.proper⟩
    rw [h.agrees]
    exact hfits
  · show (u.custody calls c).leaves (u.held calls) = _
    rw [h.agrees]

theorem acquire (h : u.Holds calls false) (hcustody : u.custody calls c = .acquire)
    (hpermits : u.permits calls c) : u.Holds (c :: calls) true := by
  have hcall := h.next (c := c) (by rw [hcustody]; rfl) hpermits
  rw [hcustody] at hcall
  exact hcall

theorem refuse (h : u.Holds calls false) (hcustody : u.custody calls c = .refuse)
    (hpermits : u.permits calls c) : u.Holds (c :: calls) false := by
  have hcall := h.next (c := c) (by rw [hcustody]; rfl) hpermits
  rw [hcustody] at hcall
  exact hcall

theorem release (h : u.Holds calls true) (hcustody : u.custody calls c = .release)
    (hpermits : u.permits calls c) : u.Holds (c :: calls) false := by
  have hcall := h.next (c := c) (by rw [hcustody]; rfl) hpermits
  rw [hcustody] at hcall
  exact hcall

theorem use (h : u.Holds calls true) (hcustody : u.custody calls c = .use)
    (hpermits : u.permits calls c) : u.Holds (c :: calls) true := by
  have hcall := h.next (c := c) (by rw [hcustody]; rfl) hpermits
  rw [hcustody] at hcall
  exact hcall

theorem outside {holding : Bool} (h : u.Holds calls holding)
    (hcustody : u.custody calls c = .outside) (hpermits : u.permits calls c) :
    u.Holds (c :: calls) holding := by
  have hcall := h.next (c := c) (by rw [hcustody]; trivial) hpermits
  rw [hcustody] at hcall
  exact hcall

theorem nothing_left (h : u.Holds calls false) :
    u.count .acquire calls = u.count .release calls := by
  have hbalanced := h.proper.balanced
  rw [h.agrees] at hbalanced
  exact hbalanced

end Holds

end Usage

end Foundation
end VirtualFactory
