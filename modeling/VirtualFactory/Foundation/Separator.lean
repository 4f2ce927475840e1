import Mathlib.Data.List.Basic

/-!
# Lists with separators

Where a separator stands is known from a side of it on which it does not stand again.
-/

namespace VirtualFactory
namespace Foundation

variable {item : Type}

theorem append_cons_inj {x : item} {before before' after after' : List item}
    (h : x ∉ before) (h' : x ∉ before')
    (heq : before ++ x :: after = before' ++ x :: after') :
    before = before' ∧ after = after' := by
  induction before generalizing before' with
  | nil =>
      cases before' with
      | nil => exact ⟨rfl, (List.cons.inj heq).2⟩
      | cons y rest =>
          rw [(List.cons.inj heq).1] at h'
          exact absurd List.mem_cons_self h'
  | cons y rest ih =>
      cases before' with
      | nil =>
          rw [← (List.cons.inj heq).1] at h
          exact absurd List.mem_cons_self h
      | cons z rest' =>
          rcases List.cons.inj heq with ⟨hyz, hrest⟩
          rcases ih (List.not_mem_of_not_mem_cons h) (List.not_mem_of_not_mem_cons h')
            hrest with ⟨hbefore, hafter⟩
          rw [hyz, hbefore]
          exact ⟨rfl, hafter⟩

/-- Two lists with a separator that is not behind it agree on both sides. -/
theorem append_separator_inj {x : item} {before before' after after' : List item}
    (h : x ∉ after) (h' : x ∉ after')
    (heq : before ++ x :: after = before' ++ x :: after') :
    before = before' ∧ after = after' := by
  have hreverse := congrArg List.reverse heq
  rw [List.reverse_append, List.reverse_append, List.reverse_cons, List.reverse_cons,
    List.append_assoc, List.append_assoc] at hreverse
  rcases append_cons_inj (by rw [List.mem_reverse]; exact h)
    (by rw [List.mem_reverse]; exact h') hreverse with ⟨hafter, hbefore⟩
  exact ⟨List.reverse_injective hbefore, List.reverse_injective hafter⟩

theorem not_mem_digits {c : Char} (hc : c.isDigit = false) (n : Nat) :
    c ∉ Nat.toDigits 10 n := by
  intro hmem
  have hdigit := Nat.isDigit_of_mem_toDigits (by decide) (by decide) hmem
  rw [hc] at hdigit
  cases hdigit

end Foundation
end VirtualFactory
