import Mathlib.Data.List.Basic

/-!
# Search and replace

The in-place loop that replaces every occurrence of a token in a text: find the
next occurrence at or after a position, replace it, and go on behind the inserted
text.
-/

namespace VirtualFactory
namespace Foundation
namespace Replace

/-- The position of the first occurrence of a token, counted from an offset. -/
def findIn (token : List Char) : List Char -> Nat -> Option Nat
  | [], offset => if token = [] then some offset else none
  | c :: rest, offset =>
      if token.isPrefixOf (c :: rest) then some offset
      else findIn token rest (offset + 1)

/-- The position of the first occurrence of a token at or after a position. -/
def findFrom (token text : List Char) (pos : Nat) : Option Nat :=
  if pos ≤ text.length then findIn token (text.drop pos) pos else none

/-- Exchange the token found at a position for another text. -/
def replaceAt (token replacement text : List Char) (pos : Nat) : List Char :=
  text.take pos ++ replacement ++ text.drop (pos + token.length)

/-- The loop: each round replaces one occurrence and moves behind it. -/
def replaceLoop (token replacement : List Char) : Nat -> List Char -> Nat -> List Char
  | 0, text, _ => text
  | fuel + 1, text, pos =>
      match findFrom token text pos with
      | none => text
      | some i =>
          replaceLoop token replacement fuel
            (replaceAt token replacement text i) (i + replacement.length)

/-- Every round of the loop consumes at least one character of the text, so one
round more than the text has characters is never short of fuel. -/
def replaceAll (token replacement text : String) : String :=
  String.ofList
    (replaceLoop token.toList replacement.toList (text.toList.length + 1)
      text.toList 0)

example : replaceAll "ab" "x" "abcab" = "xcx" := by decide

theorem replaceAll_self {token : String} (h : token ≠ "") (replacement : String) :
    replaceAll token replacement token = replacement := by
  unfold replaceAll
  have hne : token.toList ≠ [] := fun hnil => h (String.toList_eq_nil_iff.mp hnil)
  rcases List.exists_cons_of_ne_nil hne with ⟨c, cs, hcs⟩
  generalize htext : replacement.toList = text
  have hfirst : findFrom token.toList token.toList 0 = some 0 := by
    rw [hcs]
    unfold findFrom
    rw [if_pos (Nat.zero_le _), List.drop_zero]
    unfold findIn
    rw [if_pos (by simp)]
  have hreplaced : replaceAt token.toList text token.toList 0 = text := by
    unfold replaceAt
    rw [List.take_zero, List.nil_append, Nat.zero_add, List.drop_length,
      List.append_nil]
  have hsecond : findFrom token.toList text (0 + text.length) = none := by
    unfold findFrom
    rw [Nat.zero_add, if_pos (Nat.le_refl _), List.drop_length]
    unfold findIn
    rw [if_neg hne]
  have hlength : token.toList.length = cs.length + 1 := by
    rw [hcs]
    rfl
  rw [hlength, replaceLoop, hfirst]
  dsimp only
  rw [hreplaced, replaceLoop, hsecond, ← htext]
  exact String.ofList_toList

end Replace
end Foundation
end VirtualFactory
