import Mathlib.Data.Rat.Defs
import Mathlib.Algebra.Field.Rat
import Mathlib.Algebra.GroupWithZero.Basic
import Mathlib.Tactic.FieldSimp
import Mathlib.Tactic.Ring

/-!
# Decimal numerals

Texts that denote a rational number: a sign, digits, perhaps digits behind a point, and
perhaps an exponent of ten.
-/

namespace VirtualFactory
namespace Foundation

def decimalValue (negative : Bool) (whole fraction : List Char) (exponent : Int) :
    Rat :=
  (if negative then -1 else 1) *
    ((Nat.ofDigitChars 10 (whole ++ fraction) 0 : Rat) *
      10 ^ (exponent - fraction.length))

/-!
# Reading
-/

def readSign : List Char -> Bool × List Char
  | '-' :: rest => (true, rest)
  | cs => (false, cs)

/-- A point is followed by a digit. -/
def readFraction : List Char -> Option (List Char × List Char)
  | '.' :: rest =>
      if rest.takeWhile Char.isDigit = [] then none
      else some (rest.takeWhile Char.isDigit, rest.dropWhile Char.isDigit)
  | cs => some ([], cs)

/-- An exponent has a sign and ends the numeral. -/
def readExponent : List Char -> Option Int
  | [] => some 0
  | 'e' :: '+' :: ds =>
      if ds ≠ [] ∧ ds.all Char.isDigit then some (Nat.ofDigitChars 10 ds 0) else none
  | 'e' :: '-' :: ds =>
      if ds ≠ [] ∧ ds.all Char.isDigit then some (-(Nat.ofDigitChars 10 ds 0 : Int))
      else none
  | _ => none

/-- The number that a numeral denotes; other texts denote none. -/
def readNumeral (text : String) : Option Rat :=
  let signed := readSign text.toList
  let whole := signed.2.takeWhile Char.isDigit
  if whole = [] then none
  else
    (readFraction (signed.2.dropWhile Char.isDigit)).bind fun r =>
      (readExponent r.2).map (decimalValue signed.1 whole r.1)

/-!
# Writing
-/

structure Numeral where
  negative : Bool
  whole : List Char
  fraction : List Char
  exponent : Option Int
  whole_ne_nil : whole ≠ []
  whole_digits : forall c, c ∈ whole -> c.isDigit = true
  fraction_digits : forall c, c ∈ fraction -> c.isDigit = true

namespace Numeral

def value (n : Numeral) : Rat :=
  decimalValue n.negative n.whole n.fraction (n.exponent.getD 0)

def fractionText (fraction : List Char) : List Char :=
  if fraction = [] then [] else '.' :: fraction

/-- An exponent has at least two digits. -/
def exponentDigits (k : Nat) : List Char :=
  if k < 10 then '0' :: Nat.toDigits 10 k else Nat.toDigits 10 k

def exponentText : Option Int -> List Char
  | none => []
  | some e => 'e' :: (if e < 0 then '-' else '+') :: exponentDigits e.natAbs

def text (n : Numeral) : String :=
  String.ofList
    ((if n.negative then ['-'] else []) ++
      (n.whole ++ (fractionText n.fraction ++ exponentText n.exponent)))

/-!
# What is written is read
-/

/-- The text does not go on with a digit. -/
def EndsDigits (cs : List Char) : Prop :=
  forall c rest, cs = c :: rest -> c.isDigit = false

theorem takeWhile_digits {ds rest : List Char}
    (hds : forall c, c ∈ ds -> c.isDigit = true) (hrest : EndsDigits rest) :
    (ds ++ rest).takeWhile Char.isDigit = ds ∧
      (ds ++ rest).dropWhile Char.isDigit = rest := by
  have hend : rest.takeWhile Char.isDigit = [] ∧ rest.dropWhile Char.isDigit = rest := by
    cases rest with
    | nil => exact ⟨rfl, rfl⟩
    | cons c rest =>
        have hc : ¬ c.isDigit = true := by
          rw [hrest c rest rfl]
          exact Bool.false_ne_true
        exact ⟨List.takeWhile_cons_of_neg hc, List.dropWhile_cons_of_neg hc⟩
  rw [List.takeWhile_append_of_pos hds, List.dropWhile_append_of_pos hds, hend.1,
    hend.2, List.append_nil]
  exact ⟨rfl, rfl⟩

theorem isDigit_exponentDigits (k : Nat) :
    forall c, c ∈ exponentDigits k -> c.isDigit = true := by
  intro c hc
  have hdigits : c ∈ Nat.toDigits 10 k -> c.isDigit = true :=
    Nat.isDigit_of_mem_toDigits (by decide) (by decide)
  unfold exponentDigits at hc
  split at hc
  · rcases List.mem_cons.mp hc with rfl | hc
    · decide
    · exact hdigits hc
  · exact hdigits hc

theorem ofDigitChars_exponentDigits (k : Nat) :
    Nat.ofDigitChars 10 (exponentDigits k) 0 = k := by
  unfold exponentDigits
  split
  · rw [Nat.ofDigitChars_cons]
    exact Nat.ofDigitChars_ten_toDigits
  · exact Nat.ofDigitChars_ten_toDigits

theorem readExponent_exponentText (e : Option Int) :
    readExponent (exponentText e) = some (e.getD 0) := by
  cases e with
  | none => rfl
  | some e =>
      have hdigits : exponentDigits e.natAbs ≠ [] ∧
          (exponentDigits e.natAbs).all Char.isDigit = true := by
        constructor
        · unfold exponentDigits
          split
          · exact List.cons_ne_nil _ _
          · exact Nat.toDigits_ne_nil
        · exact List.all_eq_true.mpr (isDigit_exponentDigits e.natAbs)
      have hvalue := ofDigitChars_exponentDigits e.natAbs
      show readExponent
        ('e' :: (if e < 0 then '-' else '+') :: exponentDigits e.natAbs) = some e
      generalize exponentDigits e.natAbs = ds at hdigits hvalue ⊢
      split
      · show (if ds ≠ [] ∧ ds.all Char.isDigit = true then
          some (-(Nat.ofDigitChars 10 ds 0 : Int)) else none) = some e
        rw [if_pos hdigits, hvalue]
        congr 1
        omega
      · show (if ds ≠ [] ∧ ds.all Char.isDigit = true then
          some (Nat.ofDigitChars 10 ds 0 : Int) else none) = some e
        rw [if_pos hdigits, hvalue]
        congr 1
        omega

theorem endsDigits_exponentText (e : Option Int) : EndsDigits (exponentText e) := by
  intro c rest h
  cases e with
  | none => cases h
  | some e =>
      cases h
      decide

theorem endsDigits_fractionText (fraction : List Char) (e : Option Int) :
    EndsDigits (fractionText fraction ++ exponentText e) := by
  unfold fractionText
  split
  · exact endsDigits_exponentText e
  · intro c rest h
    cases h
    decide

theorem readFraction_fractionText (n : Numeral) :
    readFraction (fractionText n.fraction ++ exponentText n.exponent) =
      some (n.fraction, exponentText n.exponent) := by
  unfold fractionText
  split
  · rename_i hnone
    rw [hnone, List.nil_append]
    cases n.exponent with
    | none => rfl
    | some e => rfl
  · rename_i hsome
    have hdigits := takeWhile_digits n.fraction_digits
      (endsDigits_exponentText n.exponent)
    rw [List.cons_append]
    generalize n.fraction ++ exponentText n.exponent = rest at hdigits ⊢
    show (if rest.takeWhile Char.isDigit = [] then none
      else some (rest.takeWhile Char.isDigit, rest.dropWhile Char.isDigit)) = _
    rw [hdigits.1, hdigits.2, if_neg hsome]

theorem readSign_text (n : Numeral) (rest : List Char) :
    readSign ((if n.negative then ['-'] else []) ++ (n.whole ++ rest)) =
      (n.negative, n.whole ++ rest) := by
  cases hsign : n.negative with
  | true => rfl
  | false =>
      rcases List.exists_cons_of_ne_nil n.whole_ne_nil with ⟨c, cs, hwhole⟩
      have hc : c.isDigit = true := n.whole_digits c (by
        rw [hwhole]
        exact List.mem_cons_self)
      rw [hwhole]
      show readSign (c :: (cs ++ rest)) = _
      unfold readSign
      split
      · rename_i hminus
        cases hminus
        cases hc
      · rfl

theorem readNumeral_text (n : Numeral) : readNumeral n.text = some n.value := by
  have hwhole := takeWhile_digits n.whole_digits
    (endsDigits_fractionText n.fraction n.exponent)
  unfold readNumeral text
  rw [String.toList_ofList, n.readSign_text]
  dsimp only
  rw [hwhole.1, hwhole.2, if_neg n.whole_ne_nil, n.readFraction_fractionText,
    Option.bind_some, readExponent_exponentText]
  rfl

/-!
# The characters of a numeral
-/

def numeralChar (c : Char) : Bool :=
  c.isDigit || ['-', '+', '.', 'e'].contains c

theorem numeralChar_of_isDigit {c : Char} (h : c.isDigit = true) : numeralChar c = true := by
  unfold numeralChar
  rw [h, Bool.true_or]

theorem numeralChar_fractionText (n : Numeral) :
    forall c, c ∈ fractionText n.fraction -> numeralChar c = true := by
  intro c hc
  unfold fractionText at hc
  split at hc
  · exact absurd hc List.not_mem_nil
  · rcases List.mem_cons.mp hc with rfl | hc
    · decide
    · exact numeralChar_of_isDigit (n.fraction_digits c hc)

theorem numeralChar_exponentText (e : Option Int) :
    forall c, c ∈ exponentText e -> numeralChar c = true := by
  intro c hc
  cases e with
  | none => exact absurd hc List.not_mem_nil
  | some e =>
      rcases List.mem_cons.mp hc with rfl | hc
      · decide
      · rcases List.mem_cons.mp hc with rfl | hc
        · split <;> decide
        · exact numeralChar_of_isDigit (isDigit_exponentDigits e.natAbs c hc)

theorem numeralChar_text (n : Numeral) :
    forall c, c ∈ n.text.toList -> numeralChar c = true := by
  intro c hc
  unfold text at hc
  rw [String.toList_ofList, List.mem_append, List.mem_append, List.mem_append] at hc
  rcases hc with hsign | hwhole | hfraction | hexponent
  · cases hnegative : n.negative with
    | true =>
        rw [hnegative] at hsign
        rw [List.mem_singleton.mp hsign]
        decide
    | false =>
        rw [hnegative] at hsign
        exact absurd hsign List.not_mem_nil
  · exact numeralChar_of_isDigit (n.whole_digits c hwhole)
  · exact n.numeralChar_fractionText c hfraction
  · exact numeralChar_exponentText n.exponent c hexponent

theorem text_eq_cons (n : Numeral) :
    exists c rest, n.text.toList = c :: rest ∧ (c = '-' ∨ c.isDigit = true) := by
  unfold text
  rw [String.toList_ofList]
  cases n.negative with
  | true => exact ⟨'-', _, rfl, Or.inl rfl⟩
  | false =>
      rcases List.exists_cons_of_ne_nil n.whole_ne_nil with ⟨c, cs, hwhole⟩
      have hdigit : c.isDigit = true := n.whole_digits c (by
        rw [hwhole]
        exact List.mem_cons_self)
      rw [hwhole]
      exact ⟨c, _, rfl, Or.inr hdigit⟩

end Numeral

end Foundation
end VirtualFactory
