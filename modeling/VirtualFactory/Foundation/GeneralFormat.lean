import Mathlib.Algebra.Order.Field.Rat
import Mathlib.Data.Int.Log
import Mathlib.Data.List.DropRight
import Mathlib.Data.Rat.Floor
import Mathlib.Tactic.Linarith
import Mathlib.Tactic.NormNum
import VirtualFactory.Foundation.Numeral

/-!
# The general format

The format of `%g`: a number is rounded to some significant digits, and written with an
exponent only when it is very large or very small.  Zeros at the end of the fraction are
left out.
-/

namespace VirtualFactory
namespace Foundation
namespace GeneralFormat

def nearestEven (q : Rat) : Int :=
  if q - ⌊q⌋ < 1 / 2 then ⌊q⌋
  else if 1 / 2 < q - ⌊q⌋ then ⌊q⌋ + 1
  else if ⌊q⌋ % 2 = 0 then ⌊q⌋
  else ⌊q⌋ + 1

/-- The significant digits of a positive number as an integer, and the exponent of the
first of them. -/
def significand (digits : Nat) (v : Rat) : Nat × Int :=
  let exponent := Int.log 10 v
  let n := (nearestEven (v * 10 ^ ((digits : Int) - 1 - exponent))).toNat
  -- rounding up to the next power of ten moves the exponent
  if n = 10 ^ digits then (10 ^ (digits - 1), exponent + 1) else (n, exponent)

def rounded (digits : Nat) (v : Rat) : Rat :=
  (significand digits v).1 * 10 ^ ((significand digits v).2 - ((digits : Int) - 1))

/-- Zeros at the end of a fraction are not written. -/
def strip (fraction : List Char) : List Char :=
  fraction.rdropWhile (fun c => c == '0')

/-!
# The nearest integer
-/

theorem nearestEven_intCast (z : Int) : nearestEven z = z := by
  unfold nearestEven
  rw [Int.floor_intCast, sub_self, if_pos (by norm_num)]

theorem le_nearestEven {z : Int} {q : Rat} (h : (z : Rat) ≤ q) :
    z ≤ nearestEven q := by
  have hfloor : z ≤ ⌊q⌋ := Int.le_floor.mpr h
  unfold nearestEven
  split
  · exact hfloor
  · split
    · omega
    · split
      · exact hfloor
      · omega

theorem nearestEven_le {z : Int} {q : Rat} (h : q ≤ z) : nearestEven q ≤ z := by
  have hfloor : (⌊q⌋ : Rat) ≤ q := Int.floor_le q
  have hstrict : ⌊q⌋ < z ∨ q = z := by
    rcases lt_or_eq_of_le h with hlt | heq
    · exact Or.inl (Int.floor_lt.mpr hlt)
    · exact Or.inr heq
  rcases hstrict with hlt | heq
  · unfold nearestEven
    split
    · omega
    · split
      · omega
      · split
        · omega
        · omega
  · rw [heq, nearestEven_intCast]

/-!
# Rounding to significant digits
-/

/-- A positive number in units of its last significant digit. -/
def units (digits : Nat) (v : Rat) : Rat :=
  v * 10 ^ ((digits : Int) - 1 - Int.log 10 v)

theorem units_mul (digits : Nat) (v : Rat) :
    units digits v * 10 ^ (Int.log 10 v - ((digits : Int) - 1)) = v := by
  unfold units
  rw [mul_assoc, ← zpow_add₀ (by norm_num)]
  have hzero : (digits : Int) - 1 - Int.log 10 v +
      (Int.log 10 v - ((digits : Int) - 1)) = 0 := by omega
  rw [hzero, zpow_zero, mul_one]

theorem units_bounds {digits : Nat} (hdigits : 0 < digits) {v : Rat} (hv : 0 < v) :
    ((10 ^ (digits - 1) : Nat) : Rat) ≤ units digits v ∧
      units digits v < ((10 ^ digits : Nat) : Rat) := by
  have hpos : (0 : Rat) < 10 ^ ((digits : Int) - 1 - Int.log 10 v) :=
    zpow_pos (by norm_num) _
  have hlow : (10 : Rat) ^ Int.log 10 v ≤ v := by
    exact_mod_cast Int.zpow_log_le_self (b := 10) (by norm_num) hv
  have hhigh : v < (10 : Rat) ^ (Int.log 10 v + 1) := by
    exact_mod_cast Int.lt_zpow_succ_log_self (b := 10) (by norm_num) v
  have hfirst : (10 : Rat) ^ Int.log 10 v * 10 ^ ((digits : Int) - 1 - Int.log 10 v) =
      ((10 ^ (digits - 1) : Nat) : Rat) := by
    rw [← zpow_add₀ (by norm_num)]
    have hexponent : Int.log 10 v + ((digits : Int) - 1 - Int.log 10 v) =
        ((digits - 1 : Nat) : Int) := by omega
    rw [hexponent, zpow_natCast]
    norm_num
  have hlast : (10 : Rat) ^ (Int.log 10 v + 1) *
      10 ^ ((digits : Int) - 1 - Int.log 10 v) = ((10 ^ digits : Nat) : Rat) := by
    rw [← zpow_add₀ (by norm_num)]
    have hexponent : Int.log 10 v + 1 + ((digits : Int) - 1 - Int.log 10 v) =
        (digits : Int) := by omega
    rw [hexponent, zpow_natCast]
    norm_num
  rw [← hfirst, ← hlast]
  exact ⟨mul_le_mul_of_nonneg_right hlow hpos.le, mul_lt_mul_of_pos_right hhigh hpos⟩

theorem nearest_units_bounds {digits : Nat} (hdigits : 0 < digits) {v : Rat}
    (hv : 0 < v) :
    10 ^ (digits - 1) ≤ (nearestEven (units digits v)).toNat ∧
      (nearestEven (units digits v)).toNat ≤ 10 ^ digits := by
  rcases units_bounds hdigits hv with ⟨hlow, hhigh⟩
  have hlow' : ((10 ^ (digits - 1) : Nat) : Int) ≤ nearestEven (units digits v) :=
    le_nearestEven (by exact_mod_cast hlow)
  have hhigh' : nearestEven (units digits v) ≤ ((10 ^ digits : Nat) : Int) :=
    nearestEven_le (by exact_mod_cast hhigh.le)
  constructor
  · omega
  · exact Int.toNat_le.mpr hhigh'

theorem significand_bounds {digits : Nat} (hdigits : 0 < digits) {v : Rat}
    (hv : 0 < v) :
    10 ^ (digits - 1) ≤ (significand digits v).1 ∧
      (significand digits v).1 < 10 ^ digits := by
  have hbounds := nearest_units_bounds hdigits hv
  unfold significand
  dsimp only
  show _ ≤ (ite ((nearestEven (units digits v)).toNat = _) _ _ : Nat × Int).1 ∧
    (ite ((nearestEven (units digits v)).toNat = _) _ _ : Nat × Int).1 < _
  split
  · exact ⟨le_refl _, Nat.pow_lt_pow_right (by norm_num) (by omega)⟩
  · rename_i hne
    exact ⟨hbounds.1, lt_of_le_of_ne hbounds.2 hne⟩

theorem significand_eq (digits : Nat) (v : Rat) :
    significand digits v =
      if (nearestEven (units digits v)).toNat = 10 ^ digits then
        (10 ^ (digits - 1), Int.log 10 v + 1)
      else ((nearestEven (units digits v)).toNat, Int.log 10 v) :=
  rfl

theorem rounded_eq_self_iff {digits : Nat} (hdigits : 0 < digits) {v : Rat}
    (hv : 0 < v) :
    rounded digits v = v <-> exists n : Nat, units digits v = n := by
  have hunits := units_mul digits v
  have hpos : (10 : Rat) ^ (Int.log 10 v - ((digits : Int) - 1)) ≠ 0 :=
    zpow_ne_zero _ (by norm_num)
  constructor
  · intro h
    unfold rounded at h
    rw [significand_eq] at h
    split at h
    · -- the next power of ten is larger than the number
      have hhigh : v < (10 : Rat) ^ (Int.log 10 v + 1) := by
        exact_mod_cast Int.lt_zpow_succ_log_self (b := 10) (by norm_num) v
      have hnext : ((10 ^ (digits - 1) : Nat) : Rat) *
          10 ^ (Int.log 10 v + 1 - ((digits : Int) - 1)) =
            10 ^ (Int.log 10 v + 1) := by
        have hcast : ((10 ^ (digits - 1) : Nat) : Rat) = 10 ^ ((digits : Int) - 1) := by
          have hexponent : (digits : Int) - 1 = ((digits - 1 : Nat) : Int) := by omega
          rw [hexponent, zpow_natCast]
          norm_num
        rw [hcast, ← zpow_add₀ (by norm_num)]
        congr 1
        omega
      rw [hnext] at h
      exact absurd h.symm (ne_of_lt hhigh)
    · refine ⟨(nearestEven (units digits v)).toNat, ?_⟩
      apply mul_right_cancel₀ hpos
      rw [hunits]
      exact h.symm
  · rintro ⟨n, hn⟩
    have hnearest : (nearestEven (units digits v)).toNat = n := by
      have hcast : (n : Rat) = ((n : Int) : Rat) := rfl
      rw [hn, hcast, nearestEven_intCast, Int.toNat_natCast]
    have hhigh := (units_bounds hdigits hv).2
    rw [hn] at hhigh
    have hne : n ≠ 10 ^ digits := by
      have hlt : n < 10 ^ digits := by exact_mod_cast hhigh
      omega
    unfold rounded
    rw [significand_eq, hnearest, if_neg hne, ← hn]
    exact hunits

/-- Natural numbers that rounding does not change: only zeros follow their first
digits. -/
theorem rounded_natCast_iff {digits n : Nat} (hdigits : 0 < digits) (hn : 0 < n) :
    rounded digits (n : Rat) = n <->
      exists k, 10 ^ k ∣ n ∧ n < 10 ^ (k + digits) := by
  have hlog : Int.log 10 (n : Rat) = Nat.log 10 n := Int.log_natCast 10 n
  have hlow : 10 ^ Nat.log 10 n ≤ n := Nat.pow_log_le_self 10 (by omega)
  have hhigh : n < 10 ^ (Nat.log 10 n + 1) := Nat.lt_pow_succ_log_self (by norm_num) n
  rw [rounded_eq_self_iff hdigits (by exact_mod_cast hn)]
  unfold units
  rw [hlog]
  rcases Nat.lt_or_ge (Nat.log 10 n) digits with hshort | hlong
  · -- a number with few digits is a whole number of units
    have hexponent : (digits : Int) - 1 - (Nat.log 10 n : Nat) =
        ((digits - 1 - Nat.log 10 n : Nat) : Int) := by omega
    rw [hexponent, zpow_natCast]
    constructor
    · intro _
      refine ⟨0, one_dvd n, ?_⟩
      rw [Nat.zero_add]
      exact lt_of_lt_of_le hhigh (Nat.pow_le_pow_right (by norm_num) hshort)
    · intro _
      exact ⟨n * 10 ^ (digits - 1 - Nat.log 10 n), by norm_num⟩
  · have hexponent : (digits : Int) - 1 - (Nat.log 10 n : Nat) =
        -((Nat.log 10 n + 1 - digits : Nat) : Int) := by omega
    rw [hexponent, zpow_neg, zpow_natCast]
    generalize hextra : Nat.log 10 n + 1 - digits = extra
    have hunit : (10 : Rat) ^ extra ≠ 0 := pow_ne_zero _ (by norm_num)
    constructor
    · rintro ⟨m, hm⟩
      refine ⟨extra, ⟨m, ?_⟩, ?_⟩
      · have hcast : (n : Rat) = 10 ^ extra * m := by
          rw [← hm]
          field_simp
        exact_mod_cast hcast
      · have hsum : extra + digits = Nat.log 10 n + 1 := by omega
        rw [hsum]
        exact hhigh
    · rintro ⟨k, hdvd, hbound⟩
      have hk : extra ≤ k := by
        have hpow : 10 ^ Nat.log 10 n < 10 ^ (k + digits) := lt_of_le_of_lt hlow hbound
        have hexp := (Nat.pow_lt_pow_iff_right (by norm_num)).mp hpow
        omega
      rcases (Nat.pow_dvd_pow 10 hk).trans hdvd with ⟨m, hm⟩
      refine ⟨m, ?_⟩
      have hcast : (n : Rat) = 10 ^ extra * m := by exact_mod_cast hm
      rw [hcast]
      field_simp

/-!
# Writing the digits
-/

theorem isDigit_strip {fraction : List Char}
    (h : forall c, c ∈ fraction -> c.isDigit = true) :
    forall c, c ∈ strip fraction -> c.isDigit = true := by
  intro c hc
  apply h
  have hsplit : strip fraction ++ fraction.rtakeWhile (fun c => c == '0') = fraction :=
    List.rdropWhile_append_rtakeWhile
  rw [← hsplit]
  exact List.mem_append_left _ hc

/-- The digits before and behind the point, the last ones without the zeros at the
end. -/
def written (negative : Bool) (whole fraction : List Char) (exponent : Option Int)
    (hwhole : whole ≠ [])
    (hdigits : forall c, c ∈ whole ++ fraction -> c.isDigit = true) : Numeral where
  negative := negative
  whole := whole
  fraction := strip fraction
  exponent := exponent
  whole_ne_nil := hwhole
  whole_digits c hc := hdigits c (List.mem_append_left fraction hc)
  fraction_digits :=
    isDigit_strip (fun c hc => hdigits c (List.mem_append_right whole hc))

theorem value_written (negative : Bool) (whole fraction : List Char)
    (exponent : Option Int) (hwhole : whole ≠ [])
    (hdigits : forall c, c ∈ whole ++ fraction -> c.isDigit = true) :
    (written negative whole fraction exponent hwhole hdigits).value =
      decimalValue negative whole fraction (exponent.getD 0) := by
  have hsplit : strip fraction ++ fraction.rtakeWhile (fun c => c == '0') = fraction :=
    List.rdropWhile_append_rtakeWhile
  have hzeros : fraction.rtakeWhile (fun c => c == '0') =
      List.replicate (fraction.rtakeWhile (fun c => c == '0')).length '0' := by
    apply List.eq_replicate_iff.mpr
    refine ⟨rfl, ?_⟩
    intro c hc
    have hzero := List.mem_rtakeWhile_imp hc
    exact beq_iff_eq.mp hzero
  generalize (fraction.rtakeWhile (fun c => c == '0')).length = zeros at hzeros
  rw [hzeros] at hsplit
  show decimalValue negative whole (strip fraction) (exponent.getD 0) = _
  generalize strip fraction = kept at hsplit
  have hnumber : Nat.ofDigitChars 10 (whole ++ (kept ++ List.replicate zeros '0')) 0 =
      10 ^ zeros * Nat.ofDigitChars 10 (whole ++ kept) 0 := by
    rw [← List.append_assoc, Nat.ofDigitChars_append, Nat.ofDigitChars_replicate_zero]
  rw [← hsplit]
  unfold decimalValue
  rw [hnumber, List.length_append, List.length_replicate]
  generalize Nat.ofDigitChars 10 (whole ++ kept) 0 = n
  have hpower : (10 : Rat) ^ (exponent.getD 0 - (kept.length : Int)) =
      10 ^ zeros * 10 ^ (exponent.getD 0 - ((kept.length + zeros : Nat) : Int)) := by
    rw [← zpow_natCast, ← zpow_add₀ (by norm_num)]
    congr 1
    push_cast
    omega
  rw [hpower]
  push_cast
  ring

theorem decimalValue_of_digits {negative : Bool} {whole fraction : List Char}
    {zeros n : Nat}
    (h : whole ++ fraction = List.replicate zeros '0' ++ Nat.toDigits 10 n)
    (exponent : Int) :
    decimalValue negative whole fraction exponent =
      (if negative then -1 else 1) * (n * 10 ^ (exponent - fraction.length)) := by
  unfold decimalValue
  rw [h, Nat.ofDigitChars_append, Nat.ofDigitChars_replicate_zero, Nat.mul_zero,
    Nat.ofDigitChars_ten_toDigits]

theorem isDigit_toDigits {n : Nat} :
    forall c, c ∈ Nat.toDigits 10 n -> c.isDigit = true :=
  fun _ => Nat.isDigit_of_mem_toDigits (by decide) (by decide)

theorem take_toDigits_ne_nil (k n : Nat) : (Nat.toDigits 10 n).take (k + 1) ≠ [] := by
  rcases List.exists_cons_of_ne_nil (Nat.toDigits_ne_nil (n := n) (b := 10)) with
    ⟨c, cs, hdigits⟩
  rw [hdigits]
  exact List.cons_ne_nil _ _

/-- How the significant digits are written: behind zeros, with a point among them or
behind them, or with an exponent. -/
def layout (digits : Nat) (negative : Bool) (n : Nat) (exponent : Int) : Numeral :=
  if -4 ≤ exponent ∧ exponent < digits then
    if exponent < 0 then
      written negative ['0']
        (List.replicate (-exponent - 1).toNat '0' ++ Nat.toDigits 10 n) none
        (List.cons_ne_nil _ _) (by
          intro c hc
          rcases List.mem_append.mp hc with hc | hc
          · rw [List.mem_singleton.mp hc]
            rfl
          · rcases List.mem_append.mp hc with hc | hc
            · rw [List.eq_of_mem_replicate hc]
              rfl
            · exact isDigit_toDigits c hc)
    else
      written negative ((Nat.toDigits 10 n).take (exponent.toNat + 1))
        ((Nat.toDigits 10 n).drop (exponent.toNat + 1)) none
        (take_toDigits_ne_nil _ n) (by
          rw [List.take_append_drop]
          exact isDigit_toDigits)
  else
    written negative ((Nat.toDigits 10 n).take (0 + 1))
      ((Nat.toDigits 10 n).drop (0 + 1)) (some exponent)
      (take_toDigits_ne_nil _ n) (by
        rw [List.take_append_drop]
        exact isDigit_toDigits)

def zero (negative : Bool) : Numeral :=
  written negative ['0'] [] none (List.cons_ne_nil _ _) (by
    intro c hc
    rw [List.mem_singleton.mp hc]
    rfl)

def general (digits : Nat) (negative : Bool) (v : Rat) : Numeral :=
  if v = 0 then zero negative
  else layout digits negative (significand digits v).1 (significand digits v).2

/-!
# What the general format denotes
-/

theorem length_toDigits {digits n : Nat} (hdigits : 0 < digits)
    (hlow : 10 ^ (digits - 1) ≤ n) (hhigh : n < 10 ^ digits) :
    (Nat.toDigits 10 n).length = digits := by
  have hle : (Nat.toDigits 10 n).length ≤ digits :=
    (Nat.length_toDigits_le_iff (by norm_num) hdigits).mpr hhigh
  have hge : ¬ (Nat.toDigits 10 n).length < digits := by
    intro hlt
    have hpos : 0 < (Nat.toDigits 10 n).length := Nat.length_toDigits_pos
    have hshort : (Nat.toDigits 10 n).length ≤ digits - 1 := by omega
    have hsmall := (Nat.length_toDigits_le_iff (by norm_num) (by omega)).mp hshort
    omega
  omega

theorem value_layout {digits n : Nat} (hlength : (Nat.toDigits 10 n).length = digits)
    (negative : Bool) (exponent : Int) :
    (layout digits negative n exponent).value =
      (if negative then -1 else 1) *
        (n * 10 ^ (exponent - ((digits : Int) - 1))) := by
  have hpoint : forall k, (Nat.toDigits 10 n).take k ++ (Nat.toDigits 10 n).drop k =
      List.replicate 0 '0' ++ Nat.toDigits 10 n :=
    fun k => List.take_append_drop k _
  unfold layout
  split
  · split
    · have hzeros : ['0'] ++ (List.replicate (-exponent - 1).toNat '0' ++
          Nat.toDigits 10 n) =
            List.replicate ((-exponent - 1).toNat + 1) '0' ++ Nat.toDigits 10 n := by
        rw [List.replicate_succ]
        rfl
      rw [value_written, decimalValue_of_digits hzeros, List.length_append,
        List.length_replicate, hlength]
      congr 3
      show (0 : Int) - _ = _
      push_cast
      omega
    · rw [value_written, decimalValue_of_digits (hpoint _), List.length_drop, hlength]
      congr 3
      show (0 : Int) - _ = _
      omega
  · rw [value_written, decimalValue_of_digits (hpoint _), List.length_drop, hlength]
    congr 3
    show exponent - _ = _
    have hpos : 0 < (Nat.toDigits 10 n).length := Nat.length_toDigits_pos
    omega

/-- The general format denotes the rounded number. -/
theorem value_general {digits : Nat} (hdigits : 0 < digits) (negative : Bool) {v : Rat}
    (hv : 0 < v) :
    (general digits negative v).value =
      (if negative then -1 else 1) * rounded digits v := by
  rcases significand_bounds hdigits hv with ⟨hlow, hhigh⟩
  unfold general
  rw [if_neg (ne_of_gt hv)]
  exact value_layout (length_toDigits hdigits hlow hhigh) negative _

theorem value_zero (digits : Nat) (negative : Bool) :
    (general digits negative 0).value = 0 := by
  have hzero : ['0'] ++ [] = List.replicate 0 '0' ++ Nat.toDigits 10 0 := rfl
  unfold general zero
  rw [if_pos rfl, value_written, decimalValue_of_digits hzero, Nat.cast_zero, zero_mul,
    mul_zero]

end GeneralFormat
end Foundation
end VirtualFactory
