import Mathlib.Algebra.Order.Field.Rat
import Mathlib.Algebra.Order.Field.Power
import Mathlib.Data.Rat.Floor
import Mathlib.Tactic.FieldSimp
import Mathlib.Tactic.Linarith
import Mathlib.Tactic.NormNum
import Mathlib.Tactic.Ring
import VirtualFactory.Foundation.BinaryFloat

/-!
# Binary floating point numbers as rational numbers

The finite numbers of a format are rational numbers.  The comparisons and the roundings
of the format are those of the rational numbers.
-/

namespace VirtualFactory
namespace Foundation
namespace BinaryFloat

variable {fmt : FloatFormat}

def ratOf (negative : Bool) (m : Nat) (e : Int) : Rat :=
  (if negative then -1 else 1) * (m * 2 ^ e)

def value : BinaryFloat fmt -> Option Rat
  | finite negative m e _ => some (ratOf negative m e)
  | _ => none

/-!
# Comparisons
-/

theorem ratOf_scaled {e : Int} (he : fmt.emin ≤ e) (negative : Bool) (m : Nat) :
    (scaled negative m fmt e : Rat) * 2 ^ fmt.emin = ratOf negative m e := by
  have hpower : (2 : Rat) ^ (e - fmt.emin).toNat * 2 ^ fmt.emin = 2 ^ e := by
    have hexponent : ((e - fmt.emin).toNat : Int) = e - fmt.emin := by omega
    rw [← zpow_natCast, hexponent, ← zpow_add₀ (by norm_num), sub_add_cancel]
  unfold scaled ratOf
  rw [← hpower]
  cases negative with
  | false =>
      simp only [Bool.false_eq_true, if_false]
      push_cast
      ring
  | true =>
      simp only [if_true]
      push_cast
      ring

theorem lt_iff_of_value {x y : BinaryFloat fmt} {r s : Rat} (hx : x.value = some r)
    (hy : y.value = some s) : lt x y = true <-> r < s := by
  cases x with
  | nan => cases hx
  | infinite negative => cases hx
  | finite a m e hcanonical =>
      cases y with
      | nan => cases hy
      | infinite negative => cases hy
      | finite b n d dcanonical =>
          cases hx
          cases hy
          have hpos : (0 : Rat) < 2 ^ fmt.emin := zpow_pos (by norm_num) _
          rw [← ratOf_scaled hcanonical.2.1, ← ratOf_scaled dcanonical.2.1,
            mul_lt_mul_iff_left₀ hpos, Int.cast_lt]
          exact decide_eq_true_iff

/-!
# Rounding to an integer
-/

/-- The integer nearest to a rational number, the one further from zero when there
are two. -/
structure NearestAway (x : Rat) (n : Int) : Prop where
  ofNonneg : 0 ≤ x -> (n : Rat) - 1 / 2 ≤ x ∧ x < n + 1 / 2
  ofNeg : x < 0 -> (n : Rat) - 1 / 2 < x ∧ x ≤ n + 1 / 2

theorem NearestAway.abs_sub_le {x : Rat} {n : Int} (h : NearestAway x n) :
    |(n : Rat) - x| ≤ 1 / 2 := by
  rw [abs_le]
  rcases le_or_gt 0 x with hx | hx
  · have hbounds := h.ofNonneg hx
    constructor <;> linarith
  · have hbounds := h.ofNeg hx
    constructor <;> linarith

theorem NearestAway.neg {x : Rat} {n : Int} (hx : 0 < x) (h : NearestAway x n) :
    NearestAway (-x) (-n) := by
  have hbounds := h.ofNonneg hx.le
  constructor
  · intro hneg
    exact absurd hneg (by linarith)
  · intro _
    push_cast
    constructor <;> linarith

theorem NearestAway.le_iff_of_pos {x : Rat} {n b : Int} (h : NearestAway x n)
    (hb : 0 < b) : b ≤ n <-> (b : Rat) - 1 / 2 ≤ x := by
  have hone : (1 : Rat) ≤ b := by exact_mod_cast hb
  constructor
  · intro hle
    have hcast : (b : Rat) ≤ n := Int.cast_le.mpr hle
    rcases le_or_gt 0 x with hx | hx
    · linarith [(h.ofNonneg hx).1]
    · linarith [(h.ofNeg hx).1]
  · intro hle
    have hx : 0 ≤ x := by linarith
    have hlt : (b : Rat) < (n + 1 : Int) := by
      push_cast
      linarith [(h.ofNonneg hx).2]
    exact Int.lt_add_one_iff.mp (Int.cast_lt.mp hlt)

theorem NearestAway.le_iff_of_nonpos {x : Rat} {n b : Int} (h : NearestAway x n)
    (hb : b ≤ 0) : b ≤ n <-> (b : Rat) - 1 / 2 < x := by
  have hzero : (b : Rat) ≤ 0 := by exact_mod_cast hb
  constructor
  · intro hle
    have hcast : (b : Rat) ≤ n := Int.cast_le.mpr hle
    rcases le_or_gt 0 x with hx | hx
    · linarith
    · linarith [(h.ofNeg hx).1]
  · intro hlt
    rcases le_or_gt 0 x with hx | hx
    · have hnonneg : ((-1 : Int) : Rat) < n := by
        push_cast
        linarith [(h.ofNonneg hx).2]
      have hn := Int.cast_lt.mp hnonneg
      omega
    · have hcast : (b : Rat) < (n + 1 : Int) := by
        push_cast
        linarith [(h.ofNeg hx).2]
      exact Int.lt_add_one_iff.mp (Int.cast_lt.mp hcast)

theorem NearestAway.eq_iff_of_pos {x : Rat} {n m : Int} (h : NearestAway x n)
    (hm : 0 < m) : n = m <-> (m : Rat) - 1 / 2 ≤ x ∧ x < m + 1 / 2 := by
  have hnext := not_congr (h.le_iff_of_pos (b := m + 1) (by omega))
  rw [not_le (b := x)] at hnext
  have hhalf : ((m + 1 : Int) : Rat) - 1 / 2 = m + 1 / 2 := by
    push_cast
    ring
  rw [← h.le_iff_of_pos hm, ← hhalf, ← hnext]
  omega

theorem NearestAway.eq_iff_of_neg {x : Rat} {n m : Int} (h : NearestAway x n)
    (hm : m < 0) : n = m <-> (m : Rat) - 1 / 2 < x ∧ x ≤ m + 1 / 2 := by
  have hnext := not_congr (h.le_iff_of_nonpos (b := m + 1) (by omega))
  rw [not_lt] at hnext
  have hhalf : ((m + 1 : Int) : Rat) - 1 / 2 = m + 1 / 2 := by
    push_cast
    ring
  rw [← h.le_iff_of_nonpos hm.le, ← hhalf, ← hnext]
  omega

theorem nearestAway_div (k : Nat) {one : Nat} (hone : 0 < one) :
    NearestAway ((k : Rat) / one) ((2 * k + one) / (2 * one) : Nat) := by
  have hpos : (0 : Rat) < one := by exact_mod_cast hone
  generalize hn : (2 * k + one) / (2 * one) = n
  have hbounds := (Nat.div_eq_iff (by omega)).mp hn
  have hlow : ((n * (2 * one) : Nat) : Rat) ≤ ((2 * k + one : Nat) : Rat) :=
    Nat.cast_le.mpr hbounds.1
  have hhigh : ((2 * k + one : Nat) : Rat) < ((n * (2 * one) + 2 * one : Nat) : Rat) :=
    Nat.cast_lt.mpr (by omega)
  push_cast at hlow hhigh
  constructor
  · intro _
    rw [Int.cast_natCast, le_div_iff₀ hpos, div_lt_iff₀ hpos]
    constructor <;> nlinarith
  · intro hneg
    have hnonneg : (0 : Rat) ≤ k / one := by positivity
    exact absurd hneg (by linarith)

theorem nearestAway_roundAway (hmin : fmt.emin ≤ 0) (k : Int) :
    NearestAway (k * 2 ^ fmt.emin) (roundAway fmt k) := by
  have hone : 0 < 2 ^ (-fmt.emin).toNat := Nat.two_pow_pos _
  have hunit : (2 : Rat) ^ fmt.emin = 1 / ((2 ^ (-fmt.emin).toNat : Nat) : Rat) := by
    have hexponent : fmt.emin = -((-fmt.emin).toNat : Int) := by omega
    conv => lhs; rw [hexponent]
    rw [zpow_neg, zpow_natCast, one_div]
    norm_num
  have hmagnitude := nearestAway_div k.natAbs hone
  unfold roundAway
  rw [hunit, mul_one_div]
  rcases lt_or_ge k 0 with hneg | hnonneg
  · have hcast : (k : Rat) = -(k.natAbs : Rat) := by
      have habs : k = -(k.natAbs : Int) := by omega
      conv => lhs; rw [habs]
      rw [Int.cast_neg, Int.cast_natCast]
    have hpos : (0 : Rat) < k.natAbs / ((2 ^ (-fmt.emin).toNat : Nat) : Rat) := by
      have habs : (0 : Rat) < k.natAbs := by
        exact_mod_cast Int.natAbs_pos.mpr hneg.ne
      positivity
    simp only [if_pos hneg]
    rw [hcast, neg_div]
    exact hmagnitude.neg hpos
  · have hcast : (k : Rat) = (k.natAbs : Rat) := by
      have habs : k = (k.natAbs : Int) := by omega
      conv => lhs; rw [habs]
      rw [Int.cast_natCast]
    simp only [if_neg (not_lt.mpr hnonneg)]
    rw [hcast]
    exact hmagnitude

/-- A finite number is rounded to the integer nearest to it. -/
theorem nearestAway_scaled (hmin : fmt.emin ≤ 0) {e : Int} (he : fmt.emin ≤ e)
    (negative : Bool) (m : Nat) :
    NearestAway (ratOf negative m e) (roundAway fmt (scaled negative m fmt e)) := by
  rw [← ratOf_scaled he]
  exact nearestAway_roundAway hmin _

/-!
# Integers
-/

theorem shift_mul (m : Nat) {last : Int} (hlast : last ≤ 0) :
    ((m * 2 ^ (0 - last).toNat : Nat) : Rat) * 2 ^ last = m := by
  have hpower : ((2 ^ (0 - last).toNat : Nat) : Rat) * 2 ^ last = 1 := by
    have hcast : ((2 ^ (0 - last).toNat : Nat) : Rat) = 2 ^ (-last) := by
      have hexponent : -last = ((0 - last).toNat : Int) := by omega
      rw [hexponent, zpow_natCast]
      norm_num
    rw [hcast, ← zpow_add₀ (by norm_num), neg_add_cancel, zpow_zero]
  rw [Nat.cast_mul, mul_assoc, hpower, mul_one]

theorem round_exact (hmin : fmt.emin ≤ 0) (hmax : 0 ≤ fmt.emax) (negative : Bool)
    {m : Nat} (hm : m < 2 ^ fmt.precision) :
    exists m' e' h, round fmt negative m 0 = finite negative m' e' h ∧
      (m' : Rat) * 2 ^ e' = m := by
  rcases Nat.eq_zero_or_pos m with rfl | hpos
  · have hcanonical : fmt.Canonical 0 fmt.emin :=
      ⟨Nat.two_pow_pos _, le_refl _, hmin.trans hmax, Or.inl rfl⟩
    refine ⟨0, fmt.emin, hcanonical, ?_, ?_⟩
    · have hne : (0 : Nat) ≠ 2 ^ fmt.precision := (Nat.two_pow_pos _).ne
      unfold round
      simp only [if_true, if_neg hne]
      rw [dif_pos hcanonical]
    · rw [Nat.cast_zero, zero_mul]
  · have hlow : 2 ^ m.log2 ≤ m := Nat.log2_self_le hpos.ne'
    have hhigh : m < 2 ^ (m.log2 + 1) := Nat.lt_log2_self
    have hbits : m.log2 + 1 ≤ fmt.precision := by
      have hlt := lt_of_le_of_lt hlow hm
      exact (Nat.pow_lt_pow_iff_right (by norm_num)).mp hlt
    generalize hlast : max (0 + (m.log2 + 1 : Int) - fmt.precision) fmt.emin = last
    have hle : last ≤ 0 := by omega
    have hshift : m * 2 ^ (0 - last).toNat < 2 ^ fmt.precision := by
      calc m * 2 ^ (0 - last).toNat
          < 2 ^ (m.log2 + 1) * 2 ^ (0 - last).toNat :=
            Nat.mul_lt_mul_of_pos_right hhigh (Nat.two_pow_pos _)
        _ = 2 ^ (m.log2 + 1 + (0 - last).toNat) := (pow_add _ _ _).symm
        _ ≤ 2 ^ fmt.precision := Nat.pow_le_pow_right (by norm_num) (by omega)
    have hcanonical : fmt.Canonical (m * 2 ^ (0 - last).toNat) last := by
      refine ⟨hshift, by omega, by omega, ?_⟩
      by_cases hemin : last = fmt.emin
      · exact Or.inl hemin
      · refine Or.inr ?_
        calc 2 ^ (fmt.precision - 1)
            ≤ 2 ^ (m.log2 + (0 - last).toNat) :=
              Nat.pow_le_pow_right (by norm_num) (by omega)
          _ = 2 ^ m.log2 * 2 ^ (0 - last).toNat := pow_add _ _ _
          _ ≤ m * 2 ^ (0 - last).toNat := Nat.mul_le_mul_right _ hlow
    refine ⟨_, last, hcanonical, ?_, shift_mul m hle⟩
    unfold round
    simp only [hlast, if_neg hpos.ne', if_pos hle, if_neg hshift.ne]
    rw [dif_pos hcanonical]

theorem sign_mul_natAbs (n : Int) :
    (if decide (n < 0) then -1 else 1) * (n.natAbs : Rat) = n := by
  rcases lt_or_ge n 0 with hneg | hpos
  · have habs : (n.natAbs : Int) = -n := by omega
    have hcast : (n.natAbs : Rat) = ((-n : Int) : Rat) := by
      rw [← habs, Int.cast_natCast]
    rw [decide_eq_true hneg, if_pos rfl, hcast, Int.cast_neg]
    ring
  · have habs : (n.natAbs : Int) = n := by omega
    have hcast : (n.natAbs : Rat) = (n : Rat) := by
      conv => rhs; rw [← habs, Int.cast_natCast]
    rw [decide_eq_false (by omega), if_neg Bool.false_ne_true, hcast, one_mul]

theorem ofInt_exact (hmin : fmt.emin ≤ 0) (hmax : 0 ≤ fmt.emax) {n : Int}
    (hn : n.natAbs < 2 ^ fmt.precision) :
    exists m e h, ofInt fmt n = finite (decide (n < 0)) m e h ∧
      (m : Rat) * 2 ^ e = n.natAbs :=
  round_exact hmin hmax (decide (n < 0)) hn

theorem value_ofInt (hmin : fmt.emin ≤ 0) (hmax : 0 ≤ fmt.emax) {n : Int}
    (hn : n.natAbs < 2 ^ fmt.precision) : (ofInt fmt n).value = some (n : Rat) := by
  rcases ofInt_exact hmin hmax hn with ⟨m, e, h, hfinite, hvalue⟩
  rw [hfinite]
  show some (ratOf _ m e) = some (n : Rat)
  unfold ratOf
  rw [hvalue, sign_mul_natAbs]

end BinaryFloat
end Foundation
end VirtualFactory
