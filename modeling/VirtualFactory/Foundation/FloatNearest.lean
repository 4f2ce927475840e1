import Mathlib.Algebra.Order.Round
import Mathlib.Data.Int.Log
import VirtualFactory.Foundation.FloatValue

/-!
# Rounding rational numbers

The number of a binary format nearest to a rational number, with ties to even.  It lies
on the grid of the last place that the size of the rational number gives, and numbers with
a finer last place are smaller than the whole binade.
-/

namespace VirtualFactory
namespace Foundation

def roundEven (y : Rat) : Int :=
  if Int.fract y = 1 / 2 ∧ ⌊y⌋ % 2 = 0 then ⌊y⌋ else round y

theorem roundEven_le (y : Rat) (z : Int) : |y - roundEven y| ≤ |y - z| := by
  unfold roundEven
  split
  · rename_i htie
    have hround : |y - ⌊y⌋| = |y - round y| := by
      rw [abs_sub_round_eq_min, Int.self_sub_floor, htie.left]
      norm_num
    rw [hround]
    exact round_le y z
  · exact round_le y z

theorem roundEven_nonneg {y : Rat} (hy : 0 ≤ y) : 0 ≤ roundEven y := by
  have hfloor : 0 ≤ ⌊y⌋ := Int.floor_nonneg.mpr hy
  unfold roundEven
  split
  · exact hfloor
  · rw [round_eq]
    exact Int.floor_nonneg.mpr (by linarith)

theorem roundEven_le_of_lt {y : Rat} {n : Int} (h : y < n + 1 / 2) : roundEven y ≤ n := by
  unfold roundEven
  split
  · exact Int.lt_add_one_iff.mp (Int.floor_lt.mpr (by push_cast; linarith))
  · rw [round_eq]
    exact Int.lt_add_one_iff.mp (Int.floor_lt.mpr (by push_cast; linarith))

theorem le_roundEven {y : Rat} {n : Int} (h : (n : Rat) ≤ y) : n ≤ roundEven y := by
  unfold roundEven
  split
  · exact Int.le_floor.mpr h
  · rw [round_eq]
    exact Int.le_floor.mpr (by linarith)

theorem le_roundEven_of_even {y : Rat} {n : Int} (hn : n % 2 = 0) (h : (n : Rat) - 1 / 2 ≤ y) :
    n ≤ roundEven y := by
  unfold roundEven
  split
  · rename_i htie
    have hparts : (⌊y⌋ : Rat) + 1 / 2 = y := by
      rw [← htie.left]
      exact Int.floor_add_fract y
    have hfloor : n - 1 ≤ ⌊y⌋ := by
      have hcast : ((n - 1 : Int) : Rat) ≤ ⌊y⌋ := by
        push_cast
        linarith
      exact_mod_cast hcast
    have heven := htie.right
    omega
  · rw [round_eq]
    exact Int.le_floor.mpr (by linarith)

namespace BinaryFloat

variable {fmt : FloatFormat}

/-- The exponent of the last place for numbers of the size of a rational number. -/
def lastPlace (fmt : FloatFormat) (x : Rat) : Int :=
  if x = 0 then fmt.emin else max (Int.log 2 x + 1 - fmt.precision) fmt.emin

/-- Rounding up to the next power of two moves the exponent. -/
def carry (fmt : FloatFormat) (mantissa : Nat) (last : Int) : Nat × Int :=
  if mantissa = 2 ^ fmt.precision then (2 ^ (fmt.precision - 1), last + 1)
  else (mantissa, last)

def pack (fmt : FloatFormat) (negative : Bool) (parts : Nat × Int) : BinaryFloat fmt :=
  if h : fmt.Canonical parts.1 parts.2 then .finite negative parts.1 parts.2 h
  else .infinite negative

/-- The number of the format nearest to a rational number that is not negative, with a
sign. -/
def nearest (fmt : FloatFormat) (negative : Bool) (x : Rat) : BinaryFloat fmt :=
  pack fmt negative
    (carry fmt (roundEven (x / 2 ^ lastPlace fmt x)).toNat (lastPlace fmt x))

theorem value_carry (hprecision : 0 < fmt.precision) (mantissa : Nat) (last : Int) :
    ((carry fmt mantissa last).1 : Rat) * 2 ^ (carry fmt mantissa last).2 =
      mantissa * 2 ^ last := by
  unfold carry
  split
  · rename_i hcarry
    rw [hcarry]
    have hexponent : ((fmt.precision - 1 : Nat) : Int) = fmt.precision - 1 := by omega
    push_cast
    rw [← zpow_natCast, ← zpow_natCast, hexponent, ← zpow_add₀ (by norm_num),
      ← zpow_add₀ (by norm_num)]
    congr 1
    ring
  · rfl

theorem value_pack {negative : Bool} {parts : Nat × Int} {r : Rat}
    (h : (pack fmt negative parts).value = some r) :
    r = (if negative then -1 else 1) * (parts.1 * 2 ^ parts.2) := by
  unfold pack at h
  split at h
  · exact (Option.some.inj h).symm
  · cases h

/-- The number is finite, and no number of the format is nearer. -/
def IsNearest (v : BinaryFloat fmt) (x : Rat) : Prop :=
  exists r, v.value = some r ∧
    forall (w : BinaryFloat fmt) s, w.value = some s -> |r - x| ≤ |s - x|

def gridValue (fmt : FloatFormat) (x : Rat) : Rat :=
  roundEven (x / 2 ^ lastPlace fmt x) * 2 ^ lastPlace fmt x

theorem gridValue_le (fmt : FloatFormat) (x : Rat) (z : Int) :
    |gridValue fmt x - x| ≤ |z * 2 ^ lastPlace fmt x - x| := by
  have hpos : (0 : Rat) < 2 ^ lastPlace fmt x := zpow_pos (by norm_num) _
  have hscale : forall n : Int, |(n : Rat) * 2 ^ lastPlace fmt x - x| =
      |x / 2 ^ lastPlace fmt x - n| * 2 ^ lastPlace fmt x := by
    intro n
    rw [← abs_of_pos hpos, ← abs_mul, sub_mul, abs_of_pos hpos, div_mul_cancel₀ _ hpos.ne',
      abs_sub_comm]
  unfold gridValue
  rw [hscale, hscale]
  exact mul_le_mul_of_nonneg_right (roundEven_le _ z) hpos.le

theorem lastPlace_of_above {x : Rat} {e : Int} (hmin : fmt.emin ≤ e)
    (h : e < lastPlace fmt x) :
    x ≠ 0 ∧ lastPlace fmt x = Int.log 2 x + 1 - fmt.precision := by
  unfold lastPlace at h ⊢
  split at h
  · exact absurd hmin (not_le.mpr h)
  · rename_i hx
    rw [if_neg hx]
    refine ⟨hx, ?_⟩
    omega

/-- A number of the format lies on the grid, or has a finer last place and is below the
power of two below the rational number. -/
theorem grid_or_below (x : Rat) {w : BinaryFloat fmt} {s : Rat} (hs : w.value = some s) :
    (exists z : Int, s = z * 2 ^ lastPlace fmt x) ∨
      (x ≠ 0 ∧ lastPlace fmt x = Int.log 2 x + 1 - fmt.precision ∧ s < 2 ^ Int.log 2 x) := by
  cases w with
  | nan => cases hs
  | infinite negative => cases hs
  | finite negative m e hcanonical =>
      have hvalue : s = ratOf negative m e := (Option.some.inj hs).symm
      by_cases hcoarse : lastPlace fmt x ≤ e
      · apply Or.inl
        have hpower : (2 : Rat) ^ e =
            2 ^ (e - lastPlace fmt x).toNat * 2 ^ lastPlace fmt x := by
          have hexponent : ((e - lastPlace fmt x).toNat : Int) = e - lastPlace fmt x := by
            omega
          rw [← zpow_natCast, hexponent, ← zpow_add₀ (by norm_num), sub_add_cancel]
        refine ⟨(if negative then -1 else 1) * (m * 2 ^ (e - lastPlace fmt x).toNat), ?_⟩
        rw [hvalue]
        unfold ratOf
        rw [hpower]
        push_cast
        ring
      · have hfine : e < lastPlace fmt x := not_le.mp hcoarse
        rcases lastPlace_of_above hcanonical.2.1 hfine with ⟨hx, hlast⟩
        refine Or.inr ⟨hx, hlast, ?_⟩
        have hpos : (0 : Rat) < 2 ^ e := zpow_pos (by norm_num) e
        have hmagnitude : (m : Rat) * 2 ^ e < 2 ^ fmt.precision * 2 ^ e :=
          mul_lt_mul_of_pos_right (by exact_mod_cast hcanonical.1) hpos
        have hsmall : (2 : Rat) ^ fmt.precision * 2 ^ e ≤ 2 ^ Int.log 2 x := by
          rw [← zpow_natCast, ← zpow_add₀ (by norm_num)]
          exact zpow_le_zpow_right₀ (by norm_num) (by omega)
        have hle : s ≤ m * 2 ^ e := by
          rw [hvalue]
          unfold ratOf
          have hnonneg : 0 ≤ (m : Rat) * 2 ^ e := mul_nonneg (Nat.cast_nonneg m) hpos.le
          cases negative with
          | false => simp
          | true =>
              simp only [if_true]
              linarith
        exact lt_of_le_of_lt hle (lt_of_lt_of_le hmagnitude hsmall)

theorem gridValue_nearest (hprecision : 0 < fmt.precision) {x : Rat} (hx : 0 ≤ x)
    {w : BinaryFloat fmt} {s : Rat} (hs : w.value = some s) :
    |gridValue fmt x - x| ≤ |s - x| := by
  rcases grid_or_below x hs with ⟨z, rfl⟩ | ⟨hne, hlast, hbelow⟩
  · exact gridValue_le fmt x z
  · -- the power of two below the rational number lies on the grid
    have hpower : ((2 ^ (fmt.precision - 1) : Int) : Rat) * 2 ^ lastPlace fmt x =
        2 ^ Int.log 2 x := by
      have hexponent : ((fmt.precision - 1 : Nat) : Int) = fmt.precision - 1 := by omega
      push_cast
      rw [← zpow_natCast, hexponent, ← zpow_add₀ (by norm_num), hlast]
      congr 1
      ring
    have hgrid := gridValue_le fmt x (2 ^ (fmt.precision - 1))
    rw [hpower] at hgrid
    have hlow : (2 : Rat) ^ Int.log 2 x ≤ x :=
      Int.zpow_log_le_self (by norm_num) (lt_of_le_of_ne hx hne.symm)
    rw [abs_of_nonpos (by linarith : (2 : Rat) ^ Int.log 2 x - x ≤ 0)] at hgrid
    rw [abs_of_nonpos (by linarith : s - x ≤ 0)]
    linarith

theorem value_nearest (hprecision : 0 < fmt.precision) {negative : Bool} {x : Rat}
    (hx : 0 ≤ x) {r : Rat} (h : (nearest fmt negative x).value = some r) :
    r = (if negative then -1 else 1) * gridValue fmt x := by
  have hnonneg : 0 ≤ roundEven (x / 2 ^ lastPlace fmt x) :=
    roundEven_nonneg (div_nonneg hx (zpow_pos (by norm_num) _).le)
  have hmantissa : (((roundEven (x / 2 ^ lastPlace fmt x)).toNat : Nat) : Rat) =
      roundEven (x / 2 ^ lastPlace fmt x) := by
    exact_mod_cast Int.toNat_of_nonneg hnonneg
  rw [value_pack h, value_carry hprecision, hmantissa]
  rfl

theorem value_neg {w : BinaryFloat fmt} {s : Rat} (h : w.value = some s) :
    exists v : BinaryFloat fmt, v.value = some (-s) := by
  cases w with
  | nan => cases h
  | infinite negative => cases h
  | finite negative m e hcanonical =>
      refine ⟨.finite (!negative) m e hcanonical, ?_⟩
      rw [← Option.some.inj h]
      unfold value ratOf
      cases negative with
      | false => simp
      | true => simp

/-- A rational number is rounded to the nearest number of the format, if that is finite. -/
theorem isNearest_nearest (hprecision : 0 < fmt.precision) {negative : Bool} {x r : Rat}
    (hx : 0 ≤ x) (h : (nearest fmt negative x).value = some r) :
    IsNearest (nearest fmt negative x) ((if negative then -1 else 1) * x) := by
  refine ⟨r, h, ?_⟩
  intro w s hs
  rw [value_nearest hprecision hx h]
  cases negative with
  | false =>
      simp only [Bool.false_eq_true, if_false, one_mul]
      exact gridValue_nearest hprecision hx hs
  | true =>
      rcases value_neg hs with ⟨v, hv⟩
      have hnear := gridValue_nearest hprecision hx hv
      simp only [if_true]
      rw [show -1 * gridValue fmt x - -1 * x = -(gridValue fmt x - x) by ring,
        show s - -1 * x = -(-s - x) by ring, abs_neg, abs_neg]
      exact hnear

/-!
# Overflow
-/

/-- Half a unit of the last place above the largest number. -/
def overflowThreshold (fmt : FloatFormat) : Rat :=
  (2 ^ fmt.precision - 1 / 2) * 2 ^ fmt.emax

theorem value_pack_isSome_iff {negative : Bool} {parts : Nat × Int} :
    (pack fmt negative parts).value.isSome <-> fmt.Canonical parts.1 parts.2 := by
  unfold pack
  split
  · rename_i hcanonical
    exact ⟨fun _ => hcanonical, fun _ => rfl⟩
  · rename_i hnot
    exact ⟨fun h => Bool.noConfusion h, fun h => absurd h hnot⟩

theorem canonical_carry_iff (hprecision : 0 < fmt.precision) {mantissa : Nat} {last : Int}
    (hmin : fmt.emin ≤ last) (hlarge : mantissa ≤ 2 ^ fmt.precision)
    (hfull : last = fmt.emin ∨ 2 ^ (fmt.precision - 1) ≤ mantissa) :
    fmt.Canonical (carry fmt mantissa last).1 (carry fmt mantissa last).2 <->
      last ≤ fmt.emax ∧ (mantissa = 2 ^ fmt.precision -> last + 1 ≤ fmt.emax) := by
  have hhalf : 2 ^ (fmt.precision - 1) < 2 ^ fmt.precision :=
    Nat.pow_lt_pow_right (by omega) (by omega)
  unfold carry FloatFormat.Canonical
  split
  · rename_i hcarry
    constructor
    · intro h
      exact ⟨by omega, fun _ => h.right.right.left⟩
    · intro h
      exact ⟨hhalf, by omega, h.right hcarry, Or.inr (Nat.le_refl _)⟩
  · rename_i hcarry
    constructor
    · intro h
      exact ⟨h.right.right.left, fun heq => absurd heq hcarry⟩
    · intro h
      exact ⟨by omega, hmin, h.left, hfull⟩

theorem scaled_bounds (fmt : FloatFormat) {x : Rat} (hx : 0 < x) :
    fmt.emin ≤ lastPlace fmt x ∧ x / 2 ^ lastPlace fmt x < 2 ^ fmt.precision ∧
      (lastPlace fmt x = fmt.emin ∨
        ((2 ^ (fmt.precision - 1 : Int) : Rat) ≤ x / 2 ^ lastPlace fmt x)) := by
  have hpos : (0 : Rat) < 2 ^ lastPlace fmt x := zpow_pos (by norm_num) _
  have hlast : lastPlace fmt x = max (Int.log 2 x + 1 - fmt.precision) fmt.emin :=
    if_neg hx.ne'
  refine ⟨by omega, ?_, ?_⟩
  · rw [div_lt_iff₀ hpos, ← zpow_natCast, ← zpow_add₀ (by norm_num)]
    have hlog : x < 2 ^ (Int.log 2 x + 1) := Int.lt_zpow_succ_log_self (by norm_num) x
    exact lt_of_lt_of_le hlog (zpow_le_zpow_right₀ (by norm_num) (by omega))
  · by_cases hmin : lastPlace fmt x = fmt.emin
    · exact Or.inl hmin
    · apply Or.inr
      rw [le_div_iff₀ hpos, ← zpow_add₀ (by norm_num)]
      have hlog : (2 : Rat) ^ Int.log 2 x ≤ x := Int.zpow_log_le_self (by norm_num) hx
      exact le_trans (zpow_le_zpow_right₀ (by norm_num) (by omega)) hlog

theorem mantissa_bounds (hprecision : 0 < fmt.precision) {x : Rat} (hx : 0 < x) :
    (roundEven (x / 2 ^ lastPlace fmt x)).toNat ≤ 2 ^ fmt.precision ∧
      (lastPlace fmt x = fmt.emin ∨
        2 ^ (fmt.precision - 1) ≤ (roundEven (x / 2 ^ lastPlace fmt x)).toNat) ∧
      ((roundEven (x / 2 ^ lastPlace fmt x)).toNat = 2 ^ fmt.precision <->
        2 ^ fmt.precision - 1 / 2 ≤ x / 2 ^ lastPlace fmt x) := by
  rcases scaled_bounds fmt hx with ⟨_, hbelow, hfull⟩
  generalize hy : x / 2 ^ lastPlace fmt x = y at hbelow hfull ⊢
  have hnonneg : 0 ≤ y := by
    rw [← hy]
    exact div_nonneg hx.le (zpow_pos (by norm_num) _).le
  have hcast : (((2 ^ fmt.precision : Nat) : Int) : Rat) = 2 ^ fmt.precision := by
    push_cast
    rfl
  have hlarge : roundEven y ≤ ((2 ^ fmt.precision : Nat) : Int) :=
    roundEven_le_of_lt (by rw [hcast]; linarith)
  have hpositive := roundEven_nonneg hnonneg
  refine ⟨Int.toNat_le.mpr hlarge, ?_, ?_⟩
  · rcases hfull with hmin | hfull
    · exact Or.inl hmin
    · apply Or.inr
      have hexponent : ((fmt.precision - 1 : Nat) : Int) = fmt.precision - 1 := by omega
      have hround : ((2 ^ (fmt.precision - 1) : Nat) : Int) ≤ roundEven y := by
        apply le_roundEven
        push_cast
        rw [← zpow_natCast, hexponent]
        exact hfull
      omega
  · constructor
    · intro hcarry
      by_contra hless
      have hsmaller : roundEven y ≤ ((2 ^ fmt.precision : Nat) : Int) - 1 := by
        apply roundEven_le_of_lt
        push_cast
        linarith [not_le.mp hless]
      omega
    · intro hhalf
      have heven : ((2 ^ fmt.precision : Nat) : Int) % 2 = 0 := by
        have hdvd : 2 ∣ 2 ^ fmt.precision := dvd_pow_self 2 (by omega)
        omega
      have hround : ((2 ^ fmt.precision : Nat) : Int) ≤ roundEven y :=
        le_roundEven_of_even heven (by rw [hcast]; exact hhalf)
      omega

theorem two_mul_zpow_le {m n : Int} (h : m < n) : (2 : Rat) * 2 ^ m ≤ 2 ^ n := by
  rw [← zpow_one_add₀ (by norm_num)]
  exact zpow_le_zpow_right₀ (by norm_num) (by omega)

/-- Numbers below the threshold are rounded to finite numbers, the others overflow. -/
theorem nearest_isSome_iff (hprecision : 0 < fmt.precision) (hrange : fmt.emin ≤ fmt.emax)
    (negative : Bool) {x : Rat} (hx : 0 ≤ x) :
    (nearest fmt negative x).value.isSome <-> x < overflowThreshold fmt := by
  have hone : (1 : Rat) ≤ 2 ^ fmt.precision := one_le_pow₀ (by norm_num)
  have hemax : (0 : Rat) < 2 ^ fmt.emax := zpow_pos (by norm_num) _
  unfold nearest
  rw [value_pack_isSome_iff]
  rcases hx.eq_or_lt with rfl | hpos
  · -- zero has the smallest exponent
    have hlast : lastPlace fmt 0 = fmt.emin := if_pos rfl
    have hmantissa : (roundEven (0 / 2 ^ lastPlace fmt 0)).toNat = 0 := by
      rw [zero_div]
      decide +kernel
    have hpower : 0 < 2 ^ fmt.precision := Nat.two_pow_pos _
    rw [hlast] at hmantissa ⊢
    rw [hmantissa, canonical_carry_iff hprecision (le_refl _) (by omega) (Or.inl rfl)]
    constructor
    · intro _
      exact mul_pos (by linarith) hemax
    · intro _
      exact ⟨hrange, fun hzero => absurd hzero (by omega)⟩
  · rcases scaled_bounds fmt hpos with ⟨hmin, hbelow, hfull⟩
    rcases mantissa_bounds hprecision hpos with ⟨hlarge, hmantissa, hcarry⟩
    rw [canonical_carry_iff hprecision hmin hlarge hmantissa, hcarry]
    have hunit : (0 : Rat) < 2 ^ lastPlace fmt x := zpow_pos (by norm_num) _
    rw [div_lt_iff₀ hunit] at hbelow
    rw [le_div_iff₀ hunit] at hfull ⊢
    unfold overflowThreshold
    constructor
    · intro h
      rcases h with ⟨hle, hover⟩
      rcases hle.lt_or_eq with hless | heq
      · -- a smaller last place leaves half of the largest binade
        have hdouble := two_mul_zpow_le hless
        calc
          x < 2 ^ fmt.precision * 2 ^ lastPlace fmt x := hbelow
          _ ≤ 2 ^ fmt.precision * (2 ^ fmt.emax / 2) := by
            gcongr
            linarith
          _ = 2 ^ fmt.precision / 2 * 2 ^ fmt.emax := by ring
          _ ≤ (2 ^ fmt.precision - 1 / 2) * 2 ^ fmt.emax := by
            gcongr
            linarith
      · rw [heq] at hover
        by_contra hlarge
        exact absurd (hover (not_lt.mp hlarge)) (by omega)
    · intro hx
      have hle : lastPlace fmt x ≤ fmt.emax := by
        by_contra hless
        have hdouble := two_mul_zpow_le (not_le.mp hless)
        have hnormal := hfull.resolve_left (by omega)
        have hpower : (2 : Rat) ^ fmt.precision = 2 ^ (fmt.precision - 1 : Int) * 2 := by
          rw [← zpow_natCast, ← zpow_add_one₀ (by norm_num), Int.sub_add_cancel]
        apply not_le.mpr hx
        calc
          ((2 : Rat) ^ fmt.precision - 1 / 2) * 2 ^ fmt.emax ≤
              2 ^ fmt.precision * 2 ^ fmt.emax := by
            gcongr
            linarith
          _ = 2 ^ (fmt.precision - 1 : Int) * (2 * 2 ^ fmt.emax) := by
            rw [hpower]
            ring
          _ ≤ 2 ^ (fmt.precision - 1 : Int) * 2 ^ lastPlace fmt x := by gcongr
          _ ≤ x := hnormal
      refine ⟨hle, ?_⟩
      intro hover
      have hne : lastPlace fmt x ≠ fmt.emax := by
        intro heq
        rw [heq] at hover
        exact absurd hx (not_lt.mpr hover)
      omega

end BinaryFloat

end Foundation
end VirtualFactory
