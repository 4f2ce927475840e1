import Mathlib.Algebra.Order.BigOperators.Group.List
import Mathlib.Data.List.Forall2
import VirtualFactory.Foundation.FloatNearest

/-!
# Floating point arithmetic

The result of an operation on finite numbers is the exact result, rounded.  Below a power
of two it is at most half a unit of the last place away from the exact one.
-/

namespace VirtualFactory
namespace Foundation

theorem abs_sub_roundEven_le (y : Rat) : |y - roundEven y| ≤ 1 / 2 :=
  (roundEven_le y (round y)).trans (abs_sub_round y)

namespace BinaryFloat

variable {fmt : FloatFormat}

/-- The number nearest to a rational number; the sign is that of a zero. -/
def ofRat (fmt : FloatFormat) (negative : Bool) (x : Rat) : BinaryFloat fmt :=
  nearest fmt (if x = 0 then negative else decide (x < 0)) |x|

def add : BinaryFloat fmt -> BinaryFloat fmt -> BinaryFloat fmt
  | nan, _ => nan
  | _, nan => nan
  | infinite a, infinite b => if a = b then infinite a else nan
  | infinite a, finite _ _ _ _ => infinite a
  | finite _ _ _ _, infinite b => infinite b
  | finite a m e _, finite b n d _ =>
      ofRat fmt (a && b) (ratOf a m e + ratOf b n d)

def mul : BinaryFloat fmt -> BinaryFloat fmt -> BinaryFloat fmt
  | nan, _ => nan
  | _, nan => nan
  | infinite a, infinite b => infinite (a != b)
  | infinite a, finite b n _ _ => if n = 0 then nan else infinite (a != b)
  | finite a m _ _, infinite b => if m = 0 then nan else infinite (a != b)
  | finite a m e _, finite b n d _ =>
      ofRat fmt (a != b) (ratOf a m e * ratOf b n d)

def div : BinaryFloat fmt -> BinaryFloat fmt -> BinaryFloat fmt
  | nan, _ => nan
  | _, nan => nan
  | infinite _, infinite _ => nan
  | infinite a, finite b _ _ _ => infinite (a != b)
  | finite a _ _ _, infinite b => ofRat fmt (a != b) 0
  | finite a m e _, finite b n d _ =>
      if n = 0 then if m = 0 then nan else infinite (a != b)
      else ofRat fmt (a != b) (ratOf a m e / ratOf b n d)

/-!
# The rounding of a rational number
-/

theorem sign_mul_abs (negative : Bool) (x : Rat) :
    (if (if x = 0 then negative else decide (x < 0)) then -1 else 1) * |x| = x := by
  by_cases hzero : x = 0
  · rw [hzero, abs_zero, mul_zero]
  · rw [if_neg hzero]
    by_cases hneg : x < 0
    · rw [if_pos (decide_eq_true hneg), abs_of_neg hneg]
      ring
    · rw [if_neg (by simpa using hneg), abs_of_nonneg (not_lt.mp hneg), one_mul]

theorem isNearest_ofRat (hprecision : 0 < fmt.precision) {negative : Bool} {x r : Rat}
    (h : (ofRat fmt negative x).value = some r) : IsNearest (ofRat fmt negative x) x := by
  have hnearest := isNearest_nearest hprecision (abs_nonneg x) h
  rw [sign_mul_abs] at hnearest
  exact hnearest

/-!
# Rounding errors
-/

/-- Half a unit of the last place of the numbers below a power of two. -/
def halfPlace (fmt : FloatFormat) (k : Int) : Rat :=
  2 ^ max (k - fmt.precision) fmt.emin / 2

theorem halfPlace_nonneg (fmt : FloatFormat) (k : Int) : 0 ≤ halfPlace fmt k :=
  div_nonneg (zpow_pos (by norm_num) _).le (by norm_num)

theorem lastPlace_le {x : Rat} {k : Int} (hx : 0 ≤ x) (hk : x < 2 ^ k) :
    lastPlace fmt x ≤ max (k - fmt.precision) fmt.emin := by
  unfold lastPlace
  split
  · exact le_max_right _ _
  · rename_i hne
    have hlow : (2 : Rat) ^ Int.log 2 x ≤ x :=
      Int.zpow_log_le_self (by norm_num) (lt_of_le_of_ne hx (Ne.symm hne))
    have hlog : Int.log 2 x < k :=
      (zpow_lt_zpow_iff_right₀ (by norm_num : (1 : Rat) < 2)).mp (hlow.trans_lt hk)
    omega

theorem gridValue_error {x : Rat} {k : Int} (hx : 0 ≤ x) (hk : x < 2 ^ k) :
    |gridValue fmt x - x| ≤ halfPlace fmt k := by
  have hpos : (0 : Rat) < 2 ^ lastPlace fmt x := zpow_pos (by norm_num) _
  have hscaled := abs_sub_roundEven_le (x / 2 ^ lastPlace fmt x)
  have hplace : (2 : Rat) ^ lastPlace fmt x ≤ 2 ^ max (k - fmt.precision) fmt.emin :=
    zpow_le_zpow_right₀ (by norm_num) (lastPlace_le hx hk)
  have hsplit : gridValue fmt x - x =
      -((x / 2 ^ lastPlace fmt x - roundEven (x / 2 ^ lastPlace fmt x)) *
        2 ^ lastPlace fmt x) := by
    unfold gridValue
    rw [sub_mul, div_mul_cancel₀ _ hpos.ne']
    ring
  rw [hsplit, abs_neg, abs_mul, abs_of_pos hpos]
  unfold halfPlace
  calc
    |x / 2 ^ lastPlace fmt x - roundEven (x / 2 ^ lastPlace fmt x)| * 2 ^ lastPlace fmt x
        ≤ 1 / 2 * 2 ^ lastPlace fmt x := mul_le_mul_of_nonneg_right hscaled hpos.le
    _ ≤ 1 / 2 * 2 ^ max (k - fmt.precision) fmt.emin :=
        mul_le_mul_of_nonneg_left hplace (by norm_num)
    _ = 2 ^ max (k - fmt.precision) fmt.emin / 2 := by ring

theorem zpow_le_overflowThreshold (hprecision : 0 < fmt.precision) {k : Int}
    (hk : k + 1 ≤ fmt.emax + fmt.precision) : (2 : Rat) ^ k ≤ overflowThreshold fmt := by
  have hemax : (0 : Rat) < 2 ^ fmt.emax := zpow_pos (by norm_num) _
  have hone : (1 : Rat) ≤ 2 ^ (fmt.precision - 1) := one_le_pow₀ (by norm_num)
  have hpower : (2 : Rat) ^ fmt.precision = 2 * 2 ^ (fmt.precision - 1) := by
    rw [← pow_succ', Nat.sub_add_cancel hprecision]
  have hsplit : (2 : Rat) ^ ((fmt.precision - 1 : Nat) + fmt.emax : Int) =
      2 ^ (fmt.precision - 1) * 2 ^ fmt.emax := by
    rw [zpow_add₀ (by norm_num), zpow_natCast]
  calc
    (2 : Rat) ^ k ≤ 2 ^ ((fmt.precision - 1 : Nat) + fmt.emax : Int) :=
        zpow_le_zpow_right₀ (by norm_num) (by omega)
    _ = 2 ^ (fmt.precision - 1) * 2 ^ fmt.emax := hsplit
    _ ≤ (2 ^ fmt.precision - 1 / 2) * 2 ^ fmt.emax := by
        apply mul_le_mul_of_nonneg_right _ hemax.le
        rw [hpower]
        linarith

/-- Rounding a number below a power of two. -/
theorem ofRat_error (hprecision : 0 < fmt.precision) (hrange : fmt.emin ≤ fmt.emax)
    {k : Int} (hk : k + 1 ≤ fmt.emax + fmt.precision) (negative : Bool) {x : Rat}
    (hx : |x| < 2 ^ k) :
    exists r, (ofRat fmt negative x).value = some r ∧ |r - x| ≤ halfPlace fmt k := by
  have hsome : (ofRat fmt negative x).value.isSome :=
    (nearest_isSome_iff hprecision hrange _ (abs_nonneg x)).mpr
      (hx.trans_le (zpow_le_overflowThreshold hprecision hk))
  rcases Option.isSome_iff_exists.mp hsome with ⟨r, hr⟩
  refine ⟨r, hr, ?_⟩
  have hgrid : |gridValue fmt (|x|) - (|x|)| ≤ halfPlace fmt k :=
    gridValue_error (abs_nonneg x) hx
  have hvalue := value_nearest hprecision (abs_nonneg x) hr
  have hsign := sign_mul_abs negative x
  generalize (if x = 0 then negative else decide (x < 0)) = sign at hvalue hsign
  rw [hvalue]
  nth_rewrite 2 [← hsign]
  rw [← mul_sub, abs_mul]
  cases sign with
  | false => simpa using hgrid
  | true => simpa using hgrid

theorem ofRat_nonneg (hprecision : 0 < fmt.precision) (hrange : fmt.emin ≤ fmt.emax)
    {negative : Bool} {x r : Rat} (hx : 0 ≤ x)
    (h : (ofRat fmt negative x).value = some r) : 0 ≤ r := by
  rcases isNearest_ofRat hprecision h with ⟨r', hr', hleast⟩
  rw [h] at hr'
  cases hr'
  -- zero is a number of the format as well
  have hcanonical : fmt.Canonical 0 fmt.emin :=
    ⟨Nat.two_pow_pos _, le_refl _, hrange, Or.inl rfl⟩
  have hzero := hleast (.finite false 0 fmt.emin hcanonical) 0
    (congrArg some (by simp [ratOf]))
  rw [zero_sub, abs_neg, abs_of_nonneg hx] at hzero
  have hlower := neg_le_of_abs_le hzero
  linarith

/-!
# Operations
-/

section Operations

variable {x y : BinaryFloat fmt} {r s t : Rat}

theorem add_eq_ofRat (hx : x.value = some r) (hy : y.value = some s) :
    exists negative, add x y = ofRat fmt negative (r + s) := by
  cases x with
  | nan => cases hx
  | infinite a => cases hx
  | finite a m e _ =>
      cases y with
      | nan => cases hy
      | infinite b => cases hy
      | finite b n d _ =>
          cases hx
          cases hy
          exact ⟨_, rfl⟩

theorem mul_eq_ofRat (hx : x.value = some r) (hy : y.value = some s) :
    exists negative, mul x y = ofRat fmt negative (r * s) := by
  cases x with
  | nan => cases hx
  | infinite a => cases hx
  | finite a m e _ =>
      cases y with
      | nan => cases hy
      | infinite b => cases hy
      | finite b n d _ =>
          cases hx
          cases hy
          exact ⟨_, rfl⟩

theorem div_eq_ofRat (hx : x.value = some r) (hy : y.value = some s) (hs : s ≠ 0) :
    exists negative, div x y = ofRat fmt negative (r / s) := by
  cases x with
  | nan => cases hx
  | infinite a => cases hx
  | finite a m e _ =>
      cases y with
      | nan => cases hy
      | infinite b => cases hy
      | finite b n d _ =>
          cases hx
          cases hy
          have hn : n ≠ 0 := by
            rintro rfl
            apply hs
            simp [ratOf]
          exact ⟨_, if_neg hn⟩

theorem le_add (hprecision : 0 < fmt.precision) (hx : x.value = some r)
    (hy : y.value = some s) (hs : 0 ≤ s) (hsum : (add x y).value = some t) : r ≤ t := by
  rcases add_eq_ofRat hx hy with ⟨negative, hadd⟩
  rw [hadd] at hsum
  rcases isNearest_ofRat hprecision hsum with ⟨t', ht', hleast⟩
  rw [hsum] at ht'
  cases ht'
  -- the first summand is a number of the format as well
  have hown := hleast x r hx
  rw [show r - (r + s) = -s by ring, abs_neg, abs_of_nonneg hs] at hown
  have hlower := neg_le_of_abs_le hown
  linarith

end Operations

/-!
# Sums
-/

/-- A number of the format is a rational number up to an error. -/
def Approximates (error : Rat) (x : BinaryFloat fmt) (q : Rat) : Prop :=
  exists r, x.value = some r ∧ |r - q| ≤ error

/-- Adding numbers one after the other adds up their errors and half a unit of the last
place for each sum. -/
theorem foldl_add_error (hprecision : 0 < fmt.precision) (hrange : fmt.emin ≤ fmt.emax)
    {k : Int} (hk : k + 1 ≤ fmt.emax + fmt.precision) {error : Rat} (herror : 0 ≤ error)
    {ys : List (BinaryFloat fmt)} {qs : List Rat}
    (h : List.Forall₂ (Approximates error) ys qs) {x : BinaryFloat fmt} {r : Rat}
    (hx : x.value = some r)
    (hroom : |r| + (qs.map abs).sum + qs.length * (error + halfPlace fmt k) < 2 ^ k) :
    Approximates (qs.length * (error + halfPlace fmt k)) (ys.foldl add x) (r + qs.sum) := by
  have hhalf := halfPlace_nonneg fmt k
  induction h generalizing x r with
  | nil =>
      refine ⟨r, hx, ?_⟩
      simp
  | @cons y q ys qs hy hrest ih =>
      rcases hy with ⟨s, hs, hclose⟩
      simp only [List.map_cons, List.sum_cons, List.length_cons, Nat.cast_succ] at hroom ⊢
      have hsize : |s| ≤ |q| + error := by
        calc
          |s| = |q + (s - q)| := by rw [add_sub_cancel]
          _ ≤ |q| + |s - q| := abs_add_le _ _
          _ ≤ |q| + error := by linarith
      have hothers : 0 ≤ (qs.map abs).sum :=
        List.sum_nonneg (by
          intro a ha
          rcases List.mem_map.mp ha with ⟨b, _, rfl⟩
          exact abs_nonneg b)
      have hlength : 0 ≤ (qs.length : Rat) * (error + halfPlace fmt k) :=
        mul_nonneg (Nat.cast_nonneg _) (by linarith)
      have hbound : |r + s| < 2 ^ k := by
        have hadd := abs_add_le r s
        linarith
      rcases add_eq_ofRat hx hs with ⟨negative, hadd⟩
      rcases ofRat_error hprecision hrange hk negative hbound with ⟨t, ht, hsum⟩
      rw [← hadd] at ht
      have hstep : |t - (r + q)| ≤ error + halfPlace fmt k := by
        calc
          |t - (r + q)| = |(t - (r + s)) + (s - q)| := by ring_nf
          _ ≤ |t - (r + s)| + |s - q| := abs_add_le _ _
          _ ≤ error + halfPlace fmt k := by linarith
      have hnext : |t| ≤ |r| + |q| + (error + halfPlace fmt k) := by
        calc
          |t| = |(t - (r + q)) + (r + q)| := by rw [sub_add_cancel]
          _ ≤ |t - (r + q)| + |r + q| := abs_add_le _ _
          _ ≤ |r| + |q| + (error + halfPlace fmt k) := by linarith [abs_add_le r q]
      rcases ih ht (by linarith) with ⟨last, hlast, hfar⟩
      refine ⟨last, hlast, ?_⟩
      calc
        |last - (r + (q + qs.sum))|
            = |(last - (t + qs.sum)) + (t - (r + q))| := by ring_nf
        _ ≤ |last - (t + qs.sum)| + |t - (r + q)| := abs_add_le _ _
        _ ≤ (qs.length + 1) * (error + halfPlace fmt k) := by linarith

theorem value_add_of_none {x : BinaryFloat fmt} (h : x.value = none) (y : BinaryFloat fmt) :
    (add x y).value = none := by
  cases x with
  | nan => rfl
  | infinite a =>
      cases y with
      | nan => rfl
      | infinite b =>
          show (if a = b then infinite a else nan : BinaryFloat fmt).value = none
          split <;> rfl
      | finite b n d _ => rfl
  | finite a m e _ => cases h

theorem value_foldl_add_of_none (ys : List (BinaryFloat fmt)) {x : BinaryFloat fmt}
    (h : x.value = none) : (ys.foldl add x).value = none := by
  induction ys generalizing x with
  | nil => exact h
  | cons y ys ih => exact ih (value_add_of_none h y)

theorem le_foldl_add (hprecision : 0 < fmt.precision) {ys : List (BinaryFloat fmt)}
    (h : forall y, y ∈ ys -> exists s, y.value = some s ∧ 0 ≤ s)
    {x : BinaryFloat fmt} {r t : Rat} (hx : x.value = some r)
    (hsum : (ys.foldl add x).value = some t) : r ≤ t := by
  induction ys generalizing x r with
  | nil =>
      rw [List.foldl_nil, hx] at hsum
      exact le_of_eq (Option.some.inj hsum)
  | cons y ys ih =>
      rcases h y List.mem_cons_self with ⟨s, hs, hnonneg⟩
      rw [List.foldl_cons] at hsum
      cases hnext : (add x y).value with
      | none =>
          rw [value_foldl_add_of_none ys hnext] at hsum
          cases hsum
      | some next =>
          have hstep := le_add hprecision hx hs hnonneg hnext
          exact hstep.trans
            (ih (fun z hz => h z (List.mem_cons_of_mem y hz)) hnext hsum)

end BinaryFloat
end Foundation
end VirtualFactory
