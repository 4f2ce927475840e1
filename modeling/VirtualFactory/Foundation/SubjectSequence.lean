import VirtualFactory.Foundation.FloatNearest
import VirtualFactory.Foundation.Numeral

/-!
# Subject sequences

The texts that `strtod` reads as a floating point number, and the longest of them at the
beginning of a text.  They are decimal or hexadecimal numbers, or words for infinity and
for what is not a number, in letters of either case.
-/

namespace VirtualFactory
namespace Foundation

inductive SubjectNumber where
  | finite (negative : Bool) (magnitude : Rat)
  | infinite (negative : Bool)
  | nan
  deriving DecidableEq

/-!
# The longest beginning
-/

variable {result : Type}

/-- What is accepted of the beginnings up to a length, the longest first. -/
def longestUpTo (accept : List Char -> Option result) (cs : List Char) : Nat -> Option result
  | 0 => accept []
  | n + 1 => (accept (cs.take (n + 1))).or (longestUpTo accept cs n)

def longest (accept : List Char -> Option result) (cs : List Char) : Option result :=
  longestUpTo accept cs cs.length

/-- The longest accepted beginning of a text. -/
structure IsLongest (accept : List Char -> Option result) (cs front : List Char)
    (r : result) : Prop where
  starts : front <+: cs
  accepted : accept front = some r
  longest : forall other, other <+: cs -> (accept other).isSome -> other.length ≤ front.length

theorem longestUpTo_eq_some {accept : List Char -> Option result} {cs : List Char} {r : result}
    {n : Nat} (h : longestUpTo accept cs n = some r) :
    exists k, k ≤ n ∧ accept (cs.take k) = some r ∧
      forall j, k < j -> j ≤ n -> accept (cs.take j) = none := by
  induction n with
  | zero =>
      refine ⟨0, Nat.le_refl 0, ?_, fun j hj hj0 => absurd hj (by omega)⟩
      rw [List.take_zero]
      exact h
  | succ n ih =>
      unfold longestUpTo at h
      cases hfirst : accept (cs.take (n + 1)) with
      | some first =>
          rw [hfirst, Option.some_or] at h
          exact ⟨n + 1, Nat.le_refl _, hfirst.trans h, fun j hj hjn => absurd hj (by omega)⟩
      | none =>
          rw [hfirst, Option.none_or] at h
          rcases ih h with ⟨k, hk, haccepted, hlonger⟩
          refine ⟨k, by omega, haccepted, ?_⟩
          intro j hkj hj
          rcases Nat.le_succ_iff.mp hj with hjn | rfl
          · exact hlonger j hkj hjn
          · exact hfirst

theorem longestUpTo_of_accepted {accept : List Char -> Option result} {cs : List Char}
    {r : result} {k n : Nat} (hk : k ≤ n) (h : accept (cs.take k) = some r)
    (hlonger : forall j, k < j -> j ≤ n -> accept (cs.take j) = none) :
    longestUpTo accept cs n = some r := by
  induction n with
  | zero =>
      rw [Nat.le_zero.mp hk, List.take_zero] at h
      exact h
  | succ n ih =>
      unfold longestUpTo
      rcases Nat.le_succ_iff.mp hk with hkn | rfl
      · rw [hlonger (n + 1) (by omega) (Nat.le_refl _), Option.none_or]
        exact ih hkn (fun j hkj hj => hlonger j hkj (by omega))
      · rw [h, Option.some_or]

theorem longest_eq_some_iff {accept : List Char -> Option result} {cs : List Char} {r : result} :
    longest accept cs = some r <-> exists front, IsLongest accept cs front r := by
  constructor
  · intro h
    rcases longestUpTo_eq_some h with ⟨k, hk, haccepted, hlonger⟩
    refine ⟨cs.take k, List.take_prefix k cs, haccepted, ?_⟩
    intro other hother hsome
    rw [List.length_take, Nat.min_eq_left hk]
    by_contra hlong
    have hnone := hlonger other.length (by omega) hother.length_le
    rw [← List.prefix_iff_eq_take.mp hother] at hnone
    rw [hnone] at hsome
    cases hsome
  · intro h
    rcases h with ⟨front, hstarts, haccepted, hlongest⟩
    apply longestUpTo_of_accepted hstarts.length_le
    · rw [← List.prefix_iff_eq_take.mp hstarts]
      exact haccepted
    · intro j hj hjn
      apply Option.not_isSome_iff_eq_none.mp
      intro hsome
      have hle := hlongest (cs.take j) (List.take_prefix j cs) hsome
      rw [List.length_take] at hle
      omega

/-- A text that is accepted as a whole is its own longest beginning. -/
theorem longest_of_accepted {accept : List Char -> Option result} {cs : List Char} {r : result}
    (h : accept cs = some r) : longest accept cs = some r :=
  longest_eq_some_iff.mpr
    ⟨cs, List.prefix_refl cs, h, fun _ hother _ => hother.length_le⟩

/-!
# Numbers in a radix
-/

/-- The digits of a radix, the letters that mark its exponents, and the base of these. -/
structure Radix where
  base : Nat
  exponentBase : Nat
  isDigit : Char -> Bool
  digit : Char -> Nat
  isMarker : Char -> Bool

def decimalRadix : Radix where
  base := 10
  exponentBase := 10
  isDigit := Char.isDigit
  digit c := c.toNat - '0'.toNat
  isMarker c := c == 'e' || c == 'E'

def hexadecimalRadix : Radix where
  base := 16
  exponentBase := 2
  isDigit c := c.isDigit || ('a' ≤ c && c ≤ 'f') || ('A' ≤ c && c ≤ 'F')
  digit c := if c.isDigit then c.toNat - '0'.toNat else c.toLower.toNat - 'a'.toNat + 10
  isMarker c := c == 'p' || c == 'P'

def takeSign : List Char -> Bool × List Char
  | '-' :: rest => (true, rest)
  | '+' :: rest => (false, rest)
  | cs => (false, cs)

namespace Radix

def magnitude (radix : Radix) (whole fraction : List Char) (exponent : Int) : Rat :=
  (((whole ++ fraction).foldl (fun n c => radix.base * n + radix.digit c) 0 : Nat) : Rat) *
    (radix.base : Rat) ^ (-(fraction.length : Int)) * (radix.exponentBase : Rat) ^ exponent

/-- The digits behind a point, and the rest. -/
def readPoint (radix : Radix) : List Char -> List Char × List Char
  | '.' :: rest => (rest.takeWhile radix.isDigit, rest.dropWhile radix.isDigit)
  | cs => ([], cs)

/-- The rest is empty or a marked exponent in decimal digits. -/
def readPower (radix : Radix) : List Char -> Option Int
  | [] => some 0
  | c :: cs =>
      let signed := takeSign cs
      if radix.isMarker c ∧ signed.2 ≠ [] ∧ signed.2.all Char.isDigit then
        some ((if signed.1 then -1 else 1) * (Nat.ofDigitChars 10 signed.2 0 : Int))
      else none

/-- Digits with a point before, between or behind them, and perhaps an exponent. -/
def read (radix : Radix) (cs : List Char) : Option Rat :=
  let whole := cs.takeWhile radix.isDigit
  let point := radix.readPoint (cs.dropWhile radix.isDigit)
  if whole = [] ∧ point.1 = [] then none
  else (radix.readPower point.2).map (radix.magnitude whole point.1)

end Radix

def readHexadecimal : List Char -> Option Rat
  | '0' :: c :: rest => if c = 'x' ∨ c = 'X' then hexadecimalRadix.read rest else none
  | _ => none

/-!
# Words
-/

/-- What may follow the word `nan`: letters, digits and underscores in parentheses. -/
def isNanTail : List Char -> Bool
  | [] => true
  | '(' :: cs => cs.getLast? == some ')' && cs.dropLast.all (fun c => c.isAlphanum || c == '_')
  | _ => false

def readWord (negative : Bool) (cs : List Char) : Option SubjectNumber :=
  let lower := cs.map Char.toLower
  if lower = "inf".toList ∨ lower = "infinity".toList then some (.infinite negative)
  else if lower.take 3 = "nan".toList ∧ isNanTail (cs.drop 3) then some .nan
  else none

def subject (cs : List Char) : Option SubjectNumber :=
  let signed := takeSign cs
  (((decimalRadix.read signed.2).or (readHexadecimal signed.2)).map
    (SubjectNumber.finite signed.1)).or (readWord signed.1 signed.2)

/-!
# Conversion
-/

/-- `isspace` in the C locale. -/
def isSpace (c : Char) : Bool :=
  c == ' ' || (9 ≤ c.toNat && c.toNat ≤ 13)

/-- The nearest number of the format.  The conversion fails when the result is too large,
and it may fail when the result is below the normal numbers. -/
def convert (fmt : FloatFormat) (underflows : Rat -> Bool) :
    SubjectNumber -> Option (BinaryFloat fmt)
  | .nan => some .nan
  | .infinite negative => some (.infinite negative)
  | .finite negative x =>
      if (BinaryFloat.nearest fmt negative x).value = none then none
      else if x ≠ 0 ∧ x < 2 ^ (fmt.emin + fmt.precision - 1) ∧ underflows x then none
      else some (BinaryFloat.nearest fmt negative x)

/-- `std::stod`; a missing answer stands for an exception. -/
def stod (fmt : FloatFormat) (underflows : Rat -> Bool) (text : String) :
    Option (BinaryFloat fmt) :=
  (longest subject (text.toList.dropWhile isSpace)).bind (convert fmt underflows)

/-!
# The range of a conversion
-/

/-- The magnitude neither overflows nor is reported as too small. -/
def InRange (fmt : FloatFormat) (underflows : Rat -> Bool) (x : Rat) : Prop :=
  x < BinaryFloat.overflowThreshold fmt ∧
    ¬ (x ≠ 0 ∧ x < 2 ^ (fmt.emin + fmt.precision - 1) ∧ underflows x = true)

theorem Radix.magnitude_nonneg (radix : Radix) (whole fraction : List Char) (exponent : Int) :
    0 ≤ radix.magnitude whole fraction exponent := by
  unfold magnitude
  positivity

theorem Radix.nonneg_of_read {radix : Radix} {cs : List Char} {x : Rat}
    (h : radix.read cs = some x) : 0 ≤ x := by
  unfold read at h
  dsimp only at h
  split at h
  · cases h
  · rcases Option.map_eq_some_iff.mp h with ⟨exponent, _, rfl⟩
    exact radix.magnitude_nonneg _ _ _

theorem nonneg_of_readHexadecimal {cs : List Char} {x : Rat}
    (h : readHexadecimal cs = some x) : 0 ≤ x := by
  unfold readHexadecimal at h
  split at h
  · split at h
    · exact Radix.nonneg_of_read h
    · cases h
  · cases h

theorem readWord_ne_finite {negative : Bool} {cs : List Char} {other : Bool} {x : Rat} :
    readWord negative cs ≠ some (.finite other x) := by
  intro h
  unfold readWord at h
  dsimp only at h
  split at h
  · cases h
  · split at h <;> cases h

theorem nonneg_of_subject {cs : List Char} {negative : Bool} {x : Rat}
    (h : subject cs = some (.finite negative x)) : 0 ≤ x := by
  unfold subject at h
  rcases Option.or_eq_some_iff.mp h with hnumber | ⟨_, hword⟩
  · rcases Option.map_eq_some_iff.mp hnumber with ⟨y, hy, hfinite⟩
    injection hfinite with _ hxy
    rw [← hxy]
    rcases Option.or_eq_some_iff.mp hy with hdecimal | ⟨_, hhexadecimal⟩
    · exact Radix.nonneg_of_read hdecimal
    · exact nonneg_of_readHexadecimal hhexadecimal
  · exact absurd hword readWord_ne_finite

theorem convert_of_inRange {fmt : FloatFormat} {underflows : Rat -> Bool} (negative : Bool)
    {x : Rat} (hprecision : 0 < fmt.precision) (hlimits : fmt.emin ≤ fmt.emax) (hx : 0 ≤ x)
    (h : InRange fmt underflows x) :
    convert fmt underflows (.finite negative x) = some (BinaryFloat.nearest fmt negative x) := by
  have hvalue := (BinaryFloat.nearest_isSome_iff hprecision hlimits negative hx).mpr h.left
  unfold convert
  dsimp only
  rw [if_neg (Option.isSome_iff_ne_none.mp hvalue), if_neg h.right]

theorem convert_eq_none_iff {fmt : FloatFormat} {underflows : Rat -> Bool} (negative : Bool)
    {x : Rat} (hprecision : 0 < fmt.precision) (hlimits : fmt.emin ≤ fmt.emax) (hx : 0 ≤ x) :
    convert fmt underflows (.finite negative x) = none <-> ¬ InRange fmt underflows x := by
  constructor
  · intro hnone hrange
    rw [convert_of_inRange negative hprecision hlimits hx hrange] at hnone
    cases hnone
  · intro hrange
    unfold convert
    dsimp only
    split
    · rfl
    · rename_i hvalue
      have hbelow := (BinaryFloat.nearest_isSome_iff hprecision hlimits negative hx).mp
        (Option.isSome_iff_ne_none.mpr hvalue)
      rw [if_pos (not_not.mp (fun hnot => hrange ⟨hbelow, hnot⟩))]

/-- The conversion fails if no beginning of the text is a number, or if the longest such
beginning is a finite number out of range. -/
theorem stod_eq_none_iff {fmt : FloatFormat} {underflows : Rat -> Bool} {text : String}
    (hprecision : 0 < fmt.precision) (hlimits : fmt.emin ≤ fmt.emax) :
    stod fmt underflows text = none <->
      forall front number, IsLongest subject (text.toList.dropWhile isSpace) front number ->
        exists negative x, number = .finite negative x ∧ ¬ InRange fmt underflows x := by
  unfold stod
  rw [Option.bind_eq_none_iff]
  constructor
  · intro h front number hlongest
    have hnone := h number (longest_eq_some_iff.mpr ⟨front, hlongest⟩)
    cases number with
    | nan => cases hnone
    | infinite negative => cases hnone
    | finite negative x =>
        have hx := nonneg_of_subject hlongest.accepted
        exact ⟨negative, x, rfl,
          (convert_eq_none_iff negative hprecision hlimits hx).mp hnone⟩
  · intro h number hnumber
    rcases longest_eq_some_iff.mp hnumber with ⟨front, hlongest⟩
    rcases h front number hlongest with ⟨negative, x, rfl, hrange⟩
    have hx := nonneg_of_subject hlongest.accepted
    exact (convert_eq_none_iff negative hprecision hlimits hx).mpr hrange

/-!
# Decimal numbers

An optional sign, digits, perhaps a point and digits, and perhaps an exponent.
-/

def signText : Option Bool -> List Char
  | none => []
  | some negative => [if negative then '-' else '+']

def isNegative (sign : Option Bool) : Bool :=
  sign.getD false

structure ExponentPart where
  marker : Char
  sign : Option Bool
  digits : List Char
  isMarker : decimalRadix.isMarker marker = true
  digits_ne_nil : digits ≠ []
  all_digits : forall c, c ∈ digits -> c.isDigit = true

namespace ExponentPart

def text (e : ExponentPart) : List Char :=
  e.marker :: (signText e.sign ++ e.digits)

def value (e : ExponentPart) : Int :=
  (if isNegative e.sign then -1 else 1) * (Nat.ofDigitChars 10 e.digits 0 : Int)

end ExponentPart

structure DecimalNumber where
  sign : Option Bool
  whole : List Char
  fraction : List Char
  exponent : Option ExponentPart
  whole_ne_nil : whole ≠ []
  whole_digits : forall c, c ∈ whole -> c.isDigit = true
  fraction_digits : forall c, c ∈ fraction -> c.isDigit = true

namespace DecimalNumber

def exponentText : Option ExponentPart -> List Char
  | none => []
  | some e => e.text

def exponentValue (exponent : Option ExponentPart) : Int :=
  (exponent.map ExponentPart.value).getD 0

def text (d : DecimalNumber) : String :=
  String.ofList
    (signText d.sign ++
      (d.whole ++ (Numeral.fractionText d.fraction ++ exponentText d.exponent)))

def magnitude (d : DecimalNumber) : Rat :=
  decimalValue false d.whole d.fraction (exponentValue d.exponent)

def value (d : DecimalNumber) : Rat :=
  decimalValue (isNegative d.sign) d.whole d.fraction (exponentValue d.exponent)

theorem value_eq (d : DecimalNumber) :
    d.value = (if isNegative d.sign then -1 else 1) * d.magnitude := by
  unfold value magnitude decimalValue
  simp

theorem magnitude_nonneg (d : DecimalNumber) : 0 ≤ d.magnitude := by
  unfold magnitude decimalValue
  simp only [Bool.false_eq_true, if_false, one_mul]
  exact mul_nonneg (Nat.cast_nonneg _) (zpow_nonneg (by norm_num) _)

theorem magnitude_decimalRadix (whole fraction : List Char) (exponent : Int) :
    decimalRadix.magnitude whole fraction exponent =
      decimalValue false whole fraction exponent := by
  have hpowers : (10 : Rat) ^ (-(fraction.length : Int)) * 10 ^ exponent =
      10 ^ (exponent - fraction.length) := by
    rw [← zpow_add₀ (by norm_num)]
    congr 1
    ring
  unfold Radix.magnitude decimalValue
  simp only [Bool.false_eq_true, if_false, one_mul]
  rw [mul_assoc]
  show ((Nat.ofDigitChars 10 (whole ++ fraction) 0 : Nat) : Rat) *
    (((10 : Nat) : Rat) ^ _ * ((10 : Nat) : Rat) ^ _) = _
  rw [Nat.cast_ofNat, hpowers]

/-!
# Reading decimal numbers
-/

theorem takeSign_signText {sign : Option Bool} {c : Char} {rest : List Char}
    (hc : c.isDigit = true) :
    takeSign (signText sign ++ c :: rest) = (isNegative sign, c :: rest) := by
  cases sign with
  | some negative =>
      cases negative with
      | true => rfl
      | false => rfl
  | none =>
      show takeSign (c :: rest) = (false, c :: rest)
      unfold takeSign
      split
      · rename_i hminus
        cases hminus
        cases hc
      · rename_i hplus
        cases hplus
        cases hc
      · rfl

theorem readPower_exponentText (exponent : Option ExponentPart) :
    decimalRadix.readPower (exponentText exponent) = some (exponentValue exponent) := by
  cases exponent with
  | none => rfl
  | some e =>
      rcases List.exists_cons_of_ne_nil e.digits_ne_nil with ⟨c, cs, hdigits⟩
      have hc : c.isDigit = true := e.all_digits c (by
        rw [hdigits]
        exact List.mem_cons_self)
      have hsign : takeSign (signText e.sign ++ e.digits) = (isNegative e.sign, e.digits) := by
        rw [hdigits]
        exact takeSign_signText hc
      show decimalRadix.readPower (e.marker :: (signText e.sign ++ e.digits)) = some e.value
      unfold Radix.readPower
      dsimp only
      rw [hsign, if_pos ⟨e.isMarker, e.digits_ne_nil, List.all_eq_true.mpr e.all_digits⟩]
      rfl

theorem endsDigits_exponentText (exponent : Option ExponentPart) :
    Numeral.EndsDigits (exponentText exponent) := by
  intro c rest h
  cases exponent with
  | none => cases h
  | some e =>
      have hmarker := e.isMarker
      injection h with hc _
      rw [hc] at hmarker
      rcases Bool.or_eq_true _ _ ▸ hmarker with he | he
      · rw [beq_iff_eq.mp he]
        rfl
      · rw [beq_iff_eq.mp he]
        rfl

theorem endsDigits_fractionText (d : DecimalNumber) :
    Numeral.EndsDigits (Numeral.fractionText d.fraction ++ exponentText d.exponent) := by
  unfold Numeral.fractionText
  split
  · exact endsDigits_exponentText d.exponent
  · intro c rest h
    cases h
    decide

theorem readPoint_fractionText (d : DecimalNumber) :
    decimalRadix.readPoint (Numeral.fractionText d.fraction ++ exponentText d.exponent) =
      (d.fraction, exponentText d.exponent) := by
  unfold Numeral.fractionText
  split
  · rename_i hnone
    rw [hnone, List.nil_append]
    cases hexponent : d.exponent with
    | none => rfl
    | some e =>
        show decimalRadix.readPoint (e.marker :: _) = ([], e.marker :: _)
        unfold Radix.readPoint
        split
        · rename_i hpoint
          injection hpoint with hmarker _
          have hnot := e.isMarker
          rw [hmarker] at hnot
          cases hnot
        · rfl
  · have hdigits := Numeral.takeWhile_digits d.fraction_digits (endsDigits_exponentText d.exponent)
    show ((d.fraction ++ exponentText d.exponent).takeWhile Char.isDigit,
      (d.fraction ++ exponentText d.exponent).dropWhile Char.isDigit) = _
    rw [hdigits.1, hdigits.2]

theorem read_text (d : DecimalNumber) :
    decimalRadix.read
        (d.whole ++ (Numeral.fractionText d.fraction ++ exponentText d.exponent)) =
      some d.magnitude := by
  have hwhole := Numeral.takeWhile_digits d.whole_digits d.endsDigits_fractionText
  have hfirst : forall cs : List Char, cs.takeWhile decimalRadix.isDigit =
      cs.takeWhile Char.isDigit := fun _ => rfl
  have hrest : forall cs : List Char, cs.dropWhile decimalRadix.isDigit =
      cs.dropWhile Char.isDigit := fun _ => rfl
  unfold Radix.read
  dsimp only
  rw [hfirst, hrest, hwhole.1, hwhole.2, d.readPoint_fractionText,
    if_neg (fun hempty => d.whole_ne_nil hempty.left), readPower_exponentText, Option.map_some,
    magnitude_decimalRadix]
  rfl

theorem subject_text (d : DecimalNumber) :
    subject d.text.toList = some (.finite (isNegative d.sign) d.magnitude) := by
  rcases List.exists_cons_of_ne_nil d.whole_ne_nil with ⟨c, cs, hwhole⟩
  have hc : c.isDigit = true := d.whole_digits c (by
    rw [hwhole]
    exact List.mem_cons_self)
  have hread := d.read_text
  unfold subject text
  rw [String.toList_ofList]
  rw [hwhole, List.cons_append] at hread ⊢
  rw [takeSign_signText hc]
  dsimp only
  rw [hread]
  rfl

theorem not_isSpace_of_isDigit {c : Char} (h : c.isDigit = true) : isSpace c = false := by
  have hlow : 48 ≤ c.toNat := by
    simp only [Char.isDigit, Bool.and_eq_true, decide_eq_true_eq, ge_iff_le,
      UInt32.le_iff_toNat_le] at h
    exact h.left
  have hspace : c ≠ ' ' := by
    intro heq
    rw [heq] at hlow
    revert hlow
    decide
  unfold isSpace
  rw [beq_eq_false_iff_ne.mpr hspace, Bool.false_or, Bool.and_eq_false_iff]
  right
  exact decide_eq_false (by omega)

theorem dropWhile_isSpace_text (d : DecimalNumber) :
    d.text.toList.dropWhile isSpace = d.text.toList := by
  rcases List.exists_cons_of_ne_nil d.whole_ne_nil with ⟨c, cs, hwhole⟩
  have hc : c.isDigit = true := d.whole_digits c (by
    rw [hwhole]
    exact List.mem_cons_self)
  have hnone : forall rest : List Char, (c :: rest).dropWhile isSpace = c :: rest := by
    intro rest
    exact List.dropWhile_cons_of_neg (by rw [not_isSpace_of_isDigit hc]; decide)
  unfold text
  rw [String.toList_ofList, hwhole, List.cons_append]
  cases d.sign with
  | none => exact hnone _
  | some negative =>
      cases negative with
      | true => rfl
      | false => rfl

theorem stod_text (fmt : FloatFormat) (underflows : Rat -> Bool) (d : DecimalNumber) :
    stod fmt underflows d.text =
      convert fmt underflows (.finite (isNegative d.sign) d.magnitude) := by
  unfold stod
  rw [d.dropWhile_isSpace_text, longest_of_accepted d.subject_text]
  rfl

end DecimalNumber

end Foundation
end VirtualFactory
