import Mathlib.Algebra.Group.Int.Defs
import Mathlib.Algebra.Group.Nat.Defs
import Mathlib.Data.Int.Basic
import Mathlib.Data.Nat.Log
import Mathlib.Tactic.Common

/-!
# Binary floating point

Numbers of a binary format are kept in canonical form, a mantissa and the exponent
of its last bit, so that equal numbers have equal representations up to the sign of
zero.  Rounding is to nearest, ties to even.
-/

namespace VirtualFactory
namespace Foundation

/-- The precision of a format in bits and the exponents of its last bit. -/
structure FloatFormat where
  precision : Nat
  emin : Int
  emax : Int

def FloatFormat.Canonical (fmt : FloatFormat) (m : Nat) (e : Int) : Prop :=
  m < 2 ^ fmt.precision ∧ fmt.emin ≤ e ∧ e ≤ fmt.emax ∧
    (e = fmt.emin ∨ 2 ^ (fmt.precision - 1) ≤ m)

instance (fmt : FloatFormat) (m : Nat) (e : Int) :
    Decidable (fmt.Canonical m e) :=
  inferInstanceAs (Decidable (_ ∧ _ ∧ _ ∧ _))

inductive BinaryFloat (fmt : FloatFormat) where
  | nan
  | infinite (negative : Bool)
  | finite (negative : Bool) (mantissa : Nat) (exponent : Int)
      (canonical : fmt.Canonical mantissa exponent)
  deriving DecidableEq, Inhabited

namespace BinaryFloat

variable {fmt : FloatFormat}

/-- Drop bits, rounding to nearest with ties to even. -/
def shiftRightEven (m : Nat) : Nat -> Nat
  | 0 => m
  | k + 1 =>
      let quotient := m / 2 ^ (k + 1)
      let rest := m % 2 ^ (k + 1)
      if 2 ^ k < rest ∨ (rest = 2 ^ k ∧ quotient % 2 = 1) then quotient + 1
      else quotient

/-- The number of a format nearest to a mantissa times a power of two. -/
def round (fmt : FloatFormat) (negative : Bool) (m : Nat) (e : Int) :
    BinaryFloat fmt :=
  let lowest := max (e + (m.log2 + 1 : Int) - fmt.precision) fmt.emin
  let last := if m = 0 then fmt.emin else lowest
  let mantissa :=
    if m = 0 then 0
    else if last ≤ e then m * 2 ^ (e - last).toNat
    else shiftRightEven m (last - e).toNat
  -- rounding up to the next power of two moves the exponent
  let carried : Nat × Int :=
    if mantissa = 2 ^ fmt.precision then
      (2 ^ (fmt.precision - 1), last + 1)
    else (mantissa, last)
  if h : fmt.Canonical carried.1 carried.2 then
    .finite negative carried.1 carried.2 h
  else .infinite negative

def ofInt (fmt : FloatFormat) (n : Int) : BinaryFloat fmt :=
  round fmt (decide (n < 0)) n.natAbs 0

def convert (target : FloatFormat) : BinaryFloat fmt -> BinaryFloat target
  | nan => nan
  | infinite negative => infinite negative
  | finite negative m e _ => round target negative m e

/-- A finite number in units of the smallest positive number of the format. -/
def scaled (negative : Bool) (m : Nat) (fmt : FloatFormat) (e : Int) : Int :=
  let magnitude : Int := m * 2 ^ (e - fmt.emin).toNat
  if negative then -magnitude else magnitude

/-- The ordered comparison, false whenever an operand is not a number. -/
def lt : BinaryFloat fmt -> BinaryFloat fmt -> Bool
  | nan, _ => false
  | _, nan => false
  | infinite a, infinite b => a && !b
  | infinite a, finite _ _ _ _ => a
  | finite _ _ _ _, infinite b => !b
  | finite a m e _, finite b n d _ =>
      decide (scaled a m fmt e < scaled b n fmt d)

def isZero : BinaryFloat fmt -> Bool
  | finite _ m _ _ => m == 0
  | _ => false

/-- The nearest integer with ties away from zero, in units of the last place of
one: the argument is scaled by `2 ^ -emin`. -/
def roundAway (fmt : FloatFormat) (x : Int) : Int :=
  let one : Nat := 2 ^ (-fmt.emin).toNat
  let magnitude : Int := (2 * x.natAbs + one) / (2 * one)
  if x < 0 then -magnitude else magnitude

def truncate (fmt : FloatFormat) (x : Int) : Int :=
  x.tdiv (2 ^ (-fmt.emin).toNat)

end BinaryFloat

end Foundation
end VirtualFactory
