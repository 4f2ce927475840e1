import VirtualFactory.Foundation.FloatValue
import VirtualFactory.Foundation.GeneralFormat
import VirtualFactory.Industrial.Mqtt.Adapter
import VirtualFactory.Industrial.Rest

/-!
# Numbers in command bodies

The MQTT and the REST adapter write the parameter of a command into a text.  The stream
that does it uses the general format with six significant digits.
-/

namespace VirtualFactory

open Foundation

/-- The text that a `std::ostringstream` makes of a `double`, with the sign that a NaN has
beside its value. -/
def Double.streamText (negativeNan : Bool) : Double -> String
  | .nan => if negativeNan then "-nan" else "nan"
  | .infinite negative => if negative then "-inf" else "inf"
  | .finite negative m e _ => (GeneralFormat.general 6 negative (m * 2 ^ e)).text

def TextLib.streaming (text : TextLib) (negativeNan : Bool) : TextLib :=
  { text with number := Double.streamText negativeNan }

/-!
# Integers in a stream
-/

theorem streamText_ofInt (negativeNan : Bool) {n : Int} (hn : n.natAbs < 2 ^ 53) :
    (Double.ofInt n).streamText negativeNan =
      (GeneralFormat.general 6 (decide (n < 0)) (n.natAbs : Rat)).text := by
  have hmin : binary64.emin ≤ 0 := by decide
  have hmax : 0 ≤ binary64.emax := by decide
  rcases BinaryFloat.ofInt_exact hmin hmax hn with ⟨m, e, h, hfinite, hvalue⟩
  unfold Double.ofInt
  rw [hfinite, ← hvalue]
  rfl

theorem readNumeral_streamText_iff (negativeNan : Bool) {n : Int}
    (hn : n.natAbs < 2 ^ 53) :
    readNumeral ((Double.ofInt n).streamText negativeNan) = some (n : Rat) <->
      exists k, 10 ^ k ∣ n.natAbs ∧ n.natAbs < 10 ^ (k + 6) := by
  rw [streamText_ofInt negativeNan hn, Numeral.readNumeral_text]
  rcases Nat.eq_zero_or_pos n.natAbs with hzero | hpos
  · rw [hzero, Nat.cast_zero, GeneralFormat.value_zero, Int.natAbs_eq_zero.mp hzero]
    constructor
    · intro _
      exact ⟨0, dvd_zero _, by norm_num⟩
    · intro _
      rw [Int.cast_zero]
  · have hcast : (0 : Rat) < (n.natAbs : Rat) := by exact_mod_cast hpos
    have hsign : (if decide (n < 0) then -1 else 1 : Rat) ≠ 0 := by
      split <;> norm_num
    rw [GeneralFormat.value_general (by norm_num) _ hcast,
      ← GeneralFormat.rounded_natCast_iff (by norm_num) hpos, Option.some_inj,
      ← BinaryFloat.sign_mul_natAbs n, mul_right_inj' hsign]

/-!
# Commands
-/

def valueToken : String := "\x7b\x7bvalue\x7d\x7d"

/-- An integer parameter is inserted into every body as a numeral that denotes it. -/
def Survives (substitute : String -> Double -> String) (n : Int) : Prop :=
  exists inserted, readNumeral inserted = some (n : Rat) ∧
    forall bodyTemplate, substitute bodyTemplate (Double.ofInt n) =
      Replace.replaceAll valueToken inserted bodyTemplate

/-- A substitution inserts the text that it makes of the token alone. -/
theorem survives_iff (text : TextLib) (negativeNan : Bool) {n : Int} (hn : n.natAbs < 2 ^ 53) :
    Survives (substituteNumber (text.streaming negativeNan)) n <->
      exists k, 10 ^ k ∣ n.natAbs ∧ n.natAbs < 10 ^ (k + 6) := by
  rw [← readNumeral_streamText_iff negativeNan hn]
  constructor
  · rintro ⟨inserted, hvalue, hinserts⟩
    have htoken : valueToken ≠ "" := by decide
    have hsame : (Double.ofInt n).streamText negativeNan = inserted := by
      have h : Replace.replaceAll valueToken ((Double.ofInt n).streamText negativeNan)
          valueToken = _ := hinserts valueToken
      rw [Replace.replaceAll_self htoken, Replace.replaceAll_self htoken] at h
      exact h
    rw [hsame]
    exact hvalue
  · intro h
    exact ⟨_, h, fun bodyTemplate => rfl⟩

/-- Integers survive the command bodies of both adapters exactly when only zeros follow
their first six digits. -/
theorem numbers_survive_iff (text : TextLib) (negativeNan : Bool) {n : Int}
    (hn : n.natAbs < 2 ^ 53) :
    (Survives (MqttIndustrialAdapter.substituteValue (text.streaming negativeNan)) n <->
        exists k, 10 ^ k ∣ n.natAbs ∧ n.natAbs < 10 ^ (k + 6)) ∧
      (Survives (RestIndustrialAdapter.substituteValue (text.streaming negativeNan)) n <->
        exists k, 10 ^ k ∣ n.natAbs ∧ n.natAbs < 10 ^ (k + 6)) :=
  ⟨survives_iff text negativeNan hn, survives_iff text negativeNan hn⟩

theorem numbers_survive_iff_twelveHundred :
    (Survives (MqttIndustrialAdapter.substituteValue ((default : TextLib).streaming false))
          1200 <-> exists k, 10 ^ k ∣ (1200 : Int).natAbs ∧
          (1200 : Int).natAbs < 10 ^ (k + 6)) ∧
      (Survives (RestIndustrialAdapter.substituteValue ((default : TextLib).streaming false))
          1200 <-> exists k, 10 ^ k ∣ (1200 : Int).natAbs ∧
          (1200 : Int).natAbs < 10 ^ (k + 6)) :=
  numbers_survive_iff default false (by decide)

/-- A seventh digit is lost. -/
theorem not_survives_sevenDigits :
    (1234567 : Int).natAbs < 2 ^ 53 ∧
      ¬ Survives (MqttIndustrialAdapter.substituteValue
          ((default : TextLib).streaming false)) 1234567 ∧
      ¬ Survives (RestIndustrialAdapter.substituteValue
          ((default : TextLib).streaming false)) 1234567 := by
  have hsmall : (1234567 : Int).natAbs < 2 ^ 53 := by decide
  have hdigits : ¬ exists k, 10 ^ k ∣ (1234567 : Int).natAbs ∧
      (1234567 : Int).natAbs < 10 ^ (k + 6) := by
    rintro ⟨k, hdvd, hbound⟩
    cases k with
    | zero => exact absurd hbound (by decide)
    | succ k =>
        have hten : 10 ∣ (1234567 : Int).natAbs :=
          (dvd_pow_self 10 k.succ_ne_zero).trans hdvd
        exact absurd hten (by decide)
  have hlost := mt (survives_iff default false hsmall).mp hdigits
  exact ⟨hsmall, hlost, hlost⟩

end VirtualFactory
