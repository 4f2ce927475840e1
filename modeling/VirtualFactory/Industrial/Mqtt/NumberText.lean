import VirtualFactory.Foundation.SubjectSequence
import VirtualFactory.Industrial.Mqtt.Adapter

/-!
# Payloads that are numbers

A number text is documented as a payload that is a decimal number as a whole.  It is
converted by `std::stod`, which reads the longest number at the beginning of the payload
and knows more numbers than the decimal ones.
-/

namespace VirtualFactory

open Foundation BinaryFloat

/-- Texts are converted as the standard says, in the classic locale. -/
def TextLib.standard (text : TextLib) (underflows : Rat -> Bool) : TextLib :=
  { text with stod := Foundation.stod binary64 underflows }

namespace MqttIndustrialAdapter

/-!
# One point of a message
-/

/-- The pass of `BoundEquipment::applyMessage` over one telemetry point. -/
def applyPoint (text : TextLib) (message : MqttMessage) (e : GenericEquipment)
    (point : MqttTelemetryMapping) : GenericEquipment :=
  match telemetryReading text message point with
  | none => e
  | some r => e.applyReading r

theorem foldl_applyPoint (text : TextLib) (message : MqttMessage)
    (points : List MqttTelemetryMapping) (e : GenericEquipment) :
    points.foldl (applyPoint text message) e =
      (points.filterMap (telemetryReading text message)).foldl
        GenericEquipment.applyReading e := by
  induction points generalizing e with
  | nil => rfl
  | cons point rest ih =>
      rw [List.foldl_cons, ih]
      unfold applyPoint
      cases hreading : telemetryReading text message point with
      | none => rw [List.filterMap_cons_none hreading]
      | some r => rw [List.filterMap_cons_some hreading, List.foldl_cons]

/-- A message is applied to one telemetry point after the other, then to the signals. -/
def AppliesPoints (text : TextLib) (message : MqttMessage) : Prop :=
  forall b : BoundEquipment MqttEquipmentMapping,
    (applyTo text b message).inner =
      ((signalReading text message .state b.mapping.state).toList ++
          (signalReading text message .fault b.mapping.fault).toList).foldl
        GenericEquipment.applyReading
        (b.mapping.telemetry.foldl (applyPoint text message) b.inner)

theorem appliesPoints (text : TextLib) (message : MqttMessage) :
    AppliesPoints text message := by
  intro b
  rw [foldl_applyPoint, ← List.foldl_append]
  rfl

theorem applyPoint_numberText (text : TextLib) {message : MqttMessage}
    {point : MqttTelemetryMapping} (htopic : point.topic = message.topic)
    (hencoding : point.encoding = .numberText) (e : GenericEquipment) :
    applyPoint text message e point =
      match text.stod message.payload with
      | none => e
      | some value => e.setTelemetry point.name value point.unit := by
  unfold applyPoint telemetryReading
  rw [if_neg (not_not.mpr htopic), hencoding]
  unfold parseDoublePayload
  dsimp only
  cases text.stod message.payload with
  | none => rfl
  | some value => rfl

theorem setTelemetry_ne (id type name : String) (value : Double) (unit : String) :
    ({ id := id, type := type } : GenericEquipment).setTelemetry name value unit ≠
      { id := id, type := type } := by
  intro heq
  have hshown := GenericEquipment.shown_applyReading { id := id, type := type }
    (.telemetry name value unit) (.telemetry name)
  rw [show GenericEquipment.applyReading { id := id, type := type }
    (.telemetry name value unit) = { id := id, type := type } from heq] at hshown
  cases hshown.trans (if_pos rfl)

/-!
# What number texts mean
-/

/-- A decimal number is stored, as the nearest number, and any other payload changes
nothing. -/
structure DecimalPoint (text : TextLib) (message : MqttMessage)
    (point : MqttTelemetryMapping) : Prop where
  accepts : forall (d : DecimalNumber), message.payload = d.text ->
    forall e, exists value, IsNearest value d.value ∧
      applyPoint text message e point = e.setTelemetry point.name value point.unit
  ignores : (forall d : DecimalNumber, message.payload ≠ d.text) ->
    forall e, applyPoint text message e point = e

theorem isSome_stod_of_accepts {text : TextLib} {message : MqttMessage}
    {point : MqttTelemetryMapping} (htopic : point.topic = message.topic)
    (hencoding : point.encoding = .numberText) {value : Double}
    (h : applyPoint text message { id := "", type := "" } point =
      GenericEquipment.setTelemetry { id := "", type := "" } point.name value point.unit) :
    text.stod message.payload ≠ none := by
  intro hnone
  rw [applyPoint_numberText text htopic hencoding, hnone] at h
  exact setTelemetry_ne "" "" point.name value point.unit h.symm

theorem stod_eq_none_of_ignores {text : TextLib} {message : MqttMessage}
    {point : MqttTelemetryMapping} (htopic : point.topic = message.topic)
    (hencoding : point.encoding = .numberText)
    (h : applyPoint text message { id := "", type := "" } point = { id := "", type := "" }) :
    text.stod message.payload = none := by
  rw [applyPoint_numberText text htopic hencoding] at h
  cases hvalue : text.stod message.payload with
  | none => rfl
  | some value =>
      rw [hvalue] at h
      exact absurd h (setTelemetry_ne "" "" point.name value point.unit)

theorem decimalPoint_iff_inRange (underflows : Rat -> Bool) (text : TextLib)
    {message : MqttMessage} {point : MqttTelemetryMapping}
    (htopic : point.topic = message.topic) (hencoding : point.encoding = .numberText) :
    DecimalPoint (text.standard underflows) message point <->
      (forall d : DecimalNumber, message.payload = d.text ->
        InRange binary64 underflows d.magnitude) ∧
      ((forall d : DecimalNumber, message.payload ≠ d.text) ->
        forall front number,
          IsLongest subject (message.payload.toList.dropWhile isSpace) front number ->
            exists negative x, number = .finite negative x ∧
              ¬ InRange binary64 underflows x) := by
  have hprecision : 0 < binary64.precision := by decide
  have hlimits : binary64.emin ≤ binary64.emax := by decide
  constructor
  · intro h
    constructor
    · intro d hd
      rcases h.accepts d hd { id := "", type := "" } with ⟨value, _, hstored⟩
      have hsome := isSome_stod_of_accepts htopic hencoding hstored
      by_contra hrange
      apply hsome
      show Foundation.stod binary64 underflows message.payload = none
      rw [hd, d.stod_text]
      exact (convert_eq_none_iff _ hprecision hlimits d.magnitude_nonneg).mpr hrange
    · intro hnot
      have hnone := stod_eq_none_of_ignores htopic hencoding
        (h.ignores hnot { id := "", type := "" })
      exact (stod_eq_none_iff hprecision hlimits).mp hnone
  · intro h
    rcases h with ⟨hdecimal, hother⟩
    constructor
    · intro d hd e
      have hrange := hdecimal d hd
      have hstod : (text.standard underflows).stod message.payload =
          some (nearest binary64 (isNegative d.sign) d.magnitude) := by
        show Foundation.stod binary64 underflows message.payload = _
        rw [hd, d.stod_text]
        exact convert_of_inRange _ hprecision hlimits d.magnitude_nonneg hrange
      refine ⟨nearest binary64 (isNegative d.sign) d.magnitude, ?_, ?_⟩
      · have hfinite := (nearest_isSome_iff hprecision hlimits (isNegative d.sign)
          d.magnitude_nonneg).mpr hrange.left
        rcases Option.isSome_iff_exists.mp hfinite with ⟨r, hr⟩
        rw [d.value_eq]
        exact isNearest_nearest hprecision d.magnitude_nonneg hr
      · rw [applyPoint_numberText _ htopic hencoding, hstod]
    · intro hnot e
      have hnone : (text.standard underflows).stod message.payload = none :=
        (stod_eq_none_iff hprecision hlimits).mpr (hother hnot)
      rw [applyPoint_numberText _ htopic hencoding, hnone]

/-- A message is applied point by point.  The documented meaning of a point holds for the
decimal numbers in range, and for the other payloads that begin with no number, or with one
that is out of range. -/
theorem decimalPoint_iff (underflows : Rat -> Bool) (text : TextLib) {message : MqttMessage}
    {point : MqttTelemetryMapping} (htopic : point.topic = message.topic)
    (hencoding : point.encoding = .numberText) :
    AppliesPoints (text.standard underflows) message ∧
      (DecimalPoint (text.standard underflows) message point <->
        (forall d : DecimalNumber, message.payload = d.text ->
          InRange binary64 underflows d.magnitude) ∧
        ((forall d : DecimalNumber, message.payload ≠ d.text) ->
          forall front number,
            IsLongest subject (message.payload.toList.dropWhile isSpace) front number ->
              exists negative x, number = .finite negative x ∧
                ¬ InRange binary64 underflows x)) :=
  ⟨appliesPoints _ message, decimalPoint_iff_inRange underflows text htopic hencoding⟩

def beltSpeed : DecimalNumber where
  sign := none
  whole := ['2', '1']
  fraction := ['5']
  exponent := none
  whole_ne_nil := by decide
  whole_digits := List.all_eq_true.mp rfl
  fraction_digits := List.all_eq_true.mp rfl

theorem decimalPoint_iff_beltSpeed :
    DecimalPoint ((default : TextLib).standard (fun _ => false)) ⟨"line/speed", "21.5"⟩
      { name := "speed", topic := "line/speed", unit := "m/s", encoding := .numberText } := by
  refine (decimalPoint_iff (fun _ => false) default rfl rfl).2.mpr ⟨?_, ?_⟩
  · intro d hd
    have hsubject := d.subject_text
    have hread : subject "21.5".toList = some (.finite false (43 / 2)) := by decide +kernel
    rw [← hd] at hsubject
    rcases SubjectNumber.finite.inj (Option.some.inj (hread.symm.trans hsubject)) with
      ⟨_, hmagnitude⟩
    rw [← hmagnitude]
    unfold InRange
    decide +kernel
  · intro hnot
    exact absurd rfl (hnot beltSpeed)

/-- A text behind a number is dropped, and the number is stored. -/
theorem not_decimalPoint_trailing :
    ¬ forall (underflows : Rat -> Bool) (text : TextLib) (message : MqttMessage)
      (point : MqttTelemetryMapping), point.topic = message.topic ->
        point.encoding = .numberText ->
          DecimalPoint (text.standard underflows) message point := by
  intro h
  have hpoint := h (fun _ => false) default ⟨"line/speed", "12abc"⟩
    { name := "speed", topic := "line/speed", unit := "m/s", encoding := .numberText } rfl rfl
  have hnot : forall d : DecimalNumber, "12abc" ≠ d.text := by
    intro d hd
    have hsubject := d.subject_text
    have hnone : subject "12abc".toList = none := by decide +kernel
    rw [← hd, hnone] at hsubject
    cases hsubject
  have hnone := stod_eq_none_of_ignores rfl rfl
    (hpoint.ignores hnot { id := "", type := "" })
  have hsome : (Foundation.stod binary64 (fun _ => false) "12abc").isSome := by decide +kernel
  exact Option.isSome_iff_ne_none.mp hsome hnone

end MqttIndustrialAdapter

end VirtualFactory
