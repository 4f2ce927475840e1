import VirtualFactory.Industrial.Answers.Rest
import VirtualFactory.Industrial.Mqtt.Adapter

/-!
# One document over MQTT and over REST

Both adapters take a node out of a document and turn it into a number or a boolean.
MQTT reaches a boolean by way of a number.  REST refuses an empty telemetry pointer, and
takes an empty state or fault pointer for a signal that is not mapped.
-/

namespace VirtualFactory

open Foundation

/-!
# Numbers and booleans of one node
-/

/-- The texts of a boolean that are not a number. -/
def stateWords : List String :=
  ["true", "running", "false", "stopped", "idle"]

/-- What `std::stod` does with the texts of a boolean. -/
structure TextLib.ReadsBooleanTexts (text : TextLib) : Prop where
  one : text.stod "1" = some Double.one
  zero : text.stod "0" = some Double.zero
  word : forall s, s ∈ stateWords -> text.stod s = none

/-- A node that means one thing as a boolean and another as a number other than
zero: a state word, or the text of a number that is no boolean. -/
def Json.Ambiguous (text : TextLib) : Json -> Prop
  | .string s => s ∈ stateWords ∨ (text.stod s ≠ none ∧ s ≠ "1" ∧ s ≠ "0")
  | _ => False

def Json.asFlag (text : TextLib) (node : Json) : Option Bool :=
  (node.asDouble text).map (fun value => !value.isZero)

theorem Double.isZero_ofBool (b : Bool) : (Double.ofBool b).isZero = !b := by
  cases b <;> decide

theorem Json.asBool_string_of_word {s : String} (hs : s ∈ stateWords) :
    (Json.string s).asBool ≠ none := by
  simp only [stateWords, List.mem_cons, List.not_mem_nil, or_false] at hs
  rcases hs with rfl | rfl | rfl | rfl | rfl <;> decide

theorem Json.asBool_string_of_not_word {s : String} (hs : s ∉ stateWords)
    (hone : s ≠ "1") (hzero : s ≠ "0") : (Json.string s).asBool = none := by
  simp only [stateWords, List.mem_cons, List.not_mem_nil, or_false, not_or] at hs
  rcases hs with ⟨htrue, hrunning, hfalse, hstopped, hidle⟩
  simp [Json.asBool, *]

theorem Json.asFlag_string_iff {text : TextLib} (hstod : text.ReadsBooleanTexts)
    (s : String) :
    (Json.string s).asFlag text = (Json.string s).asBool <->
      Not ((Json.string s).Ambiguous text) := by
  by_cases hword : s ∈ stateWords
  · have hnone : (Json.string s).asFlag text = none := by
      simp [Json.asFlag, Json.asDouble, hstod.word s hword]
    constructor
    · intro heq
      exact absurd (heq.symm.trans hnone) (Json.asBool_string_of_word hword)
    · intro hnot
      exact absurd (Or.inl hword) hnot
  · by_cases hone : s = "1"
    · subst hone
      have hflag : (Json.string "1").asFlag text = some true := by
        simp only [Json.asFlag, Json.asDouble, hstod.one]
        decide
      constructor
      · intro _ hambiguous
        rcases hambiguous with hmem | ⟨_, hne, _⟩
        · exact hword hmem
        · exact hne rfl
      · intro _
        rw [hflag]
        decide
    · by_cases hzero : s = "0"
      · subst hzero
        have hflag : (Json.string "0").asFlag text = some false := by
          simp only [Json.asFlag, Json.asDouble, hstod.zero]
          decide
        constructor
        · intro _ hambiguous
          rcases hambiguous with hmem | ⟨_, _, hne⟩
          · exact hword hmem
          · exact hne rfl
        · intro _
          rw [hflag]
          decide
      · rw [Json.asBool_string_of_not_word hword hone hzero]
        simp [Json.asFlag, Json.asDouble, Json.Ambiguous, hword, hone, hzero]

theorem Json.asFlag_iff {text : TextLib} (hstod : text.ReadsBooleanTexts)
    (node : Json) :
    node.asFlag text = node.asBool <-> Not (node.Ambiguous text) := by
  cases node with
  | string s => exact Json.asFlag_string_iff hstod s
  | boolean value =>
      simp [Json.asFlag, Json.asDouble, Json.asBool, Json.Ambiguous,
        Double.isZero_ofBool]
  | number value =>
      simp [Json.asFlag, Json.asDouble, Json.asBool, Json.Ambiguous]
  | null => simp [Json.asFlag, Json.asDouble, Json.asBool, Json.Ambiguous]
  | array items => simp [Json.asFlag, Json.asDouble, Json.asBool, Json.Ambiguous]
  | object members =>
      simp [Json.asFlag, Json.asDouble, Json.asBool, Json.Ambiguous]

/-!
# The routes of the adapters
-/

namespace MqttIndustrialAdapter

/-- The node of a document that an entry with a pointer decodes. -/
def pointedNode (text : TextLib) (doc : Json) (pointer : String) : Option Json :=
  if pointer = "" then some doc else text.pointer pointer doc

theorem parseDoublePayload_jsonPointer {text : TextLib} {payload : String}
    {doc : Json} (hparse : text.parse payload = some doc) (pointer : String) :
    parseDoublePayload text payload .jsonPointer pointer =
      (pointedNode text doc pointer).bind (jsonAsDouble text) := by
  unfold parseDoublePayload pointedNode
  rw [hparse]
  by_cases hpointer : pointer = ""
  · simp [hpointer]
  · simp [hpointer]

theorem parseBoolPayload_jsonPointer {text : TextLib} {payload : String}
    {doc : Json} (hparse : text.parse payload = some doc) (pointer : String) :
    parseBoolPayload text payload .jsonPointer pointer =
      (pointedNode text doc pointer).bind (Json.asFlag text) := by
  unfold parseBoolPayload
  rw [parseDoublePayload_jsonPointer hparse pointer]
  rcases pointedNode text doc pointer with _ | node
  · rfl
  · rfl

end MqttIndustrialAdapter

namespace RestIndustrialAdapter

/-- A machine that maps one telemetry point and nothing else. -/
def onlyTelemetry (name pointer unit : String) : RestEquipmentMapping where
  id := "press"
  type := "Machine"
  telemetry := [⟨name, pointer, unit⟩]

def onlyState (pointer : String) : RestEquipmentMapping where
  id := "press"
  type := "Machine"
  statePointer := pointer

def onlyFault (pointer : String) : RestEquipmentMapping where
  id := "press"
  type := "Machine"
  faultPointer := pointer

/-- The refresh of a machine from a document reads one value, or it rejects the document
with a fault. -/
def Decodes (text : TextLib) (doc : Json) (m : RestEquipmentMapping)
    (value : Option Reading) : Prop :=
  forall (e : GenericEquipment) (link : RestLink),
    match value with
    | some r =>
        ReadStep.readings (decodeSteps text m doc) link = [r] ∧
          (ReadStep.refresh (decodeSteps text m doc) e link).1 = true
    | none =>
        (ReadStep.refresh (decodeSteps text m doc) e link).1 = false ∧
          (ReadStep.refresh (decodeSteps text m doc) e link).2.2.connectionState = .faulted

theorem decodes_iff {text : TextLib} {doc : Json} {m : RestEquipmentMapping}
    {entry : SignalEntry} {pointer : String} (hm : signalSources m = [(entry, pointer)])
    (value : Option Reading) :
    Decodes text doc m value <-> value = valueAt text doc entry pointer := by
  have hreadings : forall link, ReadStep.readings (decodeSteps text m doc) link =
      (valueAt text doc entry pointer).toList := by
    intro link
    rw [decodeSteps_eq, hm, List.map_cons, List.map_nil, ReadStep.readings,
      perform_readSignal]
    cases valueAt text doc entry pointer <;> rfl
  have hrefresh : forall e link, ReadStep.refresh (decodeSteps text m doc) e link =
      match valueAt text doc entry pointer with
      | some r => (true, e.applyReading r, link)
      | none => (false, e, link.enterFault (pointerError pointer entry)) := by
    intro e link
    rw [decodeSteps_eq, hm, List.map_cons, List.map_nil, ReadStep.refresh_cons,
      perform_readSignal]
    cases valueAt text doc entry pointer <;> rfl
  constructor
  · intro hdecodes
    have hnow := hdecodes (freshEquipment m) { session := {} }
    rw [hreadings, hrefresh] at hnow
    cases hvalue : valueAt text doc entry pointer with
    | none =>
        rw [hvalue] at hnow
        cases value with
        | none => rfl
        | some r => cases hnow.1
    | some q =>
        rw [hvalue] at hnow
        cases value with
        | none => cases hnow.1
        | some r => exact congrArg some (List.cons.inj hnow.1).1.symm
  · rintro rfl e link
    rw [hreadings, hrefresh]
    cases valueAt text doc entry pointer <;> exact ⟨rfl, rfl⟩

theorem not_decodes_of_unmapped {text : TextLib} {doc : Json} {m : RestEquipmentMapping}
    (hm : signalSources m = []) (value : Option Reading) : ¬ Decodes text doc m value := by
  intro hdecodes
  have hnow := hdecodes (freshEquipment m) { session := {} }
  rw [decodeSteps_eq, hm] at hnow
  cases value with
  | none => cases hnow.1
  | some r => cases hnow.1

end RestIndustrialAdapter

/-!
# Both routes compared
-/

/-- The same telemetry pointer takes the same number out of a document over MQTT and
over REST, or is rejected by both. -/
def TelemetryAlike (text : TextLib) (payload : String) (doc : Json)
    (pointer : String) : Prop :=
  forall name unit, RestIndustrialAdapter.Decodes text doc
    (RestIndustrialAdapter.onlyTelemetry name pointer unit)
    ((MqttIndustrialAdapter.parseDoublePayload text payload .jsonPointer pointer).map
      (fun value => .telemetry name value unit))

/-- The same for the pointer of a running state and of a machine fault. -/
def SignalAlike (text : TextLib) (payload : String) (doc : Json)
    (pointer : String) : Prop :=
  RestIndustrialAdapter.Decodes text doc (RestIndustrialAdapter.onlyState pointer)
      ((MqttIndustrialAdapter.parseBoolPayload text payload .jsonPointer pointer).map
        .state) ∧
    RestIndustrialAdapter.Decodes text doc (RestIndustrialAdapter.onlyFault pointer)
      ((MqttIndustrialAdapter.parseBoolPayload text payload .jsonPointer pointer).map
        .fault)

theorem telemetryAlike_iff {text : TextLib} {payload : String} {doc : Json}
    (hparse : text.parse payload = some doc) (pointer : String) :
    TelemetryAlike text payload doc pointer <->
      (pointer = "" -> doc.asDouble text = none) := by
  unfold TelemetryAlike
  rw [MqttIndustrialAdapter.parseDoublePayload_jsonPointer hparse pointer]
  unfold MqttIndustrialAdapter.pointedNode
  have hiff : forall name unit value, RestIndustrialAdapter.Decodes text doc
      (RestIndustrialAdapter.onlyTelemetry name pointer unit) value <->
        value = RestIndustrialAdapter.valueAt text doc (.telemetry name unit) pointer :=
    fun name unit value => RestIndustrialAdapter.decodes_iff rfl value
  simp only [hiff]
  unfold RestIndustrialAdapter.valueAt
  by_cases hpointer : pointer = ""
  · simp [hpointer, MqttIndustrialAdapter.jsonAsDouble]
  · rw [if_neg hpointer, if_neg hpointer]
    constructor
    · intro _ hempty
      exact absurd hempty hpointer
    · intro _ name unit
      cases text.pointer pointer doc <;> rfl

/-- A boolean that MQTT takes out of a node is the one that REST takes out of it exactly
when the node means one thing. -/
theorem flagged_iff {text : TextLib} (hstod : text.ReadsBooleanTexts)
    {toReading : Bool -> Reading} (hinjective : Function.Injective toReading)
    (found : Option Json) :
    (found.bind (Json.asFlag text)).map toReading =
        found.bind (fun node => node.asBool.map toReading) <->
      forall node, found = some node -> Not (node.Ambiguous text) := by
  cases found with
  | none => simp
  | some node =>
      have hiff := Json.asFlag_iff hstod node
      constructor
      · rintro heq other ⟨⟩
        exact hiff.mp (Option.map_injective hinjective heq)
      · intro hclear
        exact congrArg (Option.map toReading) (hiff.mpr (hclear node rfl))

theorem signalAlike_iff {text : TextLib} (hstod : text.ReadsBooleanTexts)
    {payload : String} {doc : Json} (hparse : text.parse payload = some doc)
    (pointer : String) :
    SignalAlike text payload doc pointer <->
      pointer ≠ "" ∧ forall node, text.pointer pointer doc = some node ->
        Not (node.Ambiguous text) := by
  unfold SignalAlike
  rw [MqttIndustrialAdapter.parseBoolPayload_jsonPointer hparse pointer]
  unfold MqttIndustrialAdapter.pointedNode
  by_cases hpointer : pointer = ""
  · subst hpointer
    constructor
    · intro halike
      exact absurd halike.1 (RestIndustrialAdapter.not_decodes_of_unmapped rfl _)
    · rintro ⟨hne, _⟩
      exact absurd rfl hne
  · have hstate : RestIndustrialAdapter.signalSources
        (RestIndustrialAdapter.onlyState pointer) = [(.state, pointer)] := by
      simp [RestIndustrialAdapter.signalSources, RestIndustrialAdapter.onlyState, hpointer]
    have hfault : RestIndustrialAdapter.signalSources
        (RestIndustrialAdapter.onlyFault pointer) = [(.fault, pointer)] := by
      simp [RestIndustrialAdapter.signalSources, RestIndustrialAdapter.onlyFault, hpointer]
    rw [RestIndustrialAdapter.decodes_iff hstate, RestIndustrialAdapter.decodes_iff hfault]
    unfold RestIndustrialAdapter.valueAt
    rw [if_neg hpointer, if_neg hpointer]
    have hrunning := flagged_iff hstod (fun _ _ => Reading.state.inj)
      (text.pointer pointer doc)
    have hfaulted := flagged_iff hstod (fun _ _ => Reading.fault.inj)
      (text.pointer pointer doc)
    constructor
    · rintro ⟨hread, _⟩
      exact ⟨hpointer, hrunning.mp hread⟩
    · rintro ⟨_, hclear⟩
      exact ⟨hrunning.mpr hclear, hfaulted.mpr hclear⟩

/-- What both adapters make of a document, by its pointer and the node behind it. -/
theorem decoded_alike_iff {text : TextLib} (hstod : text.ReadsBooleanTexts)
    {payload : String} {doc : Json} (hparse : text.parse payload = some doc)
    (pointer : String) :
    (TelemetryAlike text payload doc pointer <->
      (pointer = "" -> doc.asDouble text = none)) ∧
    (SignalAlike text payload doc pointer <->
      pointer ≠ "" ∧ forall node, text.pointer pointer doc = some node ->
        Not (node.Ambiguous text)) :=
  ⟨telemetryAlike_iff hparse pointer, signalAlike_iff hstod hparse pointer⟩

/-!
# A press that reports its state in words
-/

def pressDocument : Json :=
  .object [("state", .string "running")]

def pressPayload : String :=
  "\x7b\"state\":\"running\"\x7d"

def pressText : TextLib where
  stod s :=
    if s = "1" then some Double.one
    else if s = "0" then some Double.zero
    else none
  number _ := ""
  parse payload := if payload = pressPayload then some pressDocument else none
  pointer p doc :=
    match doc with
    | .object members => (members.find? (fun m => "/" ++ m.1 = p)).map Prod.snd
    | _ => none

theorem pressText_readsBooleanTexts : pressText.ReadsBooleanTexts where
  one := by rfl
  zero := by rfl
  word := by
    intro s hs
    simp only [stateWords, List.mem_cons, List.not_mem_nil, or_false] at hs
    rcases hs with rfl | rfl | rfl | rfl | rfl <;> rfl

theorem pressText_parse : pressText.parse pressPayload = some pressDocument := by
  simp [pressText]

/-- REST reads that the press is running where MQTT rejects the message. -/
theorem not_signalAlike_pressDocument :
    pressText.ReadsBooleanTexts ∧
      pressText.parse pressPayload = some pressDocument ∧
      Not (SignalAlike pressText pressPayload pressDocument "/state") := by
  refine ⟨pressText_readsBooleanTexts, pressText_parse, fun halike => ?_⟩
  have hvalue := (RestIndustrialAdapter.decodes_iff rfl _).mp halike.1
  rw [MqttIndustrialAdapter.parseBoolPayload_jsonPointer pressText_parse] at hvalue
  cases hvalue

theorem decoded_alike_iff_pressDocument :
    (TelemetryAlike pressText pressPayload pressDocument "/state" <->
      ("/state" = "" -> pressDocument.asDouble pressText = none)) ∧
    (SignalAlike pressText pressPayload pressDocument "/state" <->
      "/state" ≠ "" ∧ forall node, pressText.pointer "/state" pressDocument = some node ->
        Not (node.Ambiguous pressText)) :=
  decoded_alike_iff pressText_readsBooleanTexts pressText_parse "/state"

end VirtualFactory
