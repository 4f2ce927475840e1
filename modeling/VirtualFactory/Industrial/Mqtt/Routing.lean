import VirtualFactory.Industrial.Mqtt.LatestValues

/-!
# Message routing

Every message is offered to every entry of every mapping.  What a machine shows after
any history of messages is said in terms of these offers, in the order in which they
are made.
-/

namespace VirtualFactory

open Foundation

/-- An entry of a mapping that messages can be for. -/
inductive MappedEntry where
  | telemetry (point : MqttTelemetryMapping)
  | state (mapping : MqttSignalMapping)
  | fault (mapping : MqttSignalMapping)

namespace MqttIndustrialAdapter

def entryTopic : MappedEntry -> String
  | .telemetry point => point.topic
  | .state mapping => mapping.topic
  | .fault mapping => mapping.topic

def entryValue (text : TextLib) (payload : String) : MappedEntry -> Option Reading
  | .telemetry point =>
      (parseDoublePayload text payload point.encoding point.jsonPointer).map
        (fun value => .telemetry point.name value point.unit)
  | .state mapping =>
      (parseBoolPayload text payload mapping.encoding mapping.jsonPointer).map .state
  | .fault mapping =>
      (parseBoolPayload text payload mapping.encoding mapping.jsonPointer).map .fault

/-- The entries of a mapping in the order in which a message is offered to them. -/
def mappedEntries (m : MqttEquipmentMapping) : List MappedEntry :=
  m.telemetry.map .telemetry ++
    ((if m.state.mapped then [.state m.state] else []) ++
      (if m.fault.mapped then [.fault m.fault] else []))

structure Offer where
  message : MqttMessage
  entry : MappedEntry

/-- All offers of a history of messages to the entries of a mapping, in order. -/
def offers (messages : List MqttMessage) (m : MqttEquipmentMapping) : List Offer :=
  messages.flatMap (fun message => (mappedEntries m).map (fun entry => ⟨message, entry⟩))

/-- The message of the offer is on the topic of the entry, and it can be decoded. -/
def Offer.Tells (text : TextLib) (o : Offer) (r : Reading) : Prop :=
  entryTopic o.entry = o.message.topic ∧
    entryValue text o.message.payload o.entry = some r

/-- A machine shows for every signal the value of the last offer that tells one, and
what it showed before if there is none. -/
structure ShowsLastTold (text : TextLib) (os : List Offer)
    (before after : GenericEquipment) : Prop where
  last : forall earlier o later r, os = earlier ++ o :: later -> o.Tells text r ->
    (forall p, p ∈ later -> forall q, p.Tells text q -> q.signal ≠ r.signal) ->
      after.shown r.signal = some r
  initial : forall signal,
    (forall o, o ∈ os -> forall r, o.Tells text r -> r.signal ≠ signal) ->
      after.shown signal = before.shown signal

/-!
# What an offer stores
-/

def told (text : TextLib) (o : Offer) : Option Reading :=
  if entryTopic o.entry = o.message.topic then
    entryValue text o.message.payload o.entry
  else none

theorem told_eq_some_iff (text : TextLib) (o : Offer) (r : Reading) :
    told text o = some r <-> o.Tells text r := by
  unfold told Offer.Tells
  constructor
  · intro h
    split at h
    · rename_i htopic
      exact ⟨htopic, h⟩
    · cases h
  · rintro ⟨htopic, hvalue⟩
    rw [if_pos htopic, hvalue]

theorem filterMap_told_telemetry (text : TextLib) (message : MqttMessage)
    (points : List MqttTelemetryMapping) :
    points.filterMap (telemetryReading text message) =
      (points.map (fun point => Offer.mk message (.telemetry point))).filterMap
        (told text) := by
  rw [List.filterMap_map]
  apply List.filterMap_congr
  intro point _
  show (if point.topic ≠ message.topic then none else _) =
    (if point.topic = message.topic then _ else none)
  rw [ite_not]
  rfl

theorem toList_signalReading (text : TextLib) (message : MqttMessage)
    (toReading : Bool -> Reading) (mapping : MqttSignalMapping) (entry : MappedEntry)
    (htopic : entryTopic entry = mapping.topic)
    (hvalue : entryValue text message.payload entry =
      (parseBoolPayload text message.payload mapping.encoding
        mapping.jsonPointer).map toReading) :
    (signalReading text message toReading mapping).toList =
      ((if mapping.mapped then [entry] else []).map (Offer.mk message)).filterMap
        (told text) := by
  unfold signalReading
  cases mapping.mapped with
  | false => rfl
  | true =>
      have htold : told text ⟨message, entry⟩ =
          if mapping.topic = message.topic then
            (parseBoolPayload text message.payload mapping.encoding
              mapping.jsonPointer).map toReading
          else none := by
        unfold told
        rw [htopic, hvalue]
      rw [if_pos rfl, List.map_singleton]
      simp only [true_and, ← htold, List.filterMap_cons, List.filterMap_nil]
      cases told text ⟨message, entry⟩ <;> rfl

theorem messageReadings_eq (text : TextLib) (m : MqttEquipmentMapping)
    (message : MqttMessage) :
    messageReadings text m message =
      ((mappedEntries m).map (Offer.mk message)).filterMap (told text) := by
  unfold messageReadings mappedEntries
  rw [filterMap_told_telemetry,
    toList_signalReading text message .state m.state (.state m.state) rfl rfl,
    toList_signalReading text message .fault m.fault (.fault m.fault) rfl rfl]
  simp only [List.map_append, List.map_map, List.filterMap_append]
  rfl

theorem flatMap_messageReadings (text : TextLib) (m : MqttEquipmentMapping)
    (messages : List MqttMessage) :
    messages.flatMap (messageReadings text m) =
      (offers messages m).filterMap (told text) := by
  unfold offers
  rw [List.filterMap_flatMap]
  apply List.flatMap_congr
  intro message _
  exact messageReadings_eq text m message

theorem lastReading_of_not_told {text : TextLib} {os : List Offer} {signal : Signal}
    (h : forall o, o ∈ os -> forall r, o.Tells text r -> r.signal ≠ signal) :
    lastReading signal (os.filterMap (told text)) = none := by
  apply lastReading_eq_none
  intro r hr
  rcases List.mem_filterMap.mp hr with ⟨o, ho, htold⟩
  exact h o ho r ((told_eq_some_iff text o r).mp htold)

/-- A machine that stores what offers tell shows what the last ones tell. -/
theorem showsLastTold_foldl (text : TextLib) (os : List Offer)
    (e : GenericEquipment) :
    ShowsLastTold text os e
      ((os.filterMap (told text)).foldl GenericEquipment.applyReading e) := by
  constructor
  · intro earlier o later r hos htells hlater
    have hlast := lastReading_of_not_told hlater
    rw [GenericEquipment.shown_foldl_applyReading, hos, List.filterMap_append,
      List.filterMap_cons_some ((told_eq_some_iff text o r).mpr htells),
      lastReading_append, lastReading, hlast, if_pos rfl]
    rfl
  · intro signal huntold
    rw [GenericEquipment.shown_foldl_applyReading, lastReading_of_not_told huntold]
    rfl

/-!
# Histories of messages
-/

def applyMessages (text : TextLib) (messages : List MqttMessage)
    (a : MqttIndustrialAdapter) : MqttIndustrialAdapter :=
  messages.foldl (applyMessage text) a

theorem applyMessages_eq (text : TextLib) (messages : List MqttMessage)
    (a : MqttIndustrialAdapter) :
    a.applyMessages text messages =
      { a with
        core :=
          { a.core with
            bound := a.core.bound.map (fun b => messages.foldl (applyTo text) b) } } := by
  induction messages generalizing a with
  | nil =>
      show a = _
      simp only [List.foldl_nil, List.map_id']
  | cons message rest ih =>
      have hrest := ih (a.applyMessage text message)
      unfold applyMessages at hrest ⊢
      rw [List.foldl_cons, hrest]
      unfold applyMessage
      simp only [List.map_map]
      rfl

/-- No entry of a bound machine is told anything by the message. -/
def Ignores (text : TextLib) (a : MqttIndustrialAdapter) (message : MqttMessage) :
    Prop :=
  forall b, b ∈ a.core.bound -> forall entry, entry ∈ mappedEntries b.mapping ->
    forall r, ¬ Offer.Tells text ⟨message, entry⟩ r

theorem applyTo_of_ignores {text : TextLib} {a : MqttIndustrialAdapter}
    {message : MqttMessage} (h : a.Ignores text message)
    {b : BoundEquipment MqttEquipmentMapping} (hb : b ∈ a.core.bound) :
    applyTo text b message = b := by
  have hnone : messageReadings text b.mapping message = [] := by
    rw [messageReadings_eq, List.filterMap_eq_nil_iff]
    intro o ho
    rcases List.mem_map.mp ho with ⟨entry, hentry, rfl⟩
    cases htold : told text ⟨message, entry⟩ with
    | none => rfl
    | some r =>
        exact absurd ((told_eq_some_iff text _ r).mp htold) (h b hb entry hentry r)
  unfold applyTo
  rw [hnone, BoundEquipment.store_nil]

theorem applyMessage_of_ignores {text : TextLib} {a : MqttIndustrialAdapter}
    {message : MqttMessage} (h : a.Ignores text message) :
    a.applyMessage text message = a := by
  have hbound : a.core.bound.map (fun b => applyTo text b message) = a.core.bound := by
    conv => rhs; rw [← List.map_id a.core.bound]
    exact List.map_congr_left (fun b hb => applyTo_of_ignores h hb)
  unfold applyMessage
  rw [hbound]

/-- Every machine shows for every signal what the last offer of the history told it,
and a message that tells nothing leaves the adapter as it is. -/
structure RoutesMessages (text : TextLib) (messages : List MqttMessage)
    (a : MqttIndustrialAdapter) : Prop where
  connection : (a.applyMessages text messages).core.link = a.core.link
  machinesOnly : a.applyMessages text messages =
    { a with
      core := { a.core with bound := (a.applyMessages text messages).core.bound } }
  machines : (a.applyMessages text messages).core.bound.map BoundEquipment.mapping =
    a.core.bound.map BoundEquipment.mapping
  routed : forall (i : Nat) (b : BoundEquipment MqttEquipmentMapping),
    a.core.bound[i]? = some b -> exists b' : BoundEquipment MqttEquipmentMapping,
      (a.applyMessages text messages).core.bound[i]? = some b' ∧
        ShowsLastTold text (offers messages b.mapping) b.inner b'.inner
  ignored : forall message, a.Ignores text message ->
    a.applyMessages text (messages ++ [message]) = a.applyMessages text messages

/-- Any history of messages is routed to the machines of an adapter. -/
theorem messages_routed (text : TextLib) (messages : List MqttMessage)
    (a : MqttIndustrialAdapter) : RoutesMessages text messages a := by
  have hmapping : forall b : BoundEquipment MqttEquipmentMapping,
      (messages.foldl (applyTo text) b).mapping = b.mapping := by
    intro b
    rw [foldl_applyTo]
    rfl
  constructor
  · rw [applyMessages_eq]
  · rw [applyMessages_eq]
  · rw [applyMessages_eq, List.map_map]
    exact List.map_congr_left (fun b _ => hmapping b)
  · intro i b hb
    refine ⟨messages.foldl (applyTo text) b, ?_, ?_⟩
    · rw [applyMessages_eq, List.getElem?_map, hb]
      rfl
    · rw [foldl_applyTo, flatMap_messageReadings]
      exact showsLastTold_foldl text _ b.inner
  · intro message hignores
    unfold applyMessages
    rw [List.foldl_append]
    apply applyMessage_of_ignores
    have heq := applyMessages_eq text messages a
    unfold applyMessages at heq
    rw [heq]
    intro b hb entry hentry
    rcases List.mem_map.mp hb with ⟨c, hc, rfl⟩
    rw [hmapping c] at hentry
    exact hignores c hc entry hentry

end MqttIndustrialAdapter

end VirtualFactory
