import VirtualFactory.Industrial.Json
import VirtualFactory.Industrial.Mqtt.Session
import VirtualFactory.Industrial.ProtocolAdapter

/-!
# The MQTT adapter

One adapter is one client of one broker.  Topics are mapped into equipment, and the
process keeps the identifiers of its clients apart.
-/

namespace VirtualFactory

open Foundation

/-!
# Configuration
-/

inductive MqttPayloadEncoding where
  | jsonPointer
  | numberText
  | booleanText
  deriving DecidableEq

structure MqttCommandMapping where
  command : String
  topic : String
  bodyTemplate : String := ""
  qos : Int := 1
  retain : Bool := false

structure MqttTelemetryMapping where
  name : String
  topic : String
  unit : String
  encoding : MqttPayloadEncoding := .jsonPointer
  jsonPointer : String := ""
  qos : Int := 1

structure MqttSignalMapping where
  topic : String := ""
  encoding : MqttPayloadEncoding := .booleanText
  jsonPointer : String := ""
  qos : Int := 1
  mapped : Bool := false

structure MqttEquipmentMapping where
  id : String
  type : String
  capabilities : List String := []
  commands : List MqttCommandMapping := []
  telemetry : List MqttTelemetryMapping := []
  state : MqttSignalMapping := {}
  fault : MqttSignalMapping := {}

structure MqttAdapterConfig where
  host : String := "127.0.0.1"
  port : UInt16 := 1883
  clientId : String := ""
  timeoutMs : Int := 2000
  pollTimeoutMs : Int := 50
  keepaliveSeconds : Int := 20
  useTls : Bool := false
  tlsVerify : Bool := true
  username : String := ""
  password : String := ""
  equipment : List MqttEquipmentMapping := []

instance : EquipmentMapping MqttEquipmentMapping where
  id m := m.id
  type m := m.type
  capabilities m := m.capabilities
  commands m := m.commands.map MqttCommandMapping.command

/-!
# Client identifiers
-/

def clientKey (host : String) (port : UInt16) (clientId : String) : String :=
  host ++ ":" ++ toString port.toNat ++ "\n" ++ clientId

def sanitizeClientFragment (value : String) : String :=
  let out :=
    value.toList.flatMap fun ch =>
      if ('a' ≤ ch ∧ ch ≤ 'z') ∨ ('A' ≤ ch ∧ ch ≤ 'Z') ∨
          ('0' ≤ ch ∧ ch ≤ '9') ∨ ch = '-' ∨ ch = '_' then [ch]
      -- the source replaces every byte of the character
      else List.replicate ch.utf8Size '-'
  if out = [] then "adapter" else String.ofList out

def topicHasWildcard (topic : String) : Bool :=
  topic.toList.any (fun c => c == '+' || c == '#')

/-!
# Payloads
-/

namespace MqttIndustrialAdapter

def substituteValue (text : TextLib) (bodyTemplate : String) (value : Double) :
    String :=
  substituteNumber text bodyTemplate value

def jsonAsDouble (text : TextLib) (node : Json) : Option Double :=
  node.asDouble text

def jsonAsBool (node : Json) : Option Bool :=
  node.asBool

def parseDoublePayload (text : TextLib) (payload : String)
    (encoding : MqttPayloadEncoding) (jsonPointer : String) : Option Double :=
  match encoding with
  | .numberText => text.stod payload
  | .booleanText =>
      match jsonAsBool (.string payload) with
      | some flag => some (Double.ofBool flag)
      | none => ((text.parse payload).bind jsonAsBool).map Double.ofBool
  | .jsonPointer =>
      (text.parse payload).bind fun doc =>
        if jsonPointer = "" then jsonAsDouble text doc
        else (text.pointer jsonPointer doc).bind (jsonAsDouble text)

def parseBoolPayload (text : TextLib) (payload : String)
    (encoding : MqttPayloadEncoding) (jsonPointer : String) : Option Bool :=
  (parseDoublePayload text payload encoding jsonPointer).map
    (fun value => !value.isZero)

/-!
# Messages

What a message means for a machine: a reading for every entry mapped to its topic
whose payload can be decoded, in the order of the entries.
-/

def telemetryReading (text : TextLib) (message : MqttMessage)
    (point : MqttTelemetryMapping) : Option Reading :=
  if point.topic ≠ message.topic then none
  else
    (parseDoublePayload text message.payload point.encoding point.jsonPointer).map
      (fun value => .telemetry point.name value point.unit)

def signalReading (text : TextLib) (message : MqttMessage)
    (toReading : Bool -> Reading) (mapping : MqttSignalMapping) : Option Reading :=
  if mapping.mapped ∧ mapping.topic = message.topic then
    (parseBoolPayload text message.payload mapping.encoding
      mapping.jsonPointer).map toReading
  else none

def messageReadings (text : TextLib) (m : MqttEquipmentMapping)
    (message : MqttMessage) : List Reading :=
  m.telemetry.filterMap (telemetryReading text message) ++
    ((signalReading text message .state m.state).toList ++
      (signalReading text message .fault m.fault).toList)

/-- `BoundEquipment::applyMessage`. -/
def applyTo (text : TextLib) (b : BoundEquipment MqttEquipmentMapping)
    (message : MqttMessage) : BoundEquipment MqttEquipmentMapping :=
  b.store (messageReadings text b.mapping message)

/-!
# Topics
-/

/-- A topic of a mapping, its quality of service and what it is used for. -/
structure MappedTopic where
  topic : String
  qos : Int
  what : String

def signalTopic (what : String) (mapping : MqttSignalMapping) : List MappedTopic :=
  if mapping.mapped then [⟨mapping.topic, mapping.qos, what⟩] else []

/-- The topics that are subscribed, in the order of the configuration. -/
def subscribedTopics (m : MqttEquipmentMapping) : List MappedTopic :=
  m.telemetry.map (fun point => ⟨point.topic, point.qos, "telemetry"⟩) ++
    (signalTopic "state" m.state ++ signalTopic "fault" m.fault)

/-- The topics that are validated, in the order of the configuration. -/
def validatedTopics (m : MqttEquipmentMapping) : List MappedTopic :=
  subscribedTopics m ++
    m.commands.map (fun command => ⟨command.topic, command.qos, "command"⟩)

def wildcardError (what : String) : String :=
  "MQTT " ++ what ++ " topic must not use wildcards"

def invalidTopic (config : MqttAdapterConfig) : Option MappedTopic :=
  (config.equipment.flatMap validatedTopics).find?
    (fun t => t.topic != "" && topicHasWildcard t.topic)

structure Sub where
  topic : String
  qos : Int := 1

/-- Raise the quality of service of a topic that is subscribed already. -/
def raiseQos (topic : String) (qos : Int) : List Sub -> Option (List Sub)
  | [] => none
  | entry :: rest =>
      if entry.topic = topic then
        some ({ entry with qos := if entry.qos < qos then qos else entry.qos } :: rest)
      else (raiseQos topic qos rest).map (fun subs => entry :: subs)

/-- The subscriptions for a list of topics, or the use of the first wildcard. -/
def collectSubs : List MappedTopic -> List Sub -> Except String (List Sub)
  | [], subs => .ok subs
  | t :: rest, subs =>
      if t.topic = "" then collectSubs rest subs
      else if topicHasWildcard t.topic then .error t.what
      else
        match raiseQos t.topic t.qos subs with
        | some subs => collectSubs rest subs
        | none => collectSubs rest (subs ++ [⟨t.topic, clampQos t.qos⟩])

end MqttIndustrialAdapter

/-!
# The adapter
-/

structure MqttIndustrialAdapter where
  core : ProtocolAdapter MqttAdapterConfig MqttEquipmentMapping MqttSession
  activeClientId : String := ""

namespace MqttIndustrialAdapter

def new (id : String) (config : MqttAdapterConfig) : MqttIndustrialAdapter where
  core := ProtocolAdapter.create id config {}

def protocol : String := "mqtt"

def config (a : MqttIndustrialAdapter) : MqttAdapterConfig :=
  a.core.config

def session (a : MqttIndustrialAdapter) : MqttSession :=
  a.core.link.session

def connectionState (a : MqttIndustrialAdapter) : ConnectionState :=
  a.core.link.connectionState

def withSession (a : MqttIndustrialAdapter) (s : MqttSession) :
    MqttIndustrialAdapter :=
  { a with core := a.core.withSession s }

def callback (a : MqttIndustrialAdapter) (c : PahoCallback) :
    MqttIndustrialAdapter :=
  a.withSession (a.session.callback c)

def keyOf (a : MqttIndustrialAdapter) (clientId : String) : String :=
  clientKey a.config.host a.config.port clientId

def resolveClientId (a : MqttIndustrialAdapter) (ids : ClientIds) :
    String × ClientIds :=
  if a.config.clientId ≠ "" then (a.config.clientId, ids)
  else
    ("vf." ++ sanitizeClientFragment a.core.id ++ "." ++ toString ids.serial.toNat,
      { ids with serial := ids.serial + 1 })

def claimClientId (clientId : String) (a : MqttIndustrialAdapter)
    (ids : ClientIds) : Bool × MqttIndustrialAdapter × ClientIds :=
  if a.keyOf clientId ∈ ids.claimed then (false, a, ids)
  else
    (true, { a with activeClientId := clientId },
      { ids with claimed := insert (a.keyOf clientId) ids.claimed })

def releaseClientId (a : MqttIndustrialAdapter) (ids : ClientIds) : ClientIds :=
  if a.activeClientId = "" then ids
  else { ids with claimed := ids.claimed.erase (a.keyOf a.activeClientId) }

def redact (config : MqttAdapterConfig) (reason : String) : String :=
  if config.password = "" then reason
  else Replace.replaceAll config.password "[redacted]" reason

def enterFault (paho : Paho) (reason : String) (a : MqttIndustrialAdapter)
    (ids : ClientIds) : MqttIndustrialAdapter × ClientIds :=
  ({ core :=
      (a.core.withSession (a.session.close paho)).enterFault (redact a.config reason)
     activeClientId := "" },
    a.releaseClientId ids)

def disconnect (paho : Paho) (a : MqttIndustrialAdapter) (ids : ClientIds) :
    MqttIndustrialAdapter × ClientIds :=
  ({ core := a.core.disconnectWith (MqttSession.close paho), activeClientId := "" },
    a.releaseClientId ids)

def sessionConfig (config : MqttAdapterConfig) (clientId : String) :
    MqttSessionConfig where
  host := config.host
  port := config.port
  clientId := clientId
  -- from INT_MAX - 998 on the sum overflows, and the source promises nothing
  connectTimeoutSeconds :=
    if 0 < config.timeoutMs then (config.timeoutMs + 999) / 1000 else 2
  keepaliveSeconds :=
    if 0 < config.keepaliveSeconds then config.keepaliveSeconds else 20
  useTls := config.useTls
  tlsVerify := config.tlsVerify
  username := config.username
  password := config.password

def subscribeSub (paho : Paho) (sub : Sub) : MqttSession -> Bool × MqttSession :=
  MqttSession.subscribe paho sub.topic sub.qos

def subscribeMappedTopics (paho : Paho) (a : MqttIndustrialAdapter)
    (ids : ClientIds) : Bool × MqttIndustrialAdapter × ClientIds :=
  match collectSubs (a.config.equipment.flatMap subscribedTopics) [] with
  | .error what => (false, a.enterFault paho (wildcardError what) ids)
  | .ok subs =>
      match untilFailure (subscribeSub paho) subs a.session with
      | (false, s) =>
          (false,
            (a.withSession s).enterFault paho
              ("MQTT subscribe failed: " ++ s.lastError) ids)
      | (true, s) => (true, a.withSession s, ids)

/-- The equipment of an earlier session is used again after a fault. -/
def bindOrReuse (a : MqttIndustrialAdapter) : MqttIndustrialAdapter :=
  if !a.core.bound.isEmpty ∧ a.connectionState = .faulted then a
  else { a with core := a.core.bindEquipment a.config.equipment }

/-- The part of connect behind the claim of the identifier. -/
def openSession (paho : Paho) (clientId : String) (a : MqttIndustrialAdapter)
    (ids : ClientIds) : Bool × MqttIndustrialAdapter × ClientIds :=
  match (a.session.close paho).connect paho (sessionConfig a.config clientId) with
  | (false, s) =>
      (false,
        (a.withSession s).enterFault paho
          ("MQTT broker connect failed: " ++ s.lastError) ids)
  | (true, s) =>
      match (a.withSession s).bindOrReuse.subscribeMappedTopics paho ids with
      | (false, a, ids) => (false, a, ids)
      | (true, a, ids) => (true, { a with core := a.core.enterConnected }, ids)

def connect (paho : Paho) (a : MqttIndustrialAdapter) (ids : ClientIds) :
    Bool × MqttIndustrialAdapter × ClientIds :=
  if a.connectionState = .connected then (true, a, ids)
  else if a.config.host = "" ∨ a.config.port = 0 then
    (false, a.enterFault paho "missing MQTT broker host or port" ids)
  else
    match invalidTopic a.config with
    | some t => (false, a.enterFault paho (wildcardError t.what) ids)
    | none =>
        let resolved := a.resolveClientId ids
        match a.claimClientId resolved.1 resolved.2 with
        | (false, a, ids) =>
            (false,
              a.enterFault paho "MQTT client id already in use for this broker" ids)
        | (true, a, ids) =>
            a.openSession paho resolved.1 ids

def applyMessage (text : TextLib) (a : MqttIndustrialAdapter)
    (message : MqttMessage) : MqttIndustrialAdapter :=
  { a with
    core :=
      { a.core with bound := a.core.bound.map (fun b => applyTo text b message) } }

def pollTimeout (config : MqttAdapterConfig) : Nat :=
  if 0 < config.pollTimeoutMs then config.pollTimeoutMs.toNat
  else if config.pollTimeoutMs = 0 then 0 else 50

abbrev kMaxMessagesPerPoll : Nat := 512

def pollLoop (text : TextLib) (paho : Paho) :
    Nat -> Nat -> MqttIndustrialAdapter -> ClientIds ->
      MqttIndustrialAdapter × ClientIds
  | 0, _, a, ids => (a, ids)
  | n + 1, timeoutMs, a, ids =>
      match a.session.receive paho timeoutMs with
      | (.error, s) =>
          (a.withSession s).enterFault paho
            (if s.lastError = "" then "MQTT broker disconnected"
              else "MQTT receive failed: " ++ s.lastError) ids
      | (.nothing, s) =>
          match s.connected paho with
          | (false, s) =>
              (a.withSession s).enterFault paho "MQTT broker disconnected" ids
          | (true, s) => (a.withSession s, ids)
      | (.received message, s) =>
          pollLoop text paho n 0 ((a.withSession s).applyMessage text message) ids

def poll (text : TextLib) (paho : Paho) (a : MqttIndustrialAdapter)
    (ids : ClientIds) : MqttIndustrialAdapter × ClientIds :=
  if a.connectionState ≠ .connected then
    if a.connectionState = .faulted ∧ a.core.link.lastError = "" then
      ({ a with
          core :=
            { a.core with
              link :=
                { a.core.link with
                  lastError := "poll failed: communication fault" } } }, ids)
    else (a, ids)
  else pollLoop text paho kMaxMessagesPerPoll (pollTimeout a.config) a ids

def publishCommand (text : TextLib) (paho : Paho) (command : MqttCommandMapping)
    (parameter : Double) (a : MqttIndustrialAdapter) (ids : ClientIds) :
    Bool × MqttIndustrialAdapter × ClientIds :=
  let body := substituteValue text command.bodyTemplate parameter
  match a.session.publish paho command.topic body command.qos command.retain with
  | (false, s) =>
      (false,
        (a.withSession s).enterFault paho ("MQTT publish failed: " ++ s.lastError)
          ids)
  | (true, s) => (true, a.withSession s, ids)

/-- `BoundEquipment::execute`. -/
def runCommand (text : TextLib) (paho : Paho) (command : String)
    (parameter : Double) (m : MqttEquipmentMapping) (a : MqttIndustrialAdapter)
    (ids : ClientIds) : CommandResult × MqttIndustrialAdapter × ClientIds :=
  runMapped a.connectionState
    (m.commands.find? (fun entry => entry.command = command))
    (fun mapped s =>
      if mapped.topic = "" ∨ topicHasWildcard mapped.topic then
        (⟨false, "invalid command topic"⟩, s)
      else
        match publishCommand text paho mapped parameter s.1 s.2 with
        | (false, a, ids) => (⟨false, "mqtt publish failed"⟩, a, ids)
        | (true, a, ids) => (⟨true, "published"⟩, a, ids))
    (a, ids)

def execute (text : TextLib) (paho : Paho) (a : MqttIndustrialAdapter)
    (equipmentId command : String) (parameter : Double) (ids : ClientIds) :
    Option (CommandResult × MqttIndustrialAdapter × ClientIds) :=
  (a.core.boundById equipmentId).map fun b =>
    runCommand text paho command parameter b.mapping a ids

/-!
# What the operations do

An operation other than connect and disconnect leaves the adapter as it is, or it
faults it and gives its client identifier back.
-/

structure Stays (a b : MqttIndustrialAdapter) : Prop where
  sameId : b.core.id = a.core.id
  sameConfig : b.config = a.config
  sameState : b.connectionState = a.connectionState
  sameError : b.core.link.lastError = a.core.link.lastError
  sameClient : b.activeClientId = a.activeClientId

structure Faults (a b : MqttIndustrialAdapter) : Prop where
  sameId : b.core.id = a.core.id
  sameConfig : b.config = a.config
  faulted : b.connectionState = .faulted
  noClient : b.activeClientId = ""

theorem stays_withSession (a : MqttIndustrialAdapter) (s : MqttSession) :
    Stays a (a.withSession s) :=
  ⟨rfl, rfl, rfl, rfl, rfl⟩

theorem faults_enterFault (paho : Paho) (reason : String)
    (a : MqttIndustrialAdapter) (ids : ClientIds) :
    Faults a (a.enterFault paho reason ids).1 :=
  ⟨rfl, rfl, rfl, rfl⟩

theorem Stays.trans {a b c : MqttIndustrialAdapter} (hab : Stays a b)
    (hbc : Stays b c) : Stays a c :=
  ⟨hbc.sameId.trans hab.sameId, hbc.sameConfig.trans hab.sameConfig,
    hbc.sameState.trans hab.sameState, hbc.sameError.trans hab.sameError,
    hbc.sameClient.trans hab.sameClient⟩

theorem Stays.faults {a b c : MqttIndustrialAdapter} (hab : Stays a b)
    (hbc : Faults b c) : Faults a c :=
  ⟨hbc.sameId.trans hab.sameId, hbc.sameConfig.trans hab.sameConfig, hbc.faulted,
    hbc.noClient⟩

theorem Stays.releaseClientId_eq {a b : MqttIndustrialAdapter} (h : Stays a b)
    (ids : ClientIds) : b.releaseClientId ids = a.releaseClientId ids := by
  unfold releaseClientId keyOf
  rw [h.sameClient, h.sameConfig]

/-- What polling or commanding an adapter makes of it and of the shared claims. -/
def Operated (a : MqttIndustrialAdapter) (ids : ClientIds)
    (b : MqttIndustrialAdapter) (ids' : ClientIds) : Prop :=
  (Stays a b ∧ ids' = ids) ∨ (Faults a b ∧ ids' = a.releaseClientId ids)

theorem operated_enterFault (paho : Paho) (reason : String)
    {a b : MqttIndustrialAdapter} (h : Stays a b) (ids : ClientIds) :
    Operated a ids (b.enterFault paho reason ids).1 (b.enterFault paho reason ids).2 :=
  Or.inr ⟨h.faults (faults_enterFault paho reason b ids),
    h.releaseClientId_eq ids⟩

theorem operated_of_stays {a b c : MqttIndustrialAdapter} {ids ids' : ClientIds}
    (hab : Stays a b) (hbc : Operated b ids c ids') : Operated a ids c ids' := by
  rcases hbc with ⟨hstays, hids⟩ | ⟨hfaults, hids⟩
  · exact Or.inl ⟨hab.trans hstays, hids⟩
  · exact Or.inr ⟨hab.faults hfaults, hids.trans (hab.releaseClientId_eq ids)⟩

theorem pollLoop_operated (text : TextLib) (paho : Paho) (n timeoutMs : Nat)
    (a : MqttIndustrialAdapter) (ids : ClientIds) :
    Operated a ids (pollLoop text paho n timeoutMs a ids).1
      (pollLoop text paho n timeoutMs a ids).2 := by
  induction n generalizing timeoutMs a with
  | zero => exact Or.inl ⟨⟨rfl, rfl, rfl, rfl, rfl⟩, rfl⟩
  | succ n ih =>
      unfold pollLoop
      split
      · exact operated_enterFault paho _ (stays_withSession a _) ids
      · split
        · exact operated_enterFault paho _ (stays_withSession a _) ids
        · exact Or.inl ⟨stays_withSession a _, rfl⟩
      · rename_i message s _
        have hstays : Stays a ((a.withSession s).applyMessage text message) :=
          ⟨rfl, rfl, rfl, rfl, rfl⟩
        exact operated_of_stays hstays (ih 0 _)

theorem poll_of_connected (text : TextLib) (paho : Paho)
    {a : MqttIndustrialAdapter} (h : a.connectionState = .connected)
    (ids : ClientIds) :
    poll text paho a ids =
      pollLoop text paho kMaxMessagesPerPoll (pollTimeout a.config) a ids :=
  if_neg (not_not.mpr h)

theorem pollLoop_mappings (text : TextLib) (paho : Paho) (n timeoutMs : Nat)
    (a : MqttIndustrialAdapter) (ids : ClientIds) :
    (pollLoop text paho n timeoutMs a ids).1.core.bound.map BoundEquipment.mapping =
      a.core.bound.map BoundEquipment.mapping := by
  induction n generalizing timeoutMs a with
  | zero => rfl
  | succ n ih =>
      unfold pollLoop
      split
      · rfl
      · split <;> rfl
      · rw [ih]
        show List.map _ (a.core.bound.map _) = _
        rw [List.map_map]
        rfl

theorem releaseClientId_local (a : MqttIndustrialAdapter) :
    exists dropped : Finset String, forall ids : ClientIds,
      a.releaseClientId ids = { ids with claimed := ids.claimed \ dropped } := by
  by_cases h : a.activeClientId = ""
  · refine ⟨∅, fun ids => ?_⟩
    rw [releaseClientId, if_pos h, Finset.sdiff_empty]
  · refine ⟨{a.keyOf a.activeClientId}, fun ids => ?_⟩
    rw [releaseClientId, if_neg h, Finset.sdiff_singleton_eq_erase]

theorem pollLoop_local (text : TextLib) (paho : Paho) (n timeoutMs : Nat)
    (a : MqttIndustrialAdapter) :
    exists (b : MqttIndustrialAdapter) (dropped : Finset String),
      forall ids : ClientIds, pollLoop text paho n timeoutMs a ids =
        (b, { ids with claimed := ids.claimed \ dropped }) := by
  have hstays : forall b : MqttIndustrialAdapter,
      exists (c : MqttIndustrialAdapter) (dropped : Finset String),
        forall ids : ClientIds,
          (b, ids) = (c, { ids with claimed := ids.claimed \ dropped }) := by
    intro b
    exact ⟨b, ∅, fun ids => by rw [Finset.sdiff_empty]⟩
  have hfaults : forall (b : MqttIndustrialAdapter) (reason : String),
      exists (c : MqttIndustrialAdapter) (dropped : Finset String),
        forall ids : ClientIds, b.enterFault paho reason ids =
          (c, { ids with claimed := ids.claimed \ dropped }) := by
    intro b reason
    rcases b.releaseClientId_local with ⟨dropped, hdropped⟩
    exact ⟨_, dropped, fun ids => by rw [enterFault, hdropped]⟩
  induction n generalizing timeoutMs a with
  | zero => exact hstays a
  | succ n ih =>
      simp only [pollLoop]
      split
      · exact hfaults _ _
      · split
        · exact hfaults _ _
        · exact hstays _
      · exact ih 0 _

theorem runCommand_operated (text : TextLib) (paho : Paho) (command : String)
    (parameter : Double) (m : MqttEquipmentMapping) (a : MqttIndustrialAdapter)
    (ids : ClientIds) :
    Operated a ids (runCommand text paho command parameter m a ids).2.1
        (runCommand text paho command parameter m a ids).2.2 ∧
      (runCommand text paho command parameter m a ids).2.1.core.bound =
        a.core.bound := by
  have hsame : Operated a ids a ids := Or.inl ⟨⟨rfl, rfl, rfl, rfl, rfl⟩, rfl⟩
  unfold runCommand runMapped
  split
  · exact ⟨hsame, rfl⟩
  · exact ⟨hsame, rfl⟩
  · split
    · exact ⟨hsame, rfl⟩
    · dsimp only
      split
      · exact ⟨hsame, rfl⟩
      · unfold publishCommand
        dsimp only
        rcases hpublish : a.session.publish paho _ _ _ _ with ⟨ok, s⟩
        cases ok with
        | false => exact ⟨operated_enterFault paho _ (stays_withSession a s) ids, rfl⟩
        | true => exact ⟨Or.inl ⟨stays_withSession a s, rfl⟩, rfl⟩

/-- The machines with which a session starts. -/
def boundForSession (a : MqttIndustrialAdapter) :
    List (BoundEquipment MqttEquipmentMapping) :=
  if !a.core.bound.isEmpty ∧ a.connectionState = .faulted then a.core.bound
  else a.config.equipment.map BoundEquipment.bind

theorem bindOrReuse_eq (a : MqttIndustrialAdapter) :
    a.bindOrReuse = { a with core := { a.core with bound := a.boundForSession } } := by
  unfold bindOrReuse boundForSession
  split <;> rfl

/-- How a connect of an adapter that is not connected can end: it is refused before
the claim of its identifier, it fails behind it, or it succeeds. -/
inductive ConnectOutcome (a : MqttIndustrialAdapter) (ids : ClientIds) :
    Bool -> MqttIndustrialAdapter -> ClientIds -> Prop
  | refused {b : MqttIndustrialAdapter} (serial : UInt64) (hfaults : Faults a b)
      (hbound : b.core.bound = a.core.bound) :
      ConnectOutcome a ids false b (a.releaseClientId { ids with serial := serial })
  | failed {b : MqttIndustrialAdapter} (serial : UInt64) (hfaults : Faults a b)
      (hbound : b.core.bound = a.core.bound ∨
        b.core.bound = a.boundForSession)
      (hfree : a.keyOf (a.resolveClientId ids).1 ∉ ids.claimed) :
      ConnectOutcome a ids false b { ids with serial := serial }
  | opened {b : MqttIndustrialAdapter} (serial : UInt64)
      (sameId : b.core.id = a.core.id) (sameConfig : b.config = a.config)
      (connected : b.connectionState = .connected)
      (noError : b.core.link.lastError = "")
      (client : b.activeClientId = (a.resolveClientId ids).1)
      (hbound : b.core.bound = a.boundForSession)
      (hfree : a.keyOf (a.resolveClientId ids).1 ∉ ids.claimed) :
      ConnectOutcome a ids true b
        { claimed := insert (a.keyOf (a.resolveClientId ids).1) ids.claimed
          serial := serial }

theorem resolveClientId_ne_empty (a : MqttIndustrialAdapter) (ids : ClientIds) :
    (a.resolveClientId ids).1 ≠ "" := by
  unfold resolveClientId
  split
  · rename_i hclient
    exact hclient
  · simp only [String.append_assoc]
    exact append_ne_empty (by decide) _

theorem resolveClientId_snd (a : MqttIndustrialAdapter) (ids : ClientIds) :
    exists serial : UInt64, (a.resolveClientId ids).2 = { ids with serial := serial } := by
  unfold resolveClientId
  split
  · exact ⟨ids.serial, rfl⟩
  · exact ⟨ids.serial + 1, rfl⟩

theorem subscribeMappedTopics_cases (paho : Paho) (a : MqttIndustrialAdapter)
    (ids : ClientIds) :
    (exists reason s, a.subscribeMappedTopics paho ids =
        (false, (a.withSession s).enterFault paho reason ids)) ∨
      exists s, a.subscribeMappedTopics paho ids = (true, a.withSession s, ids) := by
  unfold subscribeMappedTopics
  split
  · exact Or.inl ⟨_, a.session, rfl⟩
  · split
    · exact Or.inl ⟨_, _, rfl⟩
    · exact Or.inr ⟨_, rfl⟩

theorem openSession_cases (paho : Paho) (clientId : String)
    (a : MqttIndustrialAdapter) (ids : ClientIds) :
    ((a.openSession paho clientId ids).1 = false ∧
        Faults a (a.openSession paho clientId ids).2.1 ∧
        ((a.openSession paho clientId ids).2.1.core.bound = a.core.bound ∨
          (a.openSession paho clientId ids).2.1.core.bound =
            a.boundForSession) ∧
        (a.openSession paho clientId ids).2.2 = a.releaseClientId ids) ∨
      ((a.openSession paho clientId ids).1 = true ∧
        (a.openSession paho clientId ids).2.1.core.id = a.core.id ∧
        (a.openSession paho clientId ids).2.1.config = a.config ∧
        (a.openSession paho clientId ids).2.1.connectionState = .connected ∧
        (a.openSession paho clientId ids).2.1.core.link.lastError = "" ∧
        (a.openSession paho clientId ids).2.1.activeClientId = a.activeClientId ∧
        (a.openSession paho clientId ids).2.1.core.bound =
          a.boundForSession ∧
        (a.openSession paho clientId ids).2.2 = ids) := by
  unfold openSession
  rcases (a.session.close paho).connect paho (sessionConfig a.config clientId) with
    ⟨ok, s⟩
  cases ok with
  | false => exact Or.inl ⟨rfl, ⟨rfl, rfl, rfl, rfl⟩, Or.inl rfl, rfl⟩
  | true =>
      dsimp only
      rw [bindOrReuse_eq]
      rcases subscribeMappedTopics_cases paho
          { a.withSession s with
            core :=
              { (a.withSession s).core with
                bound := (a.withSession s).boundForSession } } ids with
        ⟨reason, t, hresult⟩ | ⟨t, hresult⟩
      · rw [hresult]
        exact Or.inl ⟨rfl, ⟨rfl, rfl, rfl, rfl⟩, Or.inr rfl, rfl⟩
      · rw [hresult]
        exact Or.inr ⟨rfl, rfl, rfl, rfl, rfl, rfl, rfl, rfl⟩

/-- Giving back the identifier that has just been claimed restores the claims. -/
theorem release_claimed {a : MqttIndustrialAdapter} {clientId : String}
    (hclient : clientId ≠ "") {ids : ClientIds}
    (hfree : a.keyOf clientId ∉ ids.claimed) :
    releaseClientId { a with activeClientId := clientId }
        { ids with claimed := insert (a.keyOf clientId) ids.claimed } = ids := by
  unfold releaseClientId
  rw [if_neg hclient]
  show ClientIds.mk ((insert (a.keyOf clientId) ids.claimed).erase
    (a.keyOf clientId)) ids.serial = ids
  rw [Finset.erase_insert hfree]

theorem connect_outcome (paho : Paho) {a : MqttIndustrialAdapter}
    (h : a.connectionState ≠ .connected) (ids : ClientIds) :
    ConnectOutcome a ids (a.connect paho ids).1 (a.connect paho ids).2.1
      (a.connect paho ids).2.2 := by
  rcases a.resolveClientId_snd ids with ⟨serial, hserial⟩
  have hclient := a.resolveClientId_ne_empty ids
  unfold connect
  rw [if_neg h]
  split
  · exact ConnectOutcome.refused ids.serial (faults_enterFault paho _ a ids) rfl
  · split
    · exact ConnectOutcome.refused ids.serial (faults_enterFault paho _ a ids) rfl
    · simp only [hserial]
      unfold claimClientId
      split
      · rename_i b ids' hclaim
        split at hclaim <;> cases hclaim
        exact ConnectOutcome.refused serial
          (faults_enterFault paho _ a { ids with serial := serial }) rfl
      · rename_i b ids' hclaim
        split at hclaim <;> cases hclaim
        rename_i hfree
        have hrelease :
            releaseClientId
                { a with activeClientId := (a.resolveClientId ids).1 }
                { claimed := insert (a.keyOf (a.resolveClientId ids).1) ids.claimed
                  serial := serial } = { ids with serial := serial } :=
          release_claimed hclient hfree
        rcases openSession_cases paho (a.resolveClientId ids).1
            { a with activeClientId := (a.resolveClientId ids).1 }
            { claimed := insert (a.keyOf (a.resolveClientId ids).1) ids.claimed
              serial := serial } with
          ⟨hok, hfaults, hbound, hids⟩ |
            ⟨hok, hid, hconfig, hstate, herror, hactive, hbound, hids⟩
        · rw [hok, hids, hrelease]
          exact ConnectOutcome.failed serial
            ⟨hfaults.sameId, hfaults.sameConfig, hfaults.faulted, hfaults.noClient⟩
            hbound hfree
        · rw [hok, hids]
          exact ConnectOutcome.opened serial hid hconfig hstate herror hactive hbound
            hfree

theorem connect_id (paho : Paho) (a : MqttIndustrialAdapter) (ids : ClientIds) :
    (a.connect paho ids).2.1.core.id = a.core.id := by
  by_cases h : a.connectionState = .connected
  · unfold connect
    rw [if_pos h]
  · have hout := connect_outcome paho h ids
    generalize a.connect paho ids = r at hout ⊢
    rcases r with ⟨ok, b, ids'⟩
    cases hout with
    | refused serial hfaults => exact hfaults.sameId
    | failed serial hfaults => exact hfaults.sameId
    | opened serial sameId => exact sameId

theorem poll_id (text : TextLib) (paho : Paho) (a : MqttIndustrialAdapter)
    (ids : ClientIds) : (a.poll text paho ids).1.core.id = a.core.id := by
  unfold poll
  split
  · split <;> rfl
  · rcases pollLoop_operated text paho kMaxMessagesPerPoll (pollTimeout a.config) a
        ids with ⟨hstays, _⟩ | ⟨hfaults, _⟩
    · exact hstays.sameId
    · exact hfaults.sameId

theorem execute_some {text : TextLib} {paho : Paho} {a : MqttIndustrialAdapter}
    {equipmentId command : String} {parameter : Double} {ids : ClientIds}
    {result : CommandResult × MqttIndustrialAdapter × ClientIds}
    (h : a.execute text paho equipmentId command parameter ids = some result) :
    exists b : BoundEquipment MqttEquipmentMapping,
      a.core.boundById equipmentId = some b ∧
        runCommand text paho command parameter b.mapping a ids = result :=
  Option.map_eq_some_iff.mp h

end MqttIndustrialAdapter

structure MqttLib where
  text : TextLib
  paho : Paho
  deriving Inhabited

instance : IndustrialAdapter MqttIndustrialAdapter MqttLib PahoCallback where
  adapterId a := a.core.id
  protocol _ := MqttIndustrialAdapter.protocol
  connectionState a := a.connectionState
  lastError a := a.core.link.lastError
  connect lib a ids := a.connect lib.paho ids
  disconnect lib a ids := a.disconnect lib.paho ids
  equipment a := a.core.equipment
  equipmentById a id := a.core.equipmentById id
  poll lib a ids := a.poll lib.text lib.paho ids
  execute lib a equipmentId command parameter ids :=
    a.execute lib.text lib.paho equipmentId command parameter ids
  stimulate c a := a.callback c
  id_connect lib a ids := a.connect_id lib.paho ids
  id_disconnect _ _ _ := rfl
  id_poll lib a ids := a.poll_id lib.text lib.paho ids
  id_execute := by
    intro lib a equipmentId command parameter ids result h
    rcases MqttIndustrialAdapter.execute_some h with ⟨b, _, hrun⟩
    have hoperated :=
      (MqttIndustrialAdapter.runCommand_operated lib.text lib.paho command parameter
        b.mapping a ids).1
    rw [hrun] at hoperated
    rcases hoperated with ⟨hstays, _⟩ | ⟨hfaults, _⟩
    · exact hstays.sameId
    · exact hfaults.sameId
  id_stimulate _ _ := rfl

theorem MqttIndustrialAdapter.exposedIds_eq (a : MqttIndustrialAdapter) :
    IndustrialAdapter.exposedIds a =
      a.core.exposedMappings.map EquipmentMapping.id := by
  unfold IndustrialAdapter.exposedIds ProtocolAdapter.exposedMappings
  rw [IndustrialAdapter.exposed_of_map rfl, List.map_map, List.map_map]
  exact List.map_congr_left (fun b _ => b.identity)

theorem MqttIndustrialAdapter.connectionState_poll (text : TextLib) (paho : Paho)
    {a : MqttIndustrialAdapter} (h : a.connectionState = .connected)
    (ids : ClientIds) :
    (a.poll text paho ids).1.connectionState ≠ .disconnected := by
  rw [poll_of_connected text paho h]
  rcases pollLoop_operated text paho kMaxMessagesPerPoll (pollTimeout a.config) a
      ids with ⟨hstays, _⟩ | ⟨hfaults, _⟩
  · rw [hstays.sameState, h]
    decide
  · rw [hfaults.faulted]
    decide

instance : LawfulPoll MqttIndustrialAdapter where
  poll_exposedIds lib a ids h := by
    have hbefore : a.connectionState = .connected := h
    have hafter := MqttIndustrialAdapter.connectionState_poll lib.text lib.paho
      hbefore ids
    have hmappings : (a.poll lib.text lib.paho ids).1.core.bound.map
        BoundEquipment.mapping = a.core.bound.map BoundEquipment.mapping := by
      rw [MqttIndustrialAdapter.poll_of_connected lib.text lib.paho hbefore]
      exact MqttIndustrialAdapter.pollLoop_mappings lib.text lib.paho _ _ a ids
    refine (MqttIndustrialAdapter.exposedIds_eq (a.poll lib.text lib.paho ids).1).trans
      ?_
    rw [MqttIndustrialAdapter.exposedIds_eq,
      ProtocolAdapter.exposedMappings_of_not_disconnected hafter, hmappings,
      ProtocolAdapter.exposedMappings_of_not_disconnected]
    show a.connectionState ≠ .disconnected
    rw [hbefore]
    decide
  poll_connectionState lib a ids h :=
    MqttIndustrialAdapter.connectionState_poll lib.text lib.paho h ids
  poll_local lib a h := by
    rcases MqttIndustrialAdapter.pollLoop_local lib.text lib.paho
      MqttIndustrialAdapter.kMaxMessagesPerPoll
      (MqttIndustrialAdapter.pollTimeout a.config) a with ⟨b, dropped, hloop⟩
    refine ⟨b, dropped, fun ids => ?_⟩
    rw [← hloop]
    exact MqttIndustrialAdapter.poll_of_connected lib.text lib.paho h ids

end VirtualFactory
