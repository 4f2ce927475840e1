import VirtualFactory.Industrial.ProtocolDriver

/-!
# EtherNet/IP

The tag session over libplctag and the adapter that maps controller tags into
equipment.
-/

namespace VirtualFactory

open Foundation

/-!
# Configuration
-/

inductive EtherNetIpValueType where
  | bool
  | dint
  | real
  deriving DecidableEq

structure EtherNetIpCommandMapping where
  command : String
  tag : String
  valueType : EtherNetIpValueType := .bool

structure EtherNetIpTelemetryMapping where
  name : String
  tag : String
  valueType : EtherNetIpValueType := .dint
  unit : String

structure EtherNetIpSignalMapping where
  tag : String := ""
  valueType : EtherNetIpValueType := .bool
  mapped : Bool := false

structure EtherNetIpEquipmentMapping where
  id : String
  type : String
  capabilities : List String := []
  commands : List EtherNetIpCommandMapping := []
  telemetry : List EtherNetIpTelemetryMapping := []
  state : EtherNetIpSignalMapping := {}
  fault : EtherNetIpSignalMapping := {}

structure EtherNetIpAdapterConfig where
  host : String := "127.0.0.1"
  port : UInt16 := 44818
  path : String := "1,0"
  plcType : String := "ControlLogix"
  timeoutMs : Int := 2000
  pollTimeoutMs : Int := 0
  equipment : List EtherNetIpEquipmentMapping := []

instance : EquipmentMapping EtherNetIpEquipmentMapping where
  id m := m.id
  type m := m.type
  capabilities m := m.capabilities
  commands m := m.commands.map EtherNetIpCommandMapping.command

/-!
# The session
-/

inductive EipTagValueType where
  | bool
  | dint
  | real
  deriving DecidableEq

structure EipSessionConfig where
  host : String := "127.0.0.1"
  port : UInt16 := 44818
  path : String := "1,0"
  plcType : String := "ControlLogix"
  timeoutMs : Int := 2000

/-- The libplctag calls of a session. -/
inductive PlcCall where
  | create (attrib : String) (timeoutMs : Int)
  | status (id : Int)
  | destroy (ids : List Int)
  | read (id : Int) (timeoutMs : Int)
  | getUint8 (id : Int)
  | getInt32 (id : Int)
  | getFloat32 (id : Int)
  | setUint8 (id : Int) (value : UInt8)
  | setInt32 (id : Int) (value : Int32)
  | setFloat32 (id : Int) (value : Single)
  | write (id : Int) (timeoutMs : Int)
  deriving DecidableEq

/-- The answers of libplctag to the last call of a history. -/
structure Libplctag where
  create : List PlcCall -> Int
  status : List PlcCall -> Int
  uint8 : List PlcCall -> UInt8
  int32 : List PlcCall -> Int32
  float32 : List PlcCall -> Single
  decodeError : Int -> String
  deriving Inhabited

def plctagStatusOk : Int := 0

structure TagEntry where
  id : Int := -1
  valueType : EipTagValueType := .dint
  deriving DecidableEq

structure EipSession where
  isOpen : Bool := false
  config : EipSessionConfig := {}
  tags : OrderedMap String TagEntry := OrderedMap.empty
  lastError : String := ""
  calls : List PlcCall := []

namespace EipSession

def call (s : EipSession) (c : PlcCall) : EipSession :=
  { s with calls := c :: s.calls }

def captureError (s : EipSession) (message : String) : EipSession :=
  { s with lastError := message }

def captureStatus (lib : Libplctag) (s : EipSession) (rc : Int) (what : String) :
    EipSession :=
  s.captureError (what ++ ": " ++ lib.decodeError rc)

def atLeastOne (timeoutMs : Int) : Int :=
  if timeoutMs < 1 then 1 else timeoutMs

def timeoutMs (s : EipSession) : Int :=
  atLeastOne s.config.timeoutMs

def setTimeoutMs (s : EipSession) (timeoutMs : Int) : EipSession :=
  { s with config := { s.config with timeoutMs := atLeastOne timeoutMs } }

/-- The handles of the tags, without those that stand for none, are given back in an
order of the table's own. -/
def destroyAllTags (s : EipSession) : EipSession :=
  if s.tags = OrderedMap.empty then s
  else
    { s.call (.destroy ((s.tags.entries.map (fun e => e.2.id)).filter (fun id => 0 ≤ id)))
      with tags := OrderedMap.empty }

def close (s : EipSession) : EipSession :=
  { s.destroyAllTags with isOpen := false }

def openWith (config : EipSessionConfig) (s : EipSession) : Bool × EipSession :=
  let s := s.close
  if config.host = "" ∨ config.port = 0 ∨ config.plcType = "" then
    (false, s.captureError "missing EtherNet/IP host, port, or plc type")
  else (true, { s with config := config, isOpen := true, lastError := "" })

def connected (s : EipSession) : Bool :=
  s.isOpen

def buildAttrib (s : EipSession) (tagName : String) : String :=
  "protocol=ab_eip" ++ "&gateway=" ++ s.config.host ++ ":" ++
    toString s.config.port.toNat ++ "&plc=" ++ s.config.plcType ++
    "&elem_count=1" ++ "&name=" ++ tagName ++
    (if s.config.path ≠ "" then "&path=" ++ s.config.path else "")

def createTag (lib : Libplctag) (key tagName : String)
    (valueType : EipTagValueType) (s : EipSession) : Bool × EipSession :=
  if !s.isOpen then (false, s.captureError "EtherNet/IP session is closed")
  else if key = "" ∨ tagName = "" then
    (false, s.captureError "empty tag key or name")
  else if (s.tags.find? key).isSome then
    (false, s.captureError "duplicate tag key")
  else
    let s := s.call (.create (s.buildAttrib tagName) s.timeoutMs)
    let tagId := lib.create s.calls
    if tagId < 0 then (false, s.captureStatus lib tagId "tag create failed")
    else
      let s := s.call (.status tagId)
      let status := lib.status s.calls
      if status ≠ plctagStatusOk then
        (false,
          (s.captureStatus lib status "tag create status").call (.destroy [tagId]))
      else
        (true,
          { s with
            tags := s.tags.insert key ⟨tagId, valueType⟩
            lastError := "" })

def findTag (s : EipSession) (key : String) : Option TagEntry × EipSession :=
  match s.tags.find? key with
  | none => (none, s.captureError "unknown or destroyed tag")
  | some entry =>
      if entry.id < 0 then (none, s.captureError "unknown or destroyed tag")
      else (some entry, s)

/-- Every read fetches the tag and then decodes it by the type it was created
with. -/
def readTag {value : Type} (lib : Libplctag) (ofUint8 : UInt8 -> value)
    (ofInt32 : Int32 -> value) (ofFloat32 : Single -> value) (key : String)
    (s : EipSession) : Option value × EipSession :=
  match s.findTag key with
  | (none, s) => (none, s)
  | (some entry, s) =>
      let s := s.call (.read entry.id s.timeoutMs)
      let rc := lib.status s.calls
      if rc ≠ plctagStatusOk then (none, s.captureStatus lib rc "tag read failed")
      else
        let s := { s with lastError := "" }
        match entry.valueType with
        | .bool =>
            let s := s.call (.getUint8 entry.id)
            (some (ofUint8 (lib.uint8 s.calls)), s)
        | .dint =>
            let s := s.call (.getInt32 entry.id)
            (some (ofInt32 (lib.int32 s.calls)), s)
        | .real =>
            let s := s.call (.getFloat32 entry.id)
            (some (ofFloat32 (lib.float32 s.calls)), s)

def readBool (lib : Libplctag) :=
  readTag lib (fun bit => bit != 0) (fun dint => dint != 0)
    (fun real => !real.isZero)

def readDint (lib : Libplctag) :=
  readTag lib (fun bit => if bit != 0 then (1 : Int32) else 0) (fun dint => dint)
    (fun real => Int32.ofInt real.toInt32)

def readReal (lib : Libplctag) :=
  readTag lib (fun bit => if bit != 0 then Single.ofInt 1 else Single.ofInt 0)
    (fun dint => Single.ofInt dint.toInt) (fun real => real)

/-- Every write encodes the value by the type of the tag and then sends it. -/
def writeTag (lib : Libplctag) (asUint8 : UInt8) (asInt32 : Int32)
    (asFloat32 : Single) (key : String) (s : EipSession) : Bool × EipSession :=
  match s.findTag key with
  | (none, s) => (false, s)
  | (some entry, s) =>
      let s :=
        match entry.valueType with
        | .bool => s.call (.setUint8 entry.id asUint8)
        | .dint => s.call (.setInt32 entry.id asInt32)
        | .real => s.call (.setFloat32 entry.id asFloat32)
      let setRc := lib.status s.calls
      if setRc ≠ plctagStatusOk then
        (false, s.captureStatus lib setRc "tag set failed")
      else
        let s := s.call (.write entry.id s.timeoutMs)
        let rc := lib.status s.calls
        if rc ≠ plctagStatusOk then
          (false, s.captureStatus lib rc "tag write failed")
        else (true, { s with lastError := "" })

def writeBool (lib : Libplctag) (key : String) (value : Bool) :=
  writeTag lib (if value then 1 else 0) (if value then 1 else 0)
    (Single.ofInt (if value then 1 else 0)) key

def writeDint (lib : Libplctag) (key : String) (value : Int32) :=
  writeTag lib (if value != 0 then 1 else 0) value (Single.ofInt value.toInt) key

def writeReal (lib : Libplctag) (key : String) (value : Single) :=
  writeTag lib (if !value.isZero then 1 else 0) (Int32.ofInt value.toInt32) value
    key

end EipSession

/-!
# The adapter
-/

abbrev EtherNetIpLink := Link EipSession

abbrev EtherNetIpIndustrialAdapter :=
  ProtocolAdapter EtherNetIpAdapterConfig EtherNetIpEquipmentMapping EipSession

namespace EtherNetIpIndustrialAdapter

def new (id : String) (config : EtherNetIpAdapterConfig) :
    EtherNetIpIndustrialAdapter :=
  ProtocolAdapter.create id config {}

def protocol : String := "ethernetip"

def toSessionType : EtherNetIpValueType -> EipTagValueType
  | .bool => .bool
  | .real => .real
  | .dint => .dint

def tagKey (equipmentId role : String) (index : Nat) : String :=
  equipmentId ++ "|" ++ role ++ "|" ++ toString index

def operationTimeoutMs (config : EtherNetIpAdapterConfig) : Int :=
  if 0 < config.pollTimeoutMs then config.pollTimeoutMs
  else EipSession.atLeastOne config.timeoutMs

/-- A tag that a mapping needs: its key, its name and its type. -/
abbrev TagRequest := String × String × EtherNetIpValueType

/-- The tags of one machine, in the order in which they are created. -/
def mappedTags (m : EtherNetIpEquipmentMapping) : List TagRequest :=
  m.telemetry.zipIdx.map
      (fun p => (tagKey m.id "tel" p.2, p.1.tag, p.1.valueType)) ++
    (m.commands.zipIdx.map
        (fun p => (tagKey m.id "cmd" p.2, p.1.tag, p.1.valueType)) ++
      ((if m.state.mapped then
          [(tagKey m.id "state" 0, m.state.tag, m.state.valueType)] else []) ++
        (if m.fault.mapped then
          [(tagKey m.id "fault" 0, m.fault.tag, m.fault.valueType)] else [])))

def createTagOf (lib : Libplctag) (request : TagRequest) :
    EipSession -> Bool × EipSession :=
  EipSession.createTag lib request.1 request.2.1 (toSessionType request.2.2)

def createMappedTags (lib : Libplctag) (config : EtherNetIpAdapterConfig)
    (s : EipSession) : Bool × EipSession :=
  untilFailure (createTagOf lib) (config.equipment.flatMap mappedTags)
    (s.setTimeoutMs (EipSession.atLeastOne config.timeoutMs))

def readDouble (lib : Libplctag) (key : String) (valueType : EtherNetIpValueType) :
    EtherNetIpLink -> Option Double × EtherNetIpLink :=
  Link.onSession fun s =>
    if !s.connected then (none, s)
    else
      match valueType with
      | .bool =>
          let r := EipSession.readBool lib key s
          (r.1.map Double.ofBool, r.2)
      | .real =>
          let r := EipSession.readReal lib key s
          (r.1.map Double.ofSingle, r.2)
      | .dint =>
          let r := EipSession.readDint lib key s
          (r.1.map (fun dint => Double.ofInt dint.toInt), r.2)

def readBoolean (lib : Libplctag) (key : String) (valueType : EtherNetIpValueType) :
    EtherNetIpLink -> Option Bool × EtherNetIpLink :=
  Link.onSession fun s =>
    if !s.connected then (none, s)
    else
      match valueType with
      | .bool => EipSession.readBool lib key s
      | .real =>
          let r := EipSession.readReal lib key s
          (r.1.map (fun real => !real.isZero), r.2)
      | .dint =>
          let r := EipSession.readDint lib key s
          (r.1.map (fun dint => dint != 0), r.2)

/-- A write through the session; the link is faulted when it fails. -/
def writeThrough (timeoutMs : Int) (write : EipSession -> Bool × EipSession)
    (link : EtherNetIpLink) : Bool × EtherNetIpLink :=
  if !link.session.connected then
    (false, link.enterFault "EtherNet/IP write failed: session closed")
  else
    let r := write (link.session.setTimeoutMs timeoutMs)
    let link := { link with session := r.2 }
    if r.1 then (true, link)
    else
      (false, link.enterFault ("EtherNet/IP write failed: " ++ r.2.lastError))

def writeDouble (lib : Libplctag) (timeoutMs : Int) (key : String)
    (valueType : EtherNetIpValueType) (value : Double) :
    EtherNetIpLink -> Bool × EtherNetIpLink :=
  writeThrough timeoutMs
    (match valueType with
    | .bool => EipSession.writeBool lib key (!value.isZero)
    | .real => EipSession.writeReal lib key (Single.ofDouble value)
    | .dint => EipSession.writeDint lib key (Int32.ofInt value.lround))

def writeBoolean (lib : Libplctag) (timeoutMs : Int) (key : String)
    (valueType : EtherNetIpValueType) (value : Bool) :
    EtherNetIpLink -> Bool × EtherNetIpLink :=
  writeThrough timeoutMs
    (match valueType with
    | .bool => EipSession.writeBool lib key value
    | .real =>
        EipSession.writeReal lib key (Single.ofInt (if value then 1 else 0))
    | .dint => EipSession.writeDint lib key (if value then 1 else 0))

/-- The reads of `BoundEquipment::refreshFromDevice`, in order. -/
def refreshSteps (lib : Libplctag) (m : EtherNetIpEquipmentMapping) :
    List (ReadStep EtherNetIpLink) :=
  ReadStep.signalSteps
    (m.telemetry.zipIdx.map
      (fun p =>
        ⟨p.1.name, p.1.unit,
          readDouble lib (tagKey m.id "tel" p.2) p.1.valueType⟩))
    (if m.state.mapped then
      some (readBoolean lib (tagKey m.id "state" 0) m.state.valueType) else none)
    (if m.fault.mapped then
      some (readBoolean lib (tagKey m.id "fault" 0) m.fault.valueType) else none)

/-- `BoundEquipment::execute`. -/
def runCommand (lib : Libplctag) (timeoutMs : Int) (command : String)
    (parameter : Double) (m : EtherNetIpEquipmentMapping) (link : EtherNetIpLink) :
    CommandResult × EtherNetIpLink :=
  link.execute
    (m.commands.zipIdx.find? (fun entry => entry.1.command = command))
    fun mapped link =>
      let key := tagKey m.id "cmd" mapped.2
      let valueType := mapped.1.valueType
      Link.written "ethernetip write failed"
        (if isSetCommand command then
          writeDouble lib timeoutMs key valueType parameter link
        else if valueType = .bool then
          writeBoolean lib timeoutMs key valueType true link
        else writeDouble lib timeoutMs key valueType Double.one link)

def sessionConfig (config : EtherNetIpAdapterConfig) : EipSessionConfig where
  host := config.host
  port := config.port
  path := config.path
  plcType := config.plcType
  timeoutMs := EipSession.atLeastOne config.timeoutMs

def connect (lib : Libplctag) (a : EtherNetIpIndustrialAdapter) :
    Bool × EtherNetIpIndustrialAdapter :=
  if a.link.connectionState = .connected then (true, a)
  else if a.config.host = "" ∨ a.config.port = 0 then
    (false, a.enterFault "missing EtherNet/IP host or port")
  else if a.config.plcType = "" then
    (false, a.enterFault "missing EtherNet/IP plc type")
  else
    match a.link.session.close.openWith (sessionConfig a.config) with
    | (false, s) =>
        (false,
          (a.withSession s).enterFault
            ("EtherNet/IP session open failed: " ++ s.lastError))
    | (true, s) =>
        match createMappedTags lib a.config s with
        | (false, s) =>
            (false,
              (a.withSession s.close).enterFault
                ("EtherNet/IP tag create failed: " ++ s.close.lastError))
        | (true, s) =>
            (true,
              ((a.withSession s).bindEquipment a.config.equipment).enterConnected)

def disconnect (a : EtherNetIpIndustrialAdapter) : EtherNetIpIndustrialAdapter :=
  a.disconnectWith EipSession.close

def readFailed (link : EtherNetIpLink) : EtherNetIpLink :=
  link.enterFault ("EtherNet/IP read failed during poll: " ++ link.session.lastError)

def poll (lib : Libplctag) (a : EtherNetIpIndustrialAdapter) :
    EtherNetIpIndustrialAdapter :=
  a.pollWith (fun s => s.setTimeoutMs (operationTimeoutMs a.config))
    (fun m => ReadPlan.fixed (refreshSteps lib m)) readFailed

def execute (lib : Libplctag) (a : EtherNetIpIndustrialAdapter)
    (equipmentId command : String) (parameter : Double) :
    Option (CommandResult × EtherNetIpIndustrialAdapter) :=
  a.executeWith
    (runCommand lib (operationTimeoutMs a.config) command parameter) equipmentId

/-!
# The promises of the driver
-/

def IsOpen (s : EipSession) : Prop :=
  s.isOpen = true

/-- What a session keeps while it is only used. -/
structure SameTags (s s' : EipSession) : Prop where
  isOpen : s'.isOpen = s.isOpen
  tags : s'.tags = s.tags

/-- A property of a session that its use does not break. -/
def Lasting (kept : EipSession -> Prop) : Prop :=
  forall s s', SameTags s s' -> kept s -> kept s'

theorem lasting_isOpen : Lasting IsOpen :=
  fun _ _ hsame hopen => hsame.isOpen.trans hopen

theorem findTag_same (s : EipSession) (key : String) :
    SameTags s (s.findTag key).2 := by
  unfold EipSession.findTag
  split
  · exact ⟨rfl, rfl⟩
  · split <;> exact ⟨rfl, rfl⟩

theorem readTag_same {value : Type} (lib : Libplctag) (ofUint8 : UInt8 -> value)
    (ofInt32 : Int32 -> value) (ofFloat32 : Single -> value) (key : String)
    (s : EipSession) :
    SameTags s (s.readTag lib ofUint8 ofInt32 ofFloat32 key).2 := by
  have hfind := findTag_same s key
  unfold EipSession.readTag
  split
  · rename_i s' hs'
    rw [hs'] at hfind
    exact hfind
  · rename_i entry s' hs'
    rw [hs'] at hfind
    dsimp only
    split
    · exact ⟨hfind.isOpen, hfind.tags⟩
    · cases entry.valueType <;> exact ⟨hfind.isOpen, hfind.tags⟩

theorem writeTag_same (lib : Libplctag) (asUint8 : UInt8) (asInt32 : Int32)
    (asFloat32 : Single) (key : String) (s : EipSession) :
    SameTags s (s.writeTag lib asUint8 asInt32 asFloat32 key).2 := by
  have hfind := findTag_same s key
  unfold EipSession.writeTag
  split
  · rename_i s' hs'
    rw [hs'] at hfind
    exact hfind
  · rename_i entry s' hs'
    rw [hs'] at hfind
    cases entry.valueType <;> dsimp only <;> split
    · exact ⟨hfind.isOpen, hfind.tags⟩
    · split <;> exact ⟨hfind.isOpen, hfind.tags⟩
    · exact ⟨hfind.isOpen, hfind.tags⟩
    · split <;> exact ⟨hfind.isOpen, hfind.tags⟩
    · exact ⟨hfind.isOpen, hfind.tags⟩
    · split <;> exact ⟨hfind.isOpen, hfind.tags⟩

theorem createTag_isOpen (lib : Libplctag) (key tagName : String)
    (valueType : EipTagValueType) (s : EipSession) :
    (s.createTag lib key tagName valueType).2.isOpen = s.isOpen := by
  unfold EipSession.createTag
  split
  · rfl
  · split
    · rfl
    · split
      · rfl
      · dsimp only
        split
        · rfl
        · split <;> rfl

theorem createMappedTags_isOpen (lib : Libplctag) (config : EtherNetIpAdapterConfig)
    (s : EipSession) : (createMappedTags lib config s).2.isOpen = s.isOpen :=
  view_untilFailure EipSession.isOpen (fun _ s => createTag_isOpen lib _ _ _ s)
    (config.equipment.flatMap mappedTags)
    (s.setTimeoutMs (EipSession.atLeastOne config.timeoutMs))

section

variable {kept : EipSession -> Prop} (hkept : Lasting kept)
include hkept

theorem readDouble_keeps (lib : Libplctag) (key : String)
    (valueType : EtherNetIpValueType) (before : EtherNetIpLink) :
    ReadStep.ReadKeeps (before.Moves kept) (before.Ends kept)
      (readDouble lib key valueType) := by
  apply before.readKeeps_onSession
  intro s hs
  dsimp only
  split
  · exact hs
  · cases valueType <;> exact hkept _ _ (readTag_same lib _ _ _ key s) hs

theorem readBoolean_keeps (lib : Libplctag) (key : String)
    (valueType : EtherNetIpValueType) (before : EtherNetIpLink) :
    ReadStep.ReadKeeps (before.Moves kept) (before.Ends kept)
      (readBoolean lib key valueType) := by
  apply before.readKeeps_onSession
  intro s hs
  dsimp only
  split
  · exact hs
  · cases valueType <;> exact hkept _ _ (readTag_same lib _ _ _ key s) hs

theorem refreshSteps_keep (lib : Libplctag) (m : EtherNetIpEquipmentMapping)
    (before : EtherNetIpLink) :
    forall step, step ∈ refreshSteps lib m ->
      step.Keeps (before.Moves kept) (before.Ends kept) := by
  apply ReadStep.signalSteps_keep
  · intro p hp
    rcases List.mem_map.mp hp with ⟨point, _, rfl⟩
    exact readDouble_keeps hkept lib _ point.1.valueType before
  · intro read hread
    split at hread <;> cases hread
    exact readBoolean_keeps hkept lib _ m.state.valueType before
  · intro read hread
    split at hread <;> cases hread
    exact readBoolean_keeps hkept lib _ m.fault.valueType before

theorem writeThrough_ends (timeoutMs : Int)
    {write : EipSession -> Bool × EipSession}
    (hwrite : forall s, SameTags s (write s).2) (link : EtherNetIpLink) :
    link.Ends kept (writeThrough timeoutMs write link).2 := by
  have hsame := hwrite (link.session.setTimeoutMs timeoutMs)
  unfold writeThrough
  split
  · exact Or.inr (link.down_enterFault (by decide))
  · dsimp only
    split
    · exact Or.inl
        ⟨rfl, rfl, fun h => hkept link.session _ ⟨hsame.isOpen, hsame.tags⟩ h⟩
    · exact Or.inr (Link.down_enterFault _ (append_ne_empty (by decide) _))

theorem writeDouble_ends (lib : Libplctag) (timeoutMs : Int) (key : String)
    (valueType : EtherNetIpValueType) (value : Double) (link : EtherNetIpLink) :
    link.Ends kept (writeDouble lib timeoutMs key valueType value link).2 := by
  apply writeThrough_ends hkept
  intro s
  cases valueType <;> exact writeTag_same lib _ _ _ key s

theorem writeBoolean_ends (lib : Libplctag) (timeoutMs : Int) (key : String)
    (valueType : EtherNetIpValueType) (value : Bool) (link : EtherNetIpLink) :
    link.Ends kept (writeBoolean lib timeoutMs key valueType value link).2 := by
  apply writeThrough_ends hkept
  intro s
  cases valueType <;> exact writeTag_same lib _ _ _ key s

theorem runCommand_ends (lib : Libplctag) (timeoutMs : Int) (command : String)
    (parameter : Double) (m : EtherNetIpEquipmentMapping) (link : EtherNetIpLink) :
    link.Ends kept (runCommand lib timeoutMs command parameter m link).2 := by
  apply Link.execute_ends
  intro mapped
  dsimp only
  rw [Link.written_snd]
  split
  · exact writeDouble_ends hkept lib timeoutMs _ _ parameter link
  · split
    · exact writeBoolean_ends hkept lib timeoutMs _ _ true link
    · exact writeDouble_ends hkept lib timeoutMs _ _ Double.one link

end

/-!
# Outcomes of a connect
-/

inductive ConnectOutcome (lib : Libplctag) (a : EtherNetIpIndustrialAdapter) :
    Bool × EtherNetIpIndustrialAdapter -> Prop
  | unchanged (hstate : a.link.connectionState = .connected) : ConnectOutcome lib a (true, a)
  | refused (reason : String) (hreason : reason ≠ "") :
      ConnectOutcome lib a (false, a.enterFault reason)
  | closed {s : EipSession} (reason : String) (hreason : reason ≠ "")
      (hopen : a.link.session.close.openWith (sessionConfig a.config) = (false, s)) :
      ConnectOutcome lib a (false, (a.withSession s).enterFault reason)
  | incomplete {s t : EipSession} (reason : String) (hreason : reason ≠ "")
      (hopen : a.link.session.close.openWith (sessionConfig a.config) = (true, s))
      (htags : createMappedTags lib a.config s = (false, t)) :
      ConnectOutcome lib a (false, (a.withSession t.close).enterFault reason)
  | opened {s t : EipSession}
      (hopen : a.link.session.close.openWith (sessionConfig a.config) = (true, s))
      (htags : createMappedTags lib a.config s = (true, t)) :
      ConnectOutcome lib a
        (true, ((a.withSession t).bindEquipment a.config.equipment).enterConnected)

theorem connect_outcome (lib : Libplctag) (a : EtherNetIpIndustrialAdapter) :
    ConnectOutcome lib a (connect lib a) := by
  unfold connect
  split
  · rename_i hstate
    exact .unchanged hstate
  · split
    · exact .refused _ (by decide)
    · split
      · exact .refused _ (by decide)
      · split
        · rename_i s hopen
          exact .closed _ (append_ne_empty (by decide) _) hopen
        · rename_i s hopen
          split
          · rename_i t htags
            exact .incomplete _ (append_ne_empty (by decide) _) hopen htags
          · rename_i t htags
            exact .opened hopen htags

theorem tags_close (s : EipSession) : s.close.tags = OrderedMap.empty := by
  unfold EipSession.close EipSession.destroyAllTags
  split
  · assumption
  · rfl

theorem openWith_opens {config : EipSessionConfig} {s t : EipSession}
    (h : s.openWith config = (true, t)) : t.isOpen = true ∧ t.tags = OrderedMap.empty := by
  unfold EipSession.openWith at h
  split at h
  · cases h
  · cases h
    exact ⟨rfl, tags_close s⟩

theorem connect_cases (lib : Libplctag) (a : EtherNetIpIndustrialAdapter)
    (h : a.link.connectionState ≠ .connected) :
    ((connect lib a).1 = true ∧
        ProtocolAdapter.Opened EtherNetIpAdapterConfig.equipment IsOpen a
          (connect lib a).2) ∨
      ((connect lib a).1 = false ∧
        ProtocolAdapter.Refused a (connect lib a).2) := by
  have hout := connect_outcome lib a
  generalize connect lib a = r at hout ⊢
  cases hout with
  | unchanged hstate => exact absurd hstate h
  | refused reason hreason =>
      exact Or.inr ⟨rfl, ProtocolAdapter.refused_enterFault a a.link.session hreason⟩
  | closed reason hreason hopen =>
      exact Or.inr ⟨rfl, ProtocolAdapter.refused_enterFault a _ hreason⟩
  | incomplete reason hreason hopen htags =>
      exact Or.inr ⟨rfl, ProtocolAdapter.refused_enterFault a _ hreason⟩
  | @opened s t hopen htags =>
      have hisOpen := createMappedTags_isOpen lib a.config s
      rw [htags, (openWith_opens hopen).left] at hisOpen
      exact Or.inl ⟨rfl, ProtocolAdapter.opened_enterConnected _ a hisOpen⟩

end EtherNetIpIndustrialAdapter

instance : ProtocolDriver EtherNetIpAdapterConfig EtherNetIpEquipmentMapping
    EipSession Libplctag where
  protocol := EtherNetIpIndustrialAdapter.protocol
  equipment := EtherNetIpAdapterConfig.equipment
  isOpen := EtherNetIpIndustrialAdapter.IsOpen
  connect := EtherNetIpIndustrialAdapter.connect
  disconnect := EtherNetIpIndustrialAdapter.disconnect
  poll := EtherNetIpIndustrialAdapter.poll
  execute := EtherNetIpIndustrialAdapter.execute
  close := EipSession.close
  prepare config s :=
    s.setTimeoutMs (EtherNetIpIndustrialAdapter.operationTimeoutMs config)
  plan lib m := ReadPlan.fixed (EtherNetIpIndustrialAdapter.refreshSteps lib m)
  fail := EtherNetIpIndustrialAdapter.readFailed
  run lib config :=
    EtherNetIpIndustrialAdapter.runCommand lib
      (EtherNetIpIndustrialAdapter.operationTimeoutMs config)
  disconnect_eq _ := rfl
  poll_eq _ _ := rfl
  execute_eq _ _ _ _ _ := rfl
  connect_of_connected _ _ h := if_pos h
  connect_cases := EtherNetIpIndustrialAdapter.connect_cases
  prepare_isOpen _ _ hs := hs
  plan_keeps lib m before :=
    ReadPlan.keeps_fixed
      (EtherNetIpIndustrialAdapter.refreshSteps_keep
        EtherNetIpIndustrialAdapter.lasting_isOpen lib m before)
  fail_cases link :=
    Or.inl (link.down_enterFault (append_ne_empty (by decide) _))
  run_of_not_connected _ _ _ _ _ _ h := runMapped_of_not_connected h _ _ _
  run_ends lib _ :=
    EtherNetIpIndustrialAdapter.runCommand_ends
      EtherNetIpIndustrialAdapter.lasting_isOpen lib _

end VirtualFactory
