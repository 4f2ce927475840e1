import VirtualFactory.Industrial.ProtocolDriver

/-!
# Modbus TCP

The session over libmodbus and the adapter that maps coils and registers into
equipment.  The library is a parameter: it answers every call as it likes, knowing
the calls made so far.
-/

namespace VirtualFactory

open Foundation

/-!
# Configuration
-/

inductive ModbusTable where
  | coil
  | discreteInput
  | holdingRegister
  | inputRegister
  deriving DecidableEq

structure ModbusRef where
  unitId : UInt8 := 1
  table : ModbusTable := .holdingRegister
  address : UInt16 := 0
  mapped : Bool := false

def makeModbusRef (unitId : UInt8) (table : ModbusTable) (address : UInt16) :
    ModbusRef where
  unitId := unitId
  table := table
  address := address
  mapped := true

structure ModbusCommandMapping where
  command : String
  target : ModbusRef

structure ModbusTelemetryMapping where
  name : String
  source : ModbusRef
  unit : String

structure ModbusEquipmentMapping where
  id : String
  type : String
  capabilities : List String := []
  commands : List ModbusCommandMapping := []
  telemetry : List ModbusTelemetryMapping := []
  stateCoil : ModbusRef := {}
  faultCoil : ModbusRef := {}

structure ModbusAdapterConfig where
  host : String := "127.0.0.1"
  port : UInt16 := 502
  timeoutMs : Int := 2000
  equipment : List ModbusEquipmentMapping := []

instance : EquipmentMapping ModbusEquipmentMapping where
  id m := m.id
  type m := m.type
  capabilities m := m.capabilities
  commands m := m.commands.map ModbusCommandMapping.command

/-!
# The session
-/

/-- The libmodbus calls of a session. -/
inductive ModbusCall where
  | newTcp (host : String) (port : Nat)
  | setTimeouts (seconds microseconds : Nat)
  | setErrorRecoveryNone
  | connect
  | closeAndFree
  | setSlave (unitId : UInt8)
  | readBits (address : UInt16)
  | readInputBits (address : UInt16)
  | readRegisters (address : UInt16)
  | readInputRegisters (address : UInt16)
  | writeBit (address : UInt16) (value : Bool)
  | writeRegister (address : UInt16) (value : UInt16)
  deriving DecidableEq

/-- The answers of libmodbus to the last call of a history.  A failed call leaves
the text of its `errno`. -/
structure Libmodbus where
  newTcp : List ModbusCall -> Bool
  done : List ModbusCall -> Except String Unit
  bit : List ModbusCall -> Except String UInt8
  word : List ModbusCall -> Except String UInt16
  deriving Inhabited

structure ModbusTcpSession where
  ctx : Bool := false
  lastError : String := ""
  calls : List ModbusCall := []

namespace ModbusTcpSession

def call (s : ModbusTcpSession) (c : ModbusCall) : ModbusTcpSession :=
  { s with calls := c :: s.calls }

def connected (s : ModbusTcpSession) : Bool :=
  s.ctx

def captureError (s : ModbusTcpSession) (what text : String) : ModbusTcpSession :=
  { s with lastError := what ++ ": " ++ text }

def close (s : ModbusTcpSession) : ModbusTcpSession :=
  if s.ctx then { s.call .closeAndFree with ctx := false } else s

def applyTimeout (s : ModbusTcpSession) (timeoutMs : Int) : ModbusTcpSession :=
  let clamped := (if timeoutMs < 1 then 1 else timeoutMs).toNat
  s.call (.setTimeouts (clamped / 1000) (clamped % 1000 * 1000))

def connect (lib : Libmodbus) (host : String) (port : UInt16) (timeoutMs : Int)
    (s : ModbusTcpSession) : Bool × ModbusTcpSession :=
  let s := s.close.call (.newTcp host port.toNat)
  if !lib.newTcp s.calls then
    (false, { s with lastError := "failed to create libmodbus TCP context" })
  else
    let s := ((s.applyTimeout timeoutMs).call .setErrorRecoveryNone).call .connect
    match lib.done s.calls with
    | .error text =>
        (false,
          ({ s with ctx := true }.captureError "Modbus TCP connect failed" text).close)
    | .ok _ => (true, { s with ctx := true, lastError := "" })

def prepare (lib : Libmodbus) (unitId : UInt8) (s : ModbusTcpSession) :
    Bool × ModbusTcpSession :=
  if !s.ctx then (false, { s with lastError := "Modbus TCP session is closed" })
  else
    let s := s.call (.setSlave unitId)
    match lib.done s.calls with
    | .error text => (false, s.captureError "failed to set Modbus unit id" text)
    | .ok _ => (true, s)

/-- Every read and write selects the unit and then makes one call. -/
def transact {answer : Type} (lib : Libmodbus) (unitId : UInt8) (c : ModbusCall)
    (what : String) (reply : List ModbusCall -> Except String answer)
    (s : ModbusTcpSession) : Option answer × ModbusTcpSession :=
  match s.prepare lib unitId with
  | (false, s) => (none, s)
  | (true, s) =>
      let s := s.call c
      match reply s.calls with
      | .error text => (none, s.captureError what text)
      | .ok value => (some value, { s with lastError := "" })

def readCoils (lib : Libmodbus) (unitId : UInt8) (address : UInt16) :=
  transact lib unitId (.readBits address) "coil read failed" lib.bit

def readDiscreteInputs (lib : Libmodbus) (unitId : UInt8) (address : UInt16) :=
  transact lib unitId (.readInputBits address) "discrete-input read failed" lib.bit

def readHoldingRegisters (lib : Libmodbus) (unitId : UInt8) (address : UInt16) :=
  transact lib unitId (.readRegisters address) "holding-register read failed"
    lib.word

def readInputRegisters (lib : Libmodbus) (unitId : UInt8) (address : UInt16) :=
  transact lib unitId (.readInputRegisters address) "input-register read failed"
    lib.word

def writeCoil (lib : Libmodbus) (unitId : UInt8) (address : UInt16)
    (value : Bool) :=
  transact lib unitId (.writeBit address value) "coil write failed" lib.done

def writeHoldingRegister (lib : Libmodbus) (unitId : UInt8) (address : UInt16)
    (value : UInt16) :=
  transact lib unitId (.writeRegister address value) "holding-register write failed"
    lib.done

end ModbusTcpSession

/-!
# The adapter
-/

abbrev ModbusLink := Link ModbusTcpSession

abbrev ModbusIndustrialAdapter :=
  ProtocolAdapter ModbusAdapterConfig ModbusEquipmentMapping ModbusTcpSession

namespace ModbusIndustrialAdapter

def new (id : String) (config : ModbusAdapterConfig) : ModbusIndustrialAdapter :=
  ProtocolAdapter.create id config {}

def protocol : String := "modbus"

def readPoint {value : Type} (lib : Libmodbus) (ofBit : Bool -> value)
    (ofWord : UInt16 -> value) (ref : ModbusRef) (s : ModbusTcpSession) :
    Option value × ModbusTcpSession :=
  if !ref.mapped || !s.connected then (none, s)
  else
    match ref.table with
    | .coil =>
        let r := ModbusTcpSession.readCoils lib ref.unitId ref.address s
        (r.1.map (fun bit => ofBit (bit != 0)), r.2)
    | .discreteInput =>
        let r := ModbusTcpSession.readDiscreteInputs lib ref.unitId ref.address s
        (r.1.map (fun bit => ofBit (bit != 0)), r.2)
    | .holdingRegister =>
        let r := ModbusTcpSession.readHoldingRegisters lib ref.unitId ref.address s
        (r.1.map ofWord, r.2)
    | .inputRegister =>
        let r := ModbusTcpSession.readInputRegisters lib ref.unitId ref.address s
        (r.1.map ofWord, r.2)

def readBoolean (lib : Libmodbus) (ref : ModbusRef) :
    ModbusLink -> Option Bool × ModbusLink :=
  Link.onSession (readPoint lib (fun bit => bit) (fun word => word != 0) ref)

def readDouble (lib : Libmodbus) (ref : ModbusRef) :
    ModbusLink -> Option Double × ModbusLink :=
  Link.onSession
    (readPoint lib Double.ofBool (fun word => Double.ofInt word.toNat) ref)

/-- A write that the library rejects, or that has no valid target, faults the
link. -/
def writePoint (writeBit : ModbusTcpSession -> Option Unit × ModbusTcpSession)
    (writeWord : ModbusTcpSession -> Option Unit × ModbusTcpSession)
    (ref : ModbusRef) (link : ModbusLink) : Bool × ModbusLink :=
  if !ref.mapped || !link.session.connected then
    (false, link.enterFault "Modbus write failed: invalid mapping or client")
  else
    let finish := fun r : Option Unit × ModbusLink =>
      match r.1 with
      | none =>
          (false,
            r.2.enterFault ("Modbus write failed: " ++ r.2.session.lastError))
      | some _ => (true, r.2)
    match ref.table with
    | .coil => finish (link.onSession writeBit)
    | .holdingRegister => finish (link.onSession writeWord)
    | .discreteInput =>
        (false, link.enterFault "Modbus write failed: read-only table")
    | .inputRegister =>
        (false, link.enterFault "Modbus write failed: read-only table")

def writeBoolean (lib : Libmodbus) (ref : ModbusRef) (value : Bool) :
    ModbusLink -> Bool × ModbusLink :=
  writePoint (ModbusTcpSession.writeCoil lib ref.unitId ref.address value)
    (ModbusTcpSession.writeHoldingRegister lib ref.unitId ref.address
      (if value then 1 else 0))
    ref

/-- The register value of a setpoint: clipped to the register range and rounded. -/
def registerValue (value : Double) : UInt16 :=
  let clipped :=
    Double.stdMax Double.zero (Double.stdMin (Double.ofInt 65535) value)
  UInt16.ofInt clipped.lround

def writeDouble (lib : Libmodbus) (ref : ModbusRef) (value : Double) :
    ModbusLink -> Bool × ModbusLink :=
  writePoint
    (ModbusTcpSession.writeCoil lib ref.unitId ref.address (!value.isZero))
    (ModbusTcpSession.writeHoldingRegister lib ref.unitId ref.address
      (registerValue value))
    ref

/-- The reads of `BoundEquipment::refreshFromServer`, in order. -/
def refreshSteps (lib : Libmodbus) (m : ModbusEquipmentMapping) :
    List (ReadStep ModbusLink) :=
  ReadStep.signalSteps
    (m.telemetry.map
      (fun point => ⟨point.name, point.unit, readDouble lib point.source⟩))
    (if m.stateCoil.mapped then some (readBoolean lib m.stateCoil) else none)
    (if m.faultCoil.mapped then some (readBoolean lib m.faultCoil) else none)

/-- `BoundEquipment::execute`. -/
def runCommand (lib : Libmodbus) (command : String) (parameter : Double)
    (m : ModbusEquipmentMapping) (link : ModbusLink) :
    CommandResult × ModbusLink :=
  link.execute (m.commands.find? (fun entry => entry.command = command))
    fun mapped link =>
      Link.written "modbus write failed"
        (if isSetCommand command then writeDouble lib mapped.target parameter link
        else writeBoolean lib mapped.target true link)

def connect (lib : Libmodbus) (a : ModbusIndustrialAdapter) :
    Bool × ModbusIndustrialAdapter :=
  if a.link.connectionState = .connected then (true, a)
  else if a.config.host = "" ∨ a.config.port = 0 then
    (false, a.enterFault "missing Modbus TCP host or port")
  else
    let r :=
      a.link.session.close.connect lib a.config.host a.config.port a.config.timeoutMs
    let a := a.withSession r.2
    if !r.1 then
      (false, a.enterFault ("Modbus TCP connect failed: " ++ r.2.lastError))
    else (true, (a.bindEquipment a.config.equipment).enterConnected)

def disconnect (a : ModbusIndustrialAdapter) : ModbusIndustrialAdapter :=
  a.disconnectWith ModbusTcpSession.close

def readFailed (link : ModbusLink) : ModbusLink :=
  link.enterFault ("Modbus read failed during poll: " ++ link.session.lastError)

def poll (lib : Libmodbus) (a : ModbusIndustrialAdapter) :
    ModbusIndustrialAdapter :=
  a.pollWith (fun s => s) (fun m => ReadPlan.fixed (refreshSteps lib m)) readFailed

def execute (lib : Libmodbus) (a : ModbusIndustrialAdapter)
    (equipmentId command : String) (parameter : Double) :
    Option (CommandResult × ModbusIndustrialAdapter) :=
  a.executeWith (runCommand lib command parameter) equipmentId

/-!
# The promises of the driver
-/

/-- The session is open while it has a context. -/
def IsOpen (s : ModbusTcpSession) : Prop :=
  s.ctx = true

theorem prepare_ctx (lib : Libmodbus) (unitId : UInt8) (s : ModbusTcpSession) :
    (s.prepare lib unitId).2.ctx = s.ctx := by
  unfold ModbusTcpSession.prepare
  split
  · rfl
  · dsimp only
    split <;> rfl

theorem transact_ctx {answer : Type} (lib : Libmodbus) (unitId : UInt8)
    (c : ModbusCall) (what : String)
    (reply : List ModbusCall -> Except String answer) (s : ModbusTcpSession) :
    (s.transact lib unitId c what reply).2.ctx = s.ctx := by
  have hprepare := prepare_ctx lib unitId s
  unfold ModbusTcpSession.transact
  split
  · rename_i s' hs'
    rw [hs'] at hprepare
    exact hprepare
  · rename_i s' hs'
    rw [hs'] at hprepare
    dsimp only
    split <;> exact hprepare

theorem readPoint_ctx {value : Type} (lib : Libmodbus) (ofBit : Bool -> value)
    (ofWord : UInt16 -> value) (ref : ModbusRef) (s : ModbusTcpSession) :
    (readPoint lib ofBit ofWord ref s).2.ctx = s.ctx := by
  unfold readPoint
  split
  · rfl
  · cases ref.table <;> exact transact_ctx lib _ _ _ _ s

theorem readPoint_keeps {value : Type} (lib : Libmodbus) (ofBit : Bool -> value)
    (ofWord : UInt16 -> value) (ref : ModbusRef) (before : ModbusLink) :
    ReadStep.ReadKeeps (before.Moves IsOpen) (before.Ends IsOpen)
      (Link.onSession (readPoint lib ofBit ofWord ref)) :=
  before.readKeeps_onSession
    (fun s hs => (readPoint_ctx lib ofBit ofWord ref s).trans hs)

theorem refreshSteps_keep (lib : Libmodbus) (m : ModbusEquipmentMapping)
    (before : ModbusLink) :
    forall step, step ∈ refreshSteps lib m ->
      step.Keeps (before.Moves IsOpen) (before.Ends IsOpen) := by
  apply ReadStep.signalSteps_keep
  · intro p hp
    rcases List.mem_map.mp hp with ⟨point, _, rfl⟩
    exact readPoint_keeps lib _ _ point.source before
  · intro read hread
    split at hread <;> cases hread
    exact readPoint_keeps lib _ _ m.stateCoil before
  · intro read hread
    split at hread <;> cases hread
    exact readPoint_keeps lib _ _ m.faultCoil before

theorem writePoint_ends
    {writeBit writeWord : ModbusTcpSession -> Option Unit × ModbusTcpSession}
    (hbit : forall s, IsOpen s -> IsOpen (writeBit s).2)
    (hword : forall s, IsOpen s -> IsOpen (writeWord s).2)
    (ref : ModbusRef) (link : ModbusLink) :
    link.Ends IsOpen (writePoint writeBit writeWord ref link).2 := by
  have hrefl := link.moves_refl IsOpen
  unfold writePoint
  split
  · exact Or.inr (link.down_enterFault (by decide))
  · dsimp only
    cases ref.table with
    | coil =>
        dsimp only
        split
        · exact Or.inr (Link.down_enterFault _ (append_ne_empty (by decide) _))
        · exact Or.inl (hrefl.onSession hbit)
    | holdingRegister =>
        dsimp only
        split
        · exact Or.inr (Link.down_enterFault _ (append_ne_empty (by decide) _))
        · exact Or.inl (hrefl.onSession hword)
    | discreteInput => exact Or.inr (link.down_enterFault (by decide))
    | inputRegister => exact Or.inr (link.down_enterFault (by decide))

theorem runCommand_ends (lib : Libmodbus) (command : String) (parameter : Double)
    (m : ModbusEquipmentMapping) (link : ModbusLink) :
    link.Ends IsOpen (runCommand lib command parameter m link).2 := by
  have hwrite : forall (unitId : UInt8) (c : ModbusCall) (what : String)
      (s : ModbusTcpSession), IsOpen s ->
        IsOpen (s.transact lib unitId c what lib.done).2 :=
    fun unitId c what s hs => (transact_ctx lib unitId c what lib.done s).trans hs
  apply Link.execute_ends
  intro mapped
  rw [Link.written_snd]
  split <;> exact writePoint_ends (hwrite _ _ _) (hwrite _ _ _) mapped.target link

theorem connect_ctx (lib : Libmodbus) (host : String) (port : UInt16)
    (timeoutMs : Int) (s : ModbusTcpSession)
    (h : (s.connect lib host port timeoutMs).1 = true) :
    IsOpen (s.connect lib host port timeoutMs).2 := by
  unfold ModbusTcpSession.connect at h ⊢
  dsimp only at h ⊢
  split at h
  · cases h
  · rename_i hnew
    rw [if_neg hnew]
    split at h
    · cases h
    · rfl

theorem connect_cases (lib : Libmodbus) (a : ModbusIndustrialAdapter)
    (h : a.link.connectionState ≠ .connected) :
    ((connect lib a).1 = true ∧
        ProtocolAdapter.Opened ModbusAdapterConfig.equipment IsOpen a
          (connect lib a).2) ∨
      ((connect lib a).1 = false ∧
        ProtocolAdapter.Refused a (connect lib a).2) := by
  unfold connect
  rw [if_neg h]
  split
  · exact Or.inr
      ⟨rfl, ProtocolAdapter.refused_enterFault a a.link.session (by decide)⟩
  · dsimp only
    split
    · exact Or.inr
        ⟨rfl,
          ProtocolAdapter.refused_enterFault a _ (append_ne_empty (by decide) _)⟩
    · rename_i hconnect
      have hopen := connect_ctx lib a.config.host a.config.port a.config.timeoutMs
        a.link.session.close (by simpa using hconnect)
      exact Or.inl ⟨rfl, ProtocolAdapter.opened_enterConnected _ a hopen⟩

end ModbusIndustrialAdapter

instance : ProtocolDriver ModbusAdapterConfig ModbusEquipmentMapping
    ModbusTcpSession Libmodbus where
  protocol := ModbusIndustrialAdapter.protocol
  equipment := ModbusAdapterConfig.equipment
  isOpen := ModbusIndustrialAdapter.IsOpen
  connect := ModbusIndustrialAdapter.connect
  disconnect := ModbusIndustrialAdapter.disconnect
  poll := ModbusIndustrialAdapter.poll
  execute := ModbusIndustrialAdapter.execute
  close := ModbusTcpSession.close
  prepare _ s := s
  plan lib m := ReadPlan.fixed (ModbusIndustrialAdapter.refreshSteps lib m)
  fail := ModbusIndustrialAdapter.readFailed
  run lib _ := ModbusIndustrialAdapter.runCommand lib
  disconnect_eq _ := rfl
  poll_eq _ _ := rfl
  execute_eq _ _ _ _ _ := rfl
  connect_of_connected _ _ h := if_pos h
  connect_cases := ModbusIndustrialAdapter.connect_cases
  prepare_isOpen _ _ hs := hs
  plan_keeps lib m before :=
    ReadPlan.keeps_fixed (ModbusIndustrialAdapter.refreshSteps_keep lib m before)
  fail_cases link :=
    Or.inl (link.down_enterFault (append_ne_empty (by decide) _))
  run_of_not_connected _ _ _ _ _ _ h := runMapped_of_not_connected h _ _ _
  run_ends lib _ := ModbusIndustrialAdapter.runCommand_ends lib

end VirtualFactory
