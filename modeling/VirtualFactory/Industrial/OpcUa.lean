import VirtualFactory.Industrial.ProtocolDriver

/-!
# OPC UA

The client over open62541 and the adapter that maps nodes into equipment.
-/

namespace VirtualFactory

open Foundation

/-!
# Configuration
-/

structure OpcUaNodeRef where
  namespaceIndex : UInt16 := 1
  identifier : String := ""

structure OpcUaCommandMapping where
  command : String
  node : OpcUaNodeRef

structure OpcUaTelemetryMapping where
  name : String
  node : OpcUaNodeRef
  unit : String

structure OpcUaEquipmentMapping where
  id : String
  type : String
  capabilities : List String := []
  commands : List OpcUaCommandMapping := []
  telemetry : List OpcUaTelemetryMapping := []
  stateNode : OpcUaNodeRef := {}
  faultNode : OpcUaNodeRef := {}

structure OpcUaAdapterConfig where
  endpointUrl : String := ""
  equipment : List OpcUaEquipmentMapping := []

instance : EquipmentMapping OpcUaEquipmentMapping where
  id m := m.id
  type m := m.type
  capabilities m := m.capabilities
  commands m := m.commands.map OpcUaCommandMapping.command

/-!
# The client
-/

inductive UaVariant where
  | empty
  | boolean (value : Bool)
  | byte (value : UInt8)
  | int16 (value : Int16)
  | int32 (value : Int32)
  | uint32 (value : UInt32)
  | float (value : Single)
  | double (value : Double)
  | other
  deriving DecidableEq

def UaVariant.asBool : UaVariant -> Option Bool
  | boolean value => some value
  | byte value => some (value != 0)
  | int32 value => some (value != 0)
  | _ => none

def UaVariant.asDouble : UaVariant -> Option Double
  | double value => some value
  | float value => some (Double.ofSingle value)
  | int32 value => some (Double.ofInt value.toInt)
  | uint32 value => some (Double.ofInt value.toNat)
  | int16 value => some (Double.ofInt value.toInt)
  | boolean value => some (Double.ofBool value)
  | _ => none

/-- The open62541 calls of a client. -/
inductive UaCall where
  | new
  | connect (endpointUrl : String)
  | disconnectAndDelete
  | delete
  | readValueAttribute (namespaceIndex : UInt16) (identifier : String)
  | writeValueAttribute (namespaceIndex : UInt16) (identifier : String)
      (value : UaVariant)
  deriving DecidableEq

/-- The answers of open62541 to the last call of a history.  A bad status is given
by its name. -/
structure Open62541 where
  new : List UaCall -> Bool
  done : List UaCall -> Except String Unit
  value : List UaCall -> Except String UaVariant
  deriving Inhabited

structure UaClientHandle where
  client : Bool := false
  calls : List UaCall := []

namespace UaClientHandle

def call (s : UaClientHandle) (c : UaCall) : UaClientHandle :=
  { s with calls := c :: s.calls }

def close (s : UaClientHandle) : UaClientHandle :=
  if s.client then { s.call .disconnectAndDelete with client := false } else s

end UaClientHandle

/-!
# The adapter
-/

abbrev OpcUaLink := Link UaClientHandle

abbrev OpcUaIndustrialAdapter :=
  ProtocolAdapter OpcUaAdapterConfig OpcUaEquipmentMapping UaClientHandle

namespace OpcUaIndustrialAdapter

def new (id : String) (config : OpcUaAdapterConfig) : OpcUaIndustrialAdapter :=
  ProtocolAdapter.create id config {}

def protocol : String := "opcua"

def readNode {value : Type} (lib : Open62541)
    (decode : UaVariant -> Option value) (node : OpcUaNodeRef)
    (s : UaClientHandle) : Option value × UaClientHandle :=
  if !s.client || node.identifier == "" then (none, s)
  else
    let s := s.call (.readValueAttribute node.namespaceIndex node.identifier)
    match lib.value s.calls with
    | .error _ => (none, s)
    | .ok variant => (decode variant, s)

def readBoolean (lib : Open62541) (node : OpcUaNodeRef) :
    OpcUaLink -> Option Bool × OpcUaLink :=
  Link.onSession (readNode lib UaVariant.asBool node)

def readDouble (lib : Open62541) (node : OpcUaNodeRef) :
    OpcUaLink -> Option Double × OpcUaLink :=
  Link.onSession (readNode lib UaVariant.asDouble node)

def writeNode (lib : Open62541) (node : OpcUaNodeRef) (value : UaVariant)
    (link : OpcUaLink) : Bool × OpcUaLink :=
  if !link.session.client || node.identifier == "" then
    (false, link.enterFault "OPC UA write failed: invalid node or client")
  else
    let s :=
      link.session.call
        (.writeValueAttribute node.namespaceIndex node.identifier value)
    let link := { link with session := s }
    match lib.done s.calls with
    | .error status =>
        (false, link.enterFault ("OPC UA write failed: " ++ status))
    | .ok _ => (true, link)

def writeBoolean (lib : Open62541) (node : OpcUaNodeRef) (value : Bool) :
    OpcUaLink -> Bool × OpcUaLink :=
  writeNode lib node (.boolean value)

def writeDouble (lib : Open62541) (node : OpcUaNodeRef) (value : Double) :
    OpcUaLink -> Bool × OpcUaLink :=
  writeNode lib node (.double value)

/-- The reads of `BoundEquipment::refreshFromServer`, in order. -/
def refreshSteps (lib : Open62541) (m : OpcUaEquipmentMapping) :
    List (ReadStep OpcUaLink) :=
  ReadStep.signalSteps
    (m.telemetry.map
      (fun point => ⟨point.name, point.unit, readDouble lib point.node⟩))
    (if m.stateNode.identifier ≠ "" then some (readBoolean lib m.stateNode) else none)
    (if m.faultNode.identifier ≠ "" then some (readBoolean lib m.faultNode) else none)

/-- `BoundEquipment::execute`. -/
def runCommand (lib : Open62541) (command : String) (parameter : Double)
    (m : OpcUaEquipmentMapping) (link : OpcUaLink) : CommandResult × OpcUaLink :=
  link.execute (m.commands.find? (fun entry => entry.command = command))
    fun mapped link =>
      Link.written "opc ua write failed"
        (if isSetCommand command then writeDouble lib mapped.node parameter link
        else writeBoolean lib mapped.node true link)

def connect (lib : Open62541) (a : OpcUaIndustrialAdapter) :
    Bool × OpcUaIndustrialAdapter :=
  if a.link.connectionState = .connected then (true, a)
  else if a.config.endpointUrl = "" then
    (false, a.enterFault "missing OPC UA endpoint URL")
  else
    let s := a.link.session.close.call .new
    if !lib.new s.calls then
      (false, (a.withSession s).enterFault "failed to create OPC UA client")
    else
      let s := s.call (.connect a.config.endpointUrl)
      match lib.done s.calls with
      | .error status =>
          (false,
            (a.withSession (s.call .delete)).enterFault
              ("OPC UA connect failed: " ++ status))
      | .ok _ =>
          (true,
            ((a.withSession { s with client := true }).bindEquipment
              a.config.equipment).enterConnected)

def disconnect (a : OpcUaIndustrialAdapter) : OpcUaIndustrialAdapter :=
  a.disconnectWith UaClientHandle.close

def readFailed (link : OpcUaLink) : OpcUaLink :=
  link.enterFault "OPC UA read failed during poll"

def poll (lib : Open62541) (a : OpcUaIndustrialAdapter) :
    OpcUaIndustrialAdapter :=
  a.pollWith (fun s => s) (fun m => ReadPlan.fixed (refreshSteps lib m)) readFailed

def execute (lib : Open62541) (a : OpcUaIndustrialAdapter)
    (equipmentId command : String) (parameter : Double) :
    Option (CommandResult × OpcUaIndustrialAdapter) :=
  a.executeWith (runCommand lib command parameter) equipmentId

/-!
# The promises of the driver
-/

/-- The session is open while it has a client. -/
def IsOpen (s : UaClientHandle) : Prop :=
  s.client = true

theorem readNode_client {value : Type} (lib : Open62541)
    (decode : UaVariant -> Option value) (node : OpcUaNodeRef)
    (s : UaClientHandle) : (readNode lib decode node s).2.client = s.client := by
  unfold readNode
  split
  · rfl
  · dsimp only
    split <;> rfl

theorem readNode_keeps {value : Type} (lib : Open62541)
    (decode : UaVariant -> Option value) (node : OpcUaNodeRef)
    (before : OpcUaLink) :
    ReadStep.ReadKeeps (before.Moves IsOpen) (before.Ends IsOpen)
      (Link.onSession (readNode lib decode node)) :=
  before.readKeeps_onSession
    (fun s hs => (readNode_client lib decode node s).trans hs)

theorem refreshSteps_keep (lib : Open62541) (m : OpcUaEquipmentMapping)
    (before : OpcUaLink) :
    forall step, step ∈ refreshSteps lib m ->
      step.Keeps (before.Moves IsOpen) (before.Ends IsOpen) := by
  apply ReadStep.signalSteps_keep
  · intro p hp
    rcases List.mem_map.mp hp with ⟨point, _, rfl⟩
    exact readNode_keeps lib _ point.node before
  · intro read hread
    split at hread <;> cases hread
    exact readNode_keeps lib _ m.stateNode before
  · intro read hread
    split at hread <;> cases hread
    exact readNode_keeps lib _ m.faultNode before

theorem writeNode_ends (lib : Open62541) (node : OpcUaNodeRef)
    (value : UaVariant) (link : OpcUaLink) :
    link.Ends IsOpen (writeNode lib node value link).2 := by
  unfold writeNode
  split
  · exact Or.inr (link.down_enterFault (by decide))
  · dsimp only
    split
    · exact Or.inr (Link.down_enterFault _ (append_ne_empty (by decide) _))
    · exact Or.inl ⟨rfl, rfl, fun h => h⟩

theorem runCommand_ends (lib : Open62541) (command : String) (parameter : Double)
    (m : OpcUaEquipmentMapping) (link : OpcUaLink) :
    link.Ends IsOpen (runCommand lib command parameter m link).2 := by
  apply Link.execute_ends
  intro mapped
  rw [Link.written_snd]
  split <;> exact writeNode_ends lib mapped.node _ link

theorem connect_cases (lib : Open62541) (a : OpcUaIndustrialAdapter)
    (h : a.link.connectionState ≠ .connected) :
    ((connect lib a).1 = true ∧
        ProtocolAdapter.Opened OpcUaAdapterConfig.equipment IsOpen a
          (connect lib a).2) ∨
      ((connect lib a).1 = false ∧
        ProtocolAdapter.Refused a (connect lib a).2) := by
  unfold connect
  rw [if_neg h]
  split
  · exact Or.inr
      ⟨rfl, ProtocolAdapter.refused_enterFault a a.link.session (by decide)⟩
  · dsimp only
    split
    · exact Or.inr ⟨rfl, ProtocolAdapter.refused_enterFault a _ (by decide)⟩
    · split
      · exact Or.inr
          ⟨rfl,
            ProtocolAdapter.refused_enterFault a _ (append_ne_empty (by decide) _)⟩
      · exact Or.inl ⟨rfl, ProtocolAdapter.opened_enterConnected _ a rfl⟩

end OpcUaIndustrialAdapter

instance : ProtocolDriver OpcUaAdapterConfig OpcUaEquipmentMapping UaClientHandle
    Open62541 where
  protocol := OpcUaIndustrialAdapter.protocol
  equipment := OpcUaAdapterConfig.equipment
  isOpen := OpcUaIndustrialAdapter.IsOpen
  connect := OpcUaIndustrialAdapter.connect
  disconnect := OpcUaIndustrialAdapter.disconnect
  poll := OpcUaIndustrialAdapter.poll
  execute := OpcUaIndustrialAdapter.execute
  close := UaClientHandle.close
  prepare _ s := s
  plan lib m := ReadPlan.fixed (OpcUaIndustrialAdapter.refreshSteps lib m)
  fail := OpcUaIndustrialAdapter.readFailed
  run lib _ := OpcUaIndustrialAdapter.runCommand lib
  disconnect_eq _ := rfl
  poll_eq _ _ := rfl
  execute_eq _ _ _ _ _ := rfl
  connect_of_connected _ _ h := if_pos h
  connect_cases := OpcUaIndustrialAdapter.connect_cases
  prepare_isOpen _ _ hs := hs
  plan_keeps lib m before :=
    ReadPlan.keeps_fixed (OpcUaIndustrialAdapter.refreshSteps_keep lib m before)
  fail_cases link := Or.inl (link.down_enterFault (by decide))
  run_of_not_connected _ _ _ _ _ _ h := runMapped_of_not_connected h _ _ _
  run_ends lib _ := OpcUaIndustrialAdapter.runCommand_ends lib

end VirtualFactory
