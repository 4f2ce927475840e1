import VirtualFactory.Industrial.Feedback.Modbus
import VirtualFactory.Industrial.Feedback.OpcUa
import VirtualFactory.Industrial.Setpoints

/-!
# Setpoints that come back

Commands and polls of a Modbus or an OPC UA adapter over a source that keeps what is
written to it.
-/

namespace VirtualFactory

open Foundation
open IndustrialAdapter (operate operations)
open ProtocolAdapter (ReadsBack ShowsHeld)

namespace ModbusIndustrialAdapter

theorem decode_sentTo {cell : ModbusRef} (htable : cell.table = .holdingRegister)
    {command : String} (hset : isSetCommand command = true) {parameter : Double} {x : Rat}
    (hx : parameter.value = some x) (held : List ModbusCall -> ModbusValue)
    (name unit : String) :
    exists y k, (sourceCell cell held).decode (.telemetry name unit)
        ((sourceCell cell held).sent command parameter) = some (.telemetry name y unit) ∧
      y.value = some k ∧ |k - max 0 (min 65535 x)| ≤ 1 / 2 := by
  have hsent : (sourceCell cell held).sent command parameter =
      .word (registerValue parameter) := by
    show sentTo cell command parameter = _
    unfold sentTo
    rw [htable, hset]
    rfl
  have hsmall : ((registerValue parameter).toNat : Int).natAbs < 2 ^ 53 := by
    have hbound := (registerValue parameter).toNat_lt
    omega
  refine ⟨Double.ofInt (registerValue parameter).toNat, (registerValue parameter).toNat,
    ?_, Double.value_ofInt hsmall, registerValue_of_value hx⟩
  rw [hsent]
  rfl

end ModbusIndustrialAdapter

/-- Over a device or a server that keeps what is written to a point, an accepted command
on the point is read back: until another command may write there, every poll that
completes leaves the machines showing what the command sent.  A number that is set
through a register comes back within one half of its clipped value, and a number that is
set through a node comes back exactly. -/
theorem commands_read_back :
    (forall id cfg (lib : Libmodbus) (cell : ModbusRef) held, cell.mapped = true ->
      lib.Keeps cell held ->
        ReadsBack lib (ModbusIndustrialAdapter.sourceCell cell held)
            (ModbusIndustrialAdapter.new id cfg) ∧
          forall command parameter x name unit, cell.table = .holdingRegister ->
            isSetCommand command = true -> parameter.value = some x ->
              exists y k, (ModbusIndustrialAdapter.sourceCell cell held).decode
                  (.telemetry name unit)
                  ((ModbusIndustrialAdapter.sourceCell cell held).sent command parameter) =
                    some (.telemetry name y unit) ∧
                y.value = some k ∧ |k - max 0 (min 65535 x)| ≤ 1 / 2) ∧
      (forall id cfg (lib : Open62541) (node : OpcUaNodeRef) held, lib.Keeps node held ->
        ReadsBack lib (OpcUaIndustrialAdapter.sourceCell node held)
            (OpcUaIndustrialAdapter.new id cfg) ∧
          forall command parameter name unit, isSetCommand command = true ->
            (OpcUaIndustrialAdapter.sourceCell node held).decode (.telemetry name unit)
                ((OpcUaIndustrialAdapter.sourceCell node held).sent command parameter) =
              some (.telemetry name parameter unit)) := by
  constructor
  · intro id cfg lib cell held hcell hkeeps
    refine ⟨?_, ?_⟩
    · exact ProtocolAdapter.readsBack_of_retains
        (ModbusIndustrialAdapter.retains hkeeps hcell) (ProtocolAdapter.lived_create id cfg _)
    · intro command parameter x name unit htable hset hx
      exact ModbusIndustrialAdapter.decode_sentTo htable hset hx held name unit
  · intro id cfg lib node held hkeeps
    refine ⟨?_, ?_⟩
    · exact ProtocolAdapter.readsBack_of_retains (OpcUaIndustrialAdapter.retains hkeeps)
        (ProtocolAdapter.lived_create id cfg _)
    · intro command parameter name unit hset
      show (if isSetCommand command then UaVariant.double parameter else _).asDouble.map _ = _
      rw [hset]
      rfl

/-- A register bank: it answers with the last value that was written to a register. -/
def lastWord (cell : ModbusRef) : List ModbusCall -> UInt16
  | [] => 0
  | c :: earlier =>
      match (ModbusRequest.ofCall (ModbusRequest.selectedUnit earlier) c).bind
          (ModbusRequest.stores cell) with
      | some (.word value) => value
      | _ => lastWord cell earlier

def speedRegister : ModbusRef := makeModbusRef 1 .holdingRegister 7

def registerBank : Libmodbus where
  newTcp _ := true
  done _ := .ok ()
  bit _ := .ok 0
  word calls := .ok (lastWord speedRegister calls)

theorem keeps_registerBank :
    registerBank.Keeps speedRegister (fun calls => .word (lastWord speedRegister calls)) where
  quiet c calls h := by
    simp only [lastWord, h]
  stored c calls x h _ := by
    have hword : exists value, x = .word value := by
      rcases Option.bind_eq_some_iff.mp h with ⟨r, _, hr⟩
      unfold ModbusRequest.stores at hr
      split at hr
      · cases hr
      · split at hr
        · rename_i hcoil
          exact absurd hcoil.1 (by decide)
        · cases hr
      · split at hr
        · exact ⟨_, (Option.some.inj hr).symm⟩
        · cases hr
    rcases hword with ⟨value, rfl⟩
    simp only [lastWord, h]
  answers c calls x hc h := by
    have hquiet : (ModbusRequest.ofCall (ModbusRequest.selectedUnit calls) c).bind
        (ModbusRequest.stores speedRegister) = none := by
      rw [hc]
      rfl
    have hanswer : (Except.ok (.word (lastWord speedRegister (c :: calls))) :
        Except String ModbusValue) = .ok x := h
    cases hanswer
    simp only [lastWord, hquiet]

/-- A fan whose speed is set and read through one register. -/
def fan : ModbusEquipmentMapping where
  id := "FAN-1"
  type := "fan"
  commands := [⟨"set_speed", speedRegister⟩]
  telemetry := [⟨"speed", speedRegister, "rpm"⟩]

def fanLine : ModbusAdapterConfig where
  equipment := [fan]

def onBank (operation : AdapterOperation Empty) : AdapterEvent Libmodbus Empty where
  operation := operation
  device := registerBank

def fanAfterSet : ModbusIndustrialAdapter × ClientIds :=
  (operations ModbusIndustrialAdapter).run [onBank .disconnect, onBank .connect]
    (operate (onBank (.execute "FAN-1" "set_speed" (Double.ofInt 42)))
      ((operations ModbusIndustrialAdapter).run [onBank .connect]
        (ModbusIndustrialAdapter.new "modbus-a" fanLine, {}))).2

theorem spares_reopening (event : AdapterEvent Libmodbus Empty)
    (h : event ∈ [onBank .disconnect, onBank .connect]) :
    event.device = registerBank ∧
      ProtocolAdapter.Spares (ModbusIndustrialAdapter.sourceCell speedRegister
        (fun calls => .word (lastWord speedRegister calls))) fanLine event := by
  rcases List.mem_cons.mp h with rfl | hlast
  · exact ⟨rfl, trivial⟩
  · rw [List.mem_singleton.mp hlast]
    exact ⟨rfl, trivial⟩

/-- A server with one variable. -/
def lastValue (node : OpcUaNodeRef) : List UaCall -> UaVariant
  | [] => .double Double.zero
  | c :: earlier => (UaCall.stores node c).getD (lastValue node earlier)

def levelNode : OpcUaNodeRef where
  identifier := "Level"

def levelServer : Open62541 where
  new _ := true
  done _ := .ok ()
  value calls := .ok (lastValue levelNode calls)

theorem keeps_levelServer : levelServer.Keeps levelNode (lastValue levelNode) where
  quiet c calls h := by
    rw [lastValue, h]
    rfl
  stored c calls x h _ := by
    rw [lastValue, h]
    rfl
  answers calls x h := by
    have hanswer : (Except.ok (lastValue levelNode calls) : Except String UaVariant) = .ok x :=
      h
    cases hanswer
    rfl

/-- A tank whose level is set and read through one node. -/
def tank : OpcUaEquipmentMapping where
  id := "TANK-1"
  type := "tank"
  commands := [⟨"set_level", levelNode⟩]
  telemetry := [⟨"level", levelNode, "m"⟩]

def tankLine : OpcUaAdapterConfig where
  endpointUrl := "opc.tcp://plc"
  equipment := [tank]

def onServer (operation : AdapterOperation Empty) : AdapterEvent Open62541 Empty where
  operation := operation
  device := levelServer

def tankAfterSet : OpcUaIndustrialAdapter × ClientIds :=
  (operate (onServer (.execute "TANK-1" "set_level" (Double.ofInt 2)))
    ((operations OpcUaIndustrialAdapter).run [onServer .connect]
      (OpcUaIndustrialAdapter.new "opcua-a" tankLine, {}))).2

/-- The fan shows the speed that was set before the connection was lost, and the tank its
level. -/
theorem commands_read_back_fan :
    (exists (e : GenericEquipment) (r : Reading),
      (ProtocolDriver.poll registerBank fanAfterSet.1).equipment[0]? = some (some e.view) ∧
        (ModbusIndustrialAdapter.sourceCell speedRegister
          (fun calls => .word (lastWord speedRegister calls))).decode
            (.telemetry "speed" "rpm")
            (ModbusIndustrialAdapter.sentTo speedRegister "set_speed" (Double.ofInt 42)) =
              some r ∧
        e.shown (.telemetry "speed") = some r) ∧
      exists (e : GenericEquipment) (r : Reading),
        (ProtocolDriver.poll levelServer tankAfterSet.1).equipment[0]? =
            some (some e.view) ∧
          some (.telemetry "level" (Double.ofInt 2) "m") = some r ∧
          e.shown (.telemetry "level") = some r := by
  have hfan := (commands_read_back.1 "modbus-a" fanLine registerBank speedRegister _ rfl
    keeps_registerBank).1 [onBank .connect] [onBank .disconnect, onBank .connect] {} "FAN-1"
      "set_speed" (Double.ofInt 42) (BoundEquipment.bind fan) ⟨true, "written"⟩ rfl
      ⟨⟨"set_speed", speedRegister⟩, rfl, rfl⟩ rfl rfl spares_reopening (by decide)
  have htank := (commands_read_back.2 "opcua-a" tankLine levelServer levelNode _
    keeps_levelServer).1 [onServer .connect] [] {} "TANK-1" "set_level" (Double.ofInt 2)
      (BoundEquipment.bind tank) ⟨true, "written"⟩ rfl ⟨⟨"set_level", levelNode⟩, rfl, rfl⟩
      rfl rfl (fun event hevent => by cases hevent) (by decide)
  exact ⟨hfan 0 fan [] (.telemetry "speed" "rpm") [] rfl rfl (fun p hp => by cases hp),
    htank 0 tank [] (.telemetry "level" "m") [] rfl rfl (fun p hp => by cases hp)⟩

end VirtualFactory
