import VirtualFactory.Equipment.Conveyor
import VirtualFactory.Industrial.EtherNetIp
import VirtualFactory.Industrial.Mock
import VirtualFactory.Industrial.Modbus
import VirtualFactory.Industrial.Mqtt.Adapter
import VirtualFactory.Industrial.OpcUa
import VirtualFactory.Industrial.Rest

/-!
# The names of commands

A machine lists the names of its commands and rejects other names.  The machines of the
protocol adapters list their capabilities too, but look only for mapped commands.
-/

namespace VirtualFactory

open Foundation

def notSupportedMessages : List String :=
  ["unknown command", "capability start not present", "capability stop not present"]

def CommandResult.NotSupported (r : CommandResult) : Prop :=
  r.accepted = false ∧ r.message ∈ notSupportedMessages

theorem notSupported_of_mem {message : String} (h : message ∈ notSupportedMessages) :
    (CommandResult.mk false message).NotSupported :=
  ⟨rfl, h⟩

theorem supported_of_not_mem {accepted : Bool} {message : String}
    (h : message ∉ notSupportedMessages) :
    ¬ (CommandResult.mk accepted message).NotSupported :=
  fun hrejected => h hrejected.right

theorem supported_accepted (message : String) :
    ¬ (CommandResult.mk true message).NotSupported :=
  fun h => Bool.noConfusion h.left

/-- The list of commands tells the truth about a name. -/
def TellsTruth (commands : List String) (name : String) (r : CommandResult) : Prop :=
  name ∈ commands <-> ¬ r.NotSupported

theorem tellsTruth_listed {commands : List String} {name : String} {r : CommandResult}
    (hlisted : name ∈ commands) (h : ¬ r.NotSupported) : TellsTruth commands name r :=
  ⟨fun _ => h, fun _ => hlisted⟩

theorem tellsTruth_unlisted {commands : List String} {name : String} {r : CommandResult}
    (hunlisted : name ∉ commands) (h : r.NotSupported) : TellsTruth commands name r :=
  ⟨fun hlisted => absurd hlisted hunlisted, fun hsupported => absurd h hsupported⟩

theorem tellsTruth_check {commands : List String} {name accepted rejected : String}
    {listed : Bool} (hlisted : listed = true <-> name ∈ commands)
    (hrejected : rejected ∈ notSupportedMessages) {state : Type} (s t : state) :
    TellsTruth commands name
      (if listed = true then (CommandResult.mk true accepted, s)
        else (CommandResult.mk false rejected, t)).1 := by
  split
  · rename_i hcapable
    exact tellsTruth_listed (hlisted.mp hcapable) (supported_accepted _)
  · rename_i hnot
    exact tellsTruth_unlisted (mt hlisted.mpr hnot) (notSupported_of_mem hrejected)

/-!
# Generic equipment
-/

namespace GenericEquipment

theorem hasCapability_iff (e : GenericEquipment) (name : String) :
    e.hasCapability name = true <-> name ∈ e.commands :=
  List.contains_iff_mem

theorem tellsTruth (e : GenericEquipment) (name : String) (parameter : Double) :
    TellsTruth e.commands name (e.execute name parameter).1 := by
  unfold execute
  split
  · rename_i hstart
    rw [hstart]
    exact tellsTruth_check (e.hasCapability_iff "start") (by decide) _ _
  · split
    · rename_i hstop
      rw [hstop]
      exact tellsTruth_check (e.hasCapability_iff "stop") (by decide) _ _
    · exact tellsTruth_check (e.hasCapability_iff name) (by decide) _ _

theorem mem_foldl_addCapability (names : List String) (e : GenericEquipment) (name : String) :
    name ∈ (names.foldl addCapability e).capabilities <->
      name ∈ e.capabilities ∨ name ∈ names := by
  induction names generalizing e with
  | nil => simp
  | cons first rest ih =>
      have hfirst : name ∈ (e.addCapability first).capabilities <->
          name ∈ e.capabilities ∨ name = first := by
        unfold addCapability
        split
        · rename_i hlisted
          rw [hasCapability_iff] at hlisted
          constructor
          · exact Or.inl
          · intro h
            rcases h with h | rfl
            · exact h
            · exact hlisted
        · show name ∈ e.capabilities ++ [first] <-> _
          rw [List.mem_append, List.mem_singleton]
      rw [List.foldl_cons, ih, hfirst, List.mem_cons, or_assoc]

end GenericEquipment

theorem Conveyor.tellsTruth (c : Conveyor) (name : String) (parameter : Double) :
    TellsTruth Conveyor.commands name (c.execute name parameter).1 := by
  unfold Conveyor.execute
  split
  · rename_i hstart
    rw [hstart]
    exact tellsTruth_listed (by decide) (supported_accepted _)
  · rename_i hstart
    split
    · rename_i hstop
      rw [hstop]
      exact tellsTruth_listed (by decide) (supported_accepted _)
    · rename_i hstop
      split
      · rename_i hspeed
        rw [hspeed]
        rcases c.setSpeed_cases parameter with ⟨_, hset⟩ | ⟨_, hset⟩
        · rw [hset]
          exact tellsTruth_listed (by decide) (supported_of_not_mem (by decide))
        · rw [hset]
          exact tellsTruth_listed (by decide) (supported_accepted _)
      · rename_i hspeed
        apply tellsTruth_unlisted _ (notSupported_of_mem (by decide))
        intro hlisted
        simp only [Conveyor.commands, List.mem_cons, List.not_mem_nil, or_false] at hlisted
        rcases hlisted with h | h | h
        · exact hstart h
        · exact hstop h
        · exact hspeed h

theorem MockIndustrialAdapter.tellsTruth {a : MockIndustrialAdapter}
    (h : a.connectionState = .connected) (b : MockBoundEquipment) (name : String)
    (parameter : Double) :
    TellsTruth b.inner.commands name (runCommand name parameter b a).1 := by
  unfold runCommand
  rw [h]
  dsimp only
  split
  · rename_i hset
    have hcapable := (Bool.and_eq_true _ _ ▸ hset).right
    exact tellsTruth_listed ((b.inner.hasCapability_iff name).mp hcapable)
      (supported_accepted _)
  · exact b.inner.tellsTruth name parameter

/-!
# Mapped machines
-/

theorem Link.supported_written {session : Type} {failure : String}
    (h : failure ∉ notSupportedMessages) (r : Bool × Link session) :
    ¬ (Link.written failure r).1.NotSupported := by
  unfold Link.written
  split
  · exact supported_accepted _
  · exact supported_of_not_mem h

/-- Over a connection a mapped machine rejects exactly the names it finds no command
for. -/
theorem notSupported_runMapped {command state : Type}
    {write : command -> state -> CommandResult × state} {mapped : Option command} {s : state}
    (hwrite : forall c, ¬ (write c s).1.NotSupported) :
    (runMapped .connected mapped write s).1.NotSupported <-> mapped = none := by
  cases mapped with
  | none => exact ⟨fun _ => rfl, fun _ => notSupported_of_mem (by decide)⟩
  | some c => exact ⟨fun hrejected => absurd hrejected (hwrite c), fun h => nomatch h⟩

theorem find?_name_eq_none {command : Type} (nameOf : command -> String)
    {commands : List command} {name : String} :
    commands.find? (fun entry => nameOf entry = name) = none <->
      name ∉ commands.map nameOf := by
  rw [List.find?_eq_none, List.mem_map]
  constructor
  · intro h hmem
    rcases hmem with ⟨entry, hentry, hname⟩
    exact h entry hentry (decide_eq_true hname)
  · intro h entry hentry hname
    exact h ⟨entry, hentry, of_decide_eq_true hname⟩

theorem BoundEquipment.mem_commands {mapping : Type} [EquipmentMapping mapping]
    (b : BoundEquipment mapping) (name : String) :
    name ∈ b.inner.commands <->
      name ∈ EquipmentMapping.capabilities b.mapping ∨
        name ∈ EquipmentMapping.commands b.mapping := by
  rcases b.history with ⟨rs, hrs⟩
  show name ∈ b.inner.capabilities <-> _
  rw [hrs, GenericEquipment.foldl_applyReading_capabilities]
  show name ∈ (List.foldl GenericEquipment.addCapability _ _).capabilities <-> _
  rw [GenericEquipment.mem_foldl_addCapability, List.mem_append]
  constructor
  · intro h
    rcases h with h | h
    · cases h
    · exact h
  · exact Or.inr

/-- The list of such a machine tells the truth about a name unless it is a capability
without a command. -/
theorem BoundEquipment.tellsTruth_iff {mapping : Type} [EquipmentMapping mapping]
    (b : BoundEquipment mapping) {name : String} {r : CommandResult}
    (h : r.NotSupported <-> name ∉ EquipmentMapping.commands b.mapping) :
    TellsTruth b.inner.commands name r <->
      (name ∈ EquipmentMapping.capabilities b.mapping ->
        name ∈ EquipmentMapping.commands b.mapping) := by
  unfold TellsTruth
  rw [b.mem_commands, h, not_not]
  constructor
  · intro htruth hcapability
    exact htruth.mp (Or.inl hcapability)
  · intro hmapped
    constructor
    · intro hlisted
      rcases hlisted with hcapability | hcommand
      · exact hmapped hcapability
      · exact hcommand
    · exact Or.inr

theorem ModbusIndustrialAdapter.notSupported_runCommand (lib : Libmodbus) (command : String)
    (parameter : Double) (m : ModbusEquipmentMapping) {link : ModbusLink}
    (h : link.connectionState = .connected) :
    (runCommand lib command parameter m link).1.NotSupported <->
      command ∉ EquipmentMapping.commands m := by
  unfold runCommand Link.execute
  rw [h, notSupported_runMapped, find?_name_eq_none _]
  · rfl
  · exact fun _ => Link.supported_written (by decide) _

theorem OpcUaIndustrialAdapter.notSupported_runCommand (lib : Open62541) (command : String)
    (parameter : Double) (m : OpcUaEquipmentMapping) {link : OpcUaLink}
    (h : link.connectionState = .connected) :
    (runCommand lib command parameter m link).1.NotSupported <->
      command ∉ EquipmentMapping.commands m := by
  unfold runCommand Link.execute
  rw [h, notSupported_runMapped, find?_name_eq_none _]
  · rfl
  · exact fun _ => Link.supported_written (by decide) _

theorem RestIndustrialAdapter.notSupported_runCommand (text : TextLib) (lib : Libcurl)
    (command : String) (parameter : Double) (m : RestEquipmentMapping) {link : RestLink}
    (h : link.connectionState = .connected) :
    (runCommand text lib command parameter m link).1.NotSupported <->
      command ∉ EquipmentMapping.commands m := by
  unfold runCommand Link.execute
  rw [h, notSupported_runMapped, find?_name_eq_none _]
  · rfl
  · intro mapped
    dsimp only
    split
    · exact supported_of_not_mem (by decide)
    · exact Link.supported_written (by decide) _

theorem EtherNetIpIndustrialAdapter.notSupported_runCommand (lib : Libplctag)
    (timeoutMs : Int) (command : String) (parameter : Double)
    (m : EtherNetIpEquipmentMapping) {link : EtherNetIpLink}
    (h : link.connectionState = .connected) :
    (runCommand lib timeoutMs command parameter m link).1.NotSupported <->
      command ∉ EquipmentMapping.commands m := by
  have hnames : m.commands.zipIdx.map (fun entry => entry.1.command) =
      m.commands.map EtherNetIpCommandMapping.command := by
    have hcomposed := List.map_map (f := Prod.fst) (g := EtherNetIpCommandMapping.command)
      (l := m.commands.zipIdx)
    rw [List.zipIdx_map_fst] at hcomposed
    exact hcomposed.symm
  unfold runCommand Link.execute
  rw [h, notSupported_runMapped,
    find?_name_eq_none (fun entry : EtherNetIpCommandMapping × Nat => entry.1.command), hnames]
  · rfl
  · intro mapped
    exact Link.supported_written (by decide) _

theorem MqttIndustrialAdapter.notSupported_runCommand (text : TextLib) (paho : Paho)
    (command : String) (parameter : Double) (m : MqttEquipmentMapping)
    {a : MqttIndustrialAdapter} (h : a.connectionState = .connected) (ids : ClientIds) :
    (runCommand text paho command parameter m a ids).1.NotSupported <->
      command ∉ EquipmentMapping.commands m := by
  unfold runCommand
  rw [h, notSupported_runMapped, find?_name_eq_none _]
  · rfl
  · intro mapped
    dsimp only
    split
    · exact supported_of_not_mem (by decide)
    · split
      · exact supported_of_not_mem (by decide)
      · exact supported_accepted _

/-!
# Connected adapters
-/

/-- The machines of a connected adapter list a name truly unless it is a capability that has
no command. -/
def ListsMapped (config mapping session : Type) [EquipmentMapping mapping] {library : Type}
    [ProtocolDriver config mapping session library] (name : String) (parameter : Double) :
    Prop :=
  forall (lib : library) (a : ProtocolAdapter config mapping session) (equipmentId : String)
    (b : BoundEquipment mapping) (r : CommandResult × ProtocolAdapter config mapping session),
    a.link.connectionState = .connected -> a.boundById equipmentId = some b ->
      ProtocolDriver.execute lib a equipmentId name parameter = some r ->
        (TellsTruth b.inner.view.commands name r.1 <->
          (name ∈ EquipmentMapping.capabilities b.mapping ->
            name ∈ EquipmentMapping.commands b.mapping))

theorem listsMapped {config mapping session library : Type} [EquipmentMapping mapping]
    [ProtocolDriver config mapping session library]
    (hrun : forall (lib : library) (cfg : config) (command : String) (parameter : Double)
      (m : mapping) (link : Link session), link.connectionState = .connected ->
        ((ProtocolDriver.run lib cfg command parameter m link).1.NotSupported <->
          command ∉ EquipmentMapping.commands m)) (name : String) (parameter : Double) :
    ListsMapped config mapping session name parameter := by
  intro lib a equipmentId b r hstate hb hr
  rcases ProtocolAdapter.execute_cases lib a equipmentId name parameter with
    ⟨hnone, _⟩ | ⟨d, hd, hsome⟩
  · cases hnone.symm.trans hb
  · cases hd.symm.trans hb
    cases hsome.symm.trans hr
    exact b.tellsTruth_iff (hrun lib a.config name parameter b.mapping a.link hstate)

theorem MqttIndustrialAdapter.tellsTruth_iff {text : TextLib} {paho : Paho}
    {a : MqttIndustrialAdapter} {ids : ClientIds} {equipmentId name : String}
    {b : BoundEquipment MqttEquipmentMapping} {parameter : Double}
    {r : CommandResult × MqttIndustrialAdapter × ClientIds}
    (hstate : a.connectionState = .connected) (hb : a.core.boundById equipmentId = some b)
    (hr : a.execute text paho equipmentId name parameter ids = some r) :
    TellsTruth b.inner.view.commands name r.1 <->
      (name ∈ EquipmentMapping.capabilities b.mapping ->
        name ∈ EquipmentMapping.commands b.mapping) := by
  rcases execute_some hr with ⟨d, hd, hrun⟩
  cases hd.symm.trans hb
  rw [← hrun]
  exact b.tellsTruth_iff (notSupported_runCommand text paho name parameter b.mapping hstate ids)

/-- Generic equipment, conveyors and mock machines list exactly the names they support.
The machines of the other adapters do so for every name but a capability without a
command. -/
theorem commands_tellTruth_iff (name : String) (parameter : Double) :
    (forall e : GenericEquipment,
      TellsTruth e.view.commands name (e.execute name parameter).1) ∧
    (forall c : Conveyor,
      TellsTruth c.view.commands name (c.execute name parameter).1) ∧
    (forall (a : MockIndustrialAdapter) equipmentId b r,
      a.connectionState = .connected -> a.boundById equipmentId = some b ->
        a.execute equipmentId name parameter = some r ->
          TellsTruth b.inner.view.commands name r.1) ∧
    ListsMapped ModbusAdapterConfig ModbusEquipmentMapping ModbusTcpSession name parameter ∧
    ListsMapped OpcUaAdapterConfig OpcUaEquipmentMapping UaClientHandle name parameter ∧
    ListsMapped RestAdapterConfig RestEquipmentMapping HttpSession name parameter ∧
    ListsMapped EtherNetIpAdapterConfig EtherNetIpEquipmentMapping EipSession name parameter ∧
    (forall text paho (a : MqttIndustrialAdapter) ids equipmentId b r,
      a.connectionState = .connected -> a.core.boundById equipmentId = some b ->
        a.execute text paho equipmentId name parameter ids = some r ->
          (TellsTruth b.inner.view.commands name r.1 <->
            (name ∈ EquipmentMapping.capabilities b.mapping ->
              name ∈ EquipmentMapping.commands b.mapping))) := by
  refine ⟨fun e => e.tellsTruth name parameter, fun c => c.tellsTruth name parameter,
    ?_, ?_, ?_, ?_, ?_, ?_⟩
  · intro a equipmentId b r hstate hb hr
    rcases Option.map_eq_some_iff.mp hr with ⟨d, hd, rfl⟩
    cases hd.symm.trans hb
    exact MockIndustrialAdapter.tellsTruth hstate b name parameter
  · refine listsMapped (fun lib _ command parameter m _ hstate => ?_) name parameter
    exact ModbusIndustrialAdapter.notSupported_runCommand lib command parameter m hstate
  · refine listsMapped (fun lib _ command parameter m _ hstate => ?_) name parameter
    exact OpcUaIndustrialAdapter.notSupported_runCommand lib command parameter m hstate
  · refine listsMapped (fun lib _ command parameter m _ hstate => ?_) name parameter
    exact RestIndustrialAdapter.notSupported_runCommand lib.text lib.curl command parameter m
      hstate
  · refine listsMapped (fun lib cfg command parameter m _ hstate => ?_) name parameter
    exact EtherNetIpIndustrialAdapter.notSupported_runCommand lib _ command parameter m hstate
  · exact fun text paho a ids equipmentId b r hstate hb hr =>
      MqttIndustrialAdapter.tellsTruth_iff hstate hb hr

def beltMachine : ModbusEquipmentMapping where
  id := "BELT-001"
  type := "belt_conveyor"
  capabilities := ["start", "speed_control"]
  commands := [⟨"start", makeModbusRef 1 .coil 0⟩]

def writable : Libmodbus where
  newTcp _ := true
  done _ := .ok ()
  bit _ := .ok 0
  word _ := .ok 0

def beltAdapter : ModbusIndustrialAdapter :=
  (ModbusIndustrialAdapter.connect writable
    (ModbusIndustrialAdapter.new "plc" { equipment := [beltMachine] })).2

theorem commands_tellTruth_iff_start :
    TellsTruth (BoundEquipment.bind beltMachine).inner.view.commands "start"
        (ModbusIndustrialAdapter.runCommand writable "start" Double.zero beltMachine
          beltAdapter.link).1 <->
      ("start" ∈ EquipmentMapping.capabilities beltMachine ->
        "start" ∈ EquipmentMapping.commands beltMachine) :=
  (commands_tellTruth_iff "start" Double.zero).right.right.right.left writable beltAdapter
    "BELT-001" (BoundEquipment.bind beltMachine) _ rfl rfl rfl

/-- The capability is listed, and rejected as an unknown command. -/
theorem not_tellsTruth_speedControl :
    beltAdapter.link.connectionState = .connected ∧
      exists b r, beltAdapter.boundById "BELT-001" = some b ∧
        ModbusIndustrialAdapter.execute writable beltAdapter "BELT-001" "speed_control"
          Double.one = some r ∧
        "speed_control" ∈ b.inner.view.commands ∧ r.1 = ⟨false, "unknown command"⟩ ∧
        ¬ TellsTruth b.inner.view.commands "speed_control" r.1 := by
  have hlisted : "speed_control" ∈ (BoundEquipment.bind beltMachine).inner.view.commands := by
    decide
  refine ⟨rfl, BoundEquipment.bind beltMachine, _, rfl, rfl, hlisted, rfl, ?_⟩
  intro htruth
  exact htruth.mp hlisted (notSupported_of_mem (by decide))

end VirtualFactory
