import VirtualFactory.Icp.AdapterFactory
import VirtualFactory.Industrial.Exposure

/-!
# Adapters of all kinds

What the factory builds, what the operations make of it, and what it touches.
-/

namespace VirtualFactory

/-- A mock adapter whose devices have been set up. -/
inductive MockIndustrialAdapter.SetUp : MockIndustrialAdapter -> Prop
  | new (id : String) : SetUp (MockIndustrialAdapter.new id)
  | addDevice {a : MockIndustrialAdapter} (equipmentId type : String) (h : SetUp a) :
      SetUp (a.addDevice equipmentId type)
  | addCapability {a : MockIndustrialAdapter} (equipmentId capability : String)
      (h : SetUp a) : SetUp (a.addCapability equipmentId capability)
  | setSourceTelemetry {a : MockIndustrialAdapter} (equipmentId name : String)
      (value : Double) (unit : String) (h : SetUp a) :
      SetUp (a.setSourceTelemetry equipmentId name value unit)

theorem MockIndustrialAdapter.SetUp.unbound {a : MockIndustrialAdapter}
    (h : a.SetUp) : a.bound = [] ∧ a.connectionState = .disconnected := by
  induction h with
  | new => exact ⟨rfl, rfl⟩
  | @addDevice a equipmentId type _ ih =>
      unfold MockIndustrialAdapter.addDevice
      split
      · exact ih
      · exact ih
  | addCapability _ _ _ ih => exact ih
  | setSourceTelemetry _ _ _ _ _ ih => exact ih

namespace Icp

open Foundation IndustrialAdapter

/-- The adapters that the factory builds.  A mock adapter may have been set up. -/
inductive Created : Adapter -> Prop
  | mock {a : MockIndustrialAdapter} (h : a.SetUp) : Created (.mock a)
  | opcUa (id : String) (config : OpcUaAdapterConfig) :
      Created (AdapterFactory.createOpcUa id config)
  | modbus (id : String) (config : ModbusAdapterConfig) :
      Created (AdapterFactory.createModbus id config)
  | rest (id : String) (config : RestAdapterConfig) :
      Created (AdapterFactory.createRest id config)
  | mqtt (id : String) (config : MqttAdapterConfig) :
      Created (AdapterFactory.createMqtt id config)
  | etherNetIp (id : String) (config : EtherNetIpAdapterConfig) :
      Created (AdapterFactory.createEtherNetIp id config)
  | profinet (id : String) (config : FieldbusConfig) :
      Created (AdapterFactory.createProfinet id config)
  | profibus (id : String) (config : FieldbusConfig) :
      Created (AdapterFactory.createProfibus id config)

/-- What operations make of the adapters that the factory builds. -/
abbrev Genuine : Adapter -> Prop :=
  Operated Created

namespace Adapter

/-- A property of adapters of all kinds. -/
abbrev cases {value : Type} (mock : MockIndustrialAdapter -> value)
    (opcUa : OpcUaIndustrialAdapter -> value)
    (modbus : ModbusIndustrialAdapter -> value) (rest : RestIndustrialAdapter -> value)
    (mqtt : MqttIndustrialAdapter -> value)
    (etherNetIp : EtherNetIpIndustrialAdapter -> value)
    (profinet : ProfinetIndustrialAdapter -> value)
    (profibus : ProfibusIndustrialAdapter -> value) : Adapter -> value :=
  Sum.elim mock (Sum.elim opcUa (Sum.elim modbus (Sum.elim rest (Sum.elim mqtt
    (Sum.elim etherNetIp (Sum.elim profinet profibus))))))

/-- What holds of the machines of every adapter: they are configured ones. -/
def BindsConfigured : Adapter -> Prop :=
  cases MockIndustrialAdapter.BindsDevices ProtocolAdapter.Lived ProtocolAdapter.Lived
    ProtocolAdapter.Lived (fun a => MqttIndustrialAdapter.Binds a.config a)
    ProtocolAdapter.Lived FieldbusAdapter.BindsConfigured
    FieldbusAdapter.BindsConfigured

theorem stable_bindsConfigured : Stable BindsConfigured :=
  stable_elim MockIndustrialAdapter.stable_bindsDevices
    (stable_elim ProtocolAdapter.footprint.stable
      (stable_elim ProtocolAdapter.footprint.stable
        (stable_elim ProtocolAdapter.footprint.stable
          (stable_elim MqttIndustrialAdapter.stable_binds_config
            (stable_elim ProtocolAdapter.footprint.stable
              (stable_elim FieldbusAdapter.footprint.stable
                FieldbusAdapter.footprint.stable))))))

theorem bindsConfigured_of_created {a : Adapter} (h : Created a) :
    BindsConfigured a := by
  cases h with
  | @mock a h =>
      show a.bound.map _ ⊆ _
      rw [h.unbound.1]
      exact List.nil_subset _
  | opcUa id config => exact ProtocolAdapter.lived_create id config _
  | modbus id config => exact ProtocolAdapter.lived_create id config _
  | rest id config => exact ProtocolAdapter.lived_create id config _
  | mqtt id config => exact MqttIndustrialAdapter.binds_new id config
  | etherNetIp id config => exact ProtocolAdapter.lived_create id config _
  | profinet id config => exact FieldbusAdapter.bindsConfigured_new id config
  | profibus id config => exact FieldbusAdapter.bindsConfigured_new id config

theorem bindsConfigured_of_genuine {a : Adapter} (h : Genuine a) : BindsConfigured a :=
  h.invariant stable_bindsConfigured (fun _ => bindsConfigured_of_created)

/-!
# The footprint
-/

def configuredIds : Adapter -> List String :=
  cases MockIndustrialAdapter.configuredIds ProtocolAdapter.configuredIds
    ProtocolAdapter.configuredIds ProtocolAdapter.configuredIds
    MqttIndustrialAdapter.configuredIds ProtocolAdapter.configuredIds
    FieldbusAdapter.configuredIds FieldbusAdapter.configuredIds

def clientKeys : Adapter -> Set String :=
  cases (fun _ => ∅) (fun _ => ∅) (fun _ => ∅) (fun _ => ∅)
    MqttIndustrialAdapter.clientKeys (fun _ => ∅) (fun _ => ∅) (fun _ => ∅)

/-- An adapter with configured machines and, if it is an MQTT client, a configured
client identifier. -/
def Settled : Adapter -> Prop :=
  cases MockIndustrialAdapter.BindsDevices ProtocolAdapter.Lived ProtocolAdapter.Lived
    ProtocolAdapter.Lived MqttIndustrialAdapter.Named ProtocolAdapter.Lived
    FieldbusAdapter.BindsConfigured FieldbusAdapter.BindsConfigured

theorem settled_of_genuine {a : Adapter} (h : Genuine a)
    (hnamed : forall m : MqttIndustrialAdapter, a = .mqtt m -> m.config.clientId ≠ "") :
    Settled a := by
  have hbinds := bindsConfigured_of_genuine h
  match a, hbinds with
  | .mock _, hbinds => exact hbinds
  | .opcUa _, hbinds => exact hbinds
  | .modbus _, hbinds => exact hbinds
  | .rest _, hbinds => exact hbinds
  | .mqtt m, hbinds => exact ⟨hbinds, hnamed m rfl⟩
  | .etherNetIp _, hbinds => exact hbinds
  | .profinet _, hbinds => exact hbinds
  | .profibus _, hbinds => exact hbinds

theorem footprint : Footprint Settled configuredIds clientKeys := by
  unfold Settled configuredIds clientKeys
  refine Footprint.elim MockIndustrialAdapter.footprint ?_
  refine Footprint.elim ProtocolAdapter.footprint ?_
  refine Footprint.elim ProtocolAdapter.footprint ?_
  refine Footprint.elim ProtocolAdapter.footprint ?_
  refine Footprint.elim MqttIndustrialAdapter.footprint ?_
  refine Footprint.elim ProtocolAdapter.footprint ?_
  exact Footprint.elim FieldbusAdapter.footprint FieldbusAdapter.footprint

theorem exists_of_mem_clientKeys {a : Adapter} {key : String}
    (h : key ∈ a.clientKeys) :
    exists m : MqttIndustrialAdapter, a = .mqtt m ∧
      key = clientKey m.config.host m.config.port m.config.clientId := by
  have hnone : key ∉ (∅ : Set String) := Set.notMem_empty key
  match a with
  | .mock _ => exact absurd h hnone
  | .opcUa _ => exact absurd h hnone
  | .modbus _ => exact absurd h hnone
  | .rest _ => exact absurd h hnone
  | .mqtt m => exact ⟨m, rfl, h⟩
  | .etherNetIp _ => exact absurd h hnone
  | .profinet _ => exact absurd h hnone
  | .profibus _ => exact absurd h hnone

end Adapter

end Icp
end VirtualFactory
