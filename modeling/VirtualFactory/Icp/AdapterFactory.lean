import VirtualFactory.Industrial.AdapterSum
import VirtualFactory.Industrial.EtherNetIp
import VirtualFactory.Industrial.Fieldbus
import VirtualFactory.Industrial.Mock
import VirtualFactory.Industrial.Modbus
import VirtualFactory.Industrial.Mqtt.Adapter
import VirtualFactory.Industrial.OpcUa
import VirtualFactory.Industrial.Rest

/-!
# The adapter factory

The kinds of adapters a runtime can hold.
-/

namespace VirtualFactory
namespace Icp

abbrev Adapter :=
  MockIndustrialAdapter ⊕ OpcUaIndustrialAdapter ⊕ ModbusIndustrialAdapter ⊕
    RestIndustrialAdapter ⊕ MqttIndustrialAdapter ⊕ EtherNetIpIndustrialAdapter ⊕
    ProfinetIndustrialAdapter ⊕ ProfibusIndustrialAdapter

/-- The libraries behind adapters of all kinds. -/
abbrev AdapterDevice :=
  Unit × Open62541 × Libmodbus × RestLib × MqttLib × Libplctag × HilscherSdk ×
    HilscherSdk

abbrev AdapterStimulus :=
  MockStimulus ⊕ Empty ⊕ Empty ⊕ Empty ⊕ PahoCallback ⊕ Empty ⊕ Empty ⊕ Empty

namespace Adapter

@[match_pattern] abbrev mock (a : MockIndustrialAdapter) : Adapter :=
  .inl a

@[match_pattern] abbrev opcUa (a : OpcUaIndustrialAdapter) : Adapter :=
  .inr (.inl a)

@[match_pattern] abbrev modbus (a : ModbusIndustrialAdapter) : Adapter :=
  .inr (.inr (.inl a))

@[match_pattern] abbrev rest (a : RestIndustrialAdapter) : Adapter :=
  .inr (.inr (.inr (.inl a)))

@[match_pattern] abbrev mqtt (a : MqttIndustrialAdapter) : Adapter :=
  .inr (.inr (.inr (.inr (.inl a))))

@[match_pattern] abbrev etherNetIp (a : EtherNetIpIndustrialAdapter) : Adapter :=
  .inr (.inr (.inr (.inr (.inr (.inl a)))))

@[match_pattern] abbrev profinet (a : ProfinetIndustrialAdapter) : Adapter :=
  .inr (.inr (.inr (.inr (.inr (.inr (.inl a))))))

@[match_pattern] abbrev profibus (a : ProfibusIndustrialAdapter) : Adapter :=
  .inr (.inr (.inr (.inr (.inr (.inr (.inr a))))))

end Adapter

namespace AdapterFactory

def createMock (id : String) : Adapter :=
  .mock (MockIndustrialAdapter.new id)

def createOpcUa (id : String) (config : OpcUaAdapterConfig) : Adapter :=
  .opcUa (OpcUaIndustrialAdapter.new id config)

def createModbus (id : String) (config : ModbusAdapterConfig) : Adapter :=
  .modbus (ModbusIndustrialAdapter.new id config)

def createRest (id : String) (config : RestAdapterConfig) : Adapter :=
  .rest (RestIndustrialAdapter.new id config)

def createMqtt (id : String) (config : MqttAdapterConfig) : Adapter :=
  .mqtt (MqttIndustrialAdapter.new id config)

def createEtherNetIp (id : String) (config : EtherNetIpAdapterConfig) : Adapter :=
  .etherNetIp (EtherNetIpIndustrialAdapter.new id config)

def createProfinet (id : String) (config : FieldbusConfig) : Adapter :=
  .profinet (FieldbusAdapter.new id config)

def createProfibus (id : String) (config : FieldbusConfig) : Adapter :=
  .profibus (FieldbusAdapter.new id config)

end AdapterFactory

end Icp
end VirtualFactory
