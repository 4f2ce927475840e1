import VirtualFactory.Industrial.Usage.Modbus
import VirtualFactory.Industrial.Usage.Mqtt
import VirtualFactory.Industrial.Usage.OpcUa
import VirtualFactory.Industrial.Usage.Rest

/-!
# The libraries behind the adapters

The four sessions that hold one handle of a library are used properly in every run of
their adapters.
-/

namespace VirtualFactory

open Foundation

namespace ProtocolAdapter

/-- Contexts, clients and handles are created for the configured endpoint, used while they
are held, and released once; only what the configuration maps is read, written,
subscribed or published. -/
theorem adapters_use_properly :
    (forall id cfg, AlwaysUsesProperly (ModbusIndustrialAdapter.new id cfg)) ∧
      (forall id cfg, AlwaysUsesProperly (OpcUaIndustrialAdapter.new id cfg)) ∧
      (forall id cfg, AlwaysUsesProperly (RestIndustrialAdapter.new id cfg)) ∧
      (forall id cfg, MqttIndustrialAdapter.AlwaysUsesProperly cfg
        (MqttIndustrialAdapter.new id cfg)) := by
  refine ⟨?modbus, ?opcUa, ?rest, MqttIndustrialAdapter.alwaysUsesProperly_new⟩
  case modbus =>
    intro id cfg
    exact alwaysUsesProperly (lived_create id cfg _) fun lib =>
      ⟨Usage.holds_nil _, fun _ => trivial, fun _ => rfl⟩
  case opcUa =>
    intro id cfg
    exact alwaysUsesProperly (lived_create id cfg _) fun lib =>
      ⟨Usage.holds_nil _, fun _ => trivial, fun _ => rfl⟩
  case rest =>
    intro id cfg
    exact alwaysUsesProperly (lived_create id cfg _) fun lib =>
      ⟨Usage.holds_nil _, fun hstate => ConnectionState.noConfusion hstate, fun _ => rfl⟩

end ProtocolAdapter

end VirtualFactory
