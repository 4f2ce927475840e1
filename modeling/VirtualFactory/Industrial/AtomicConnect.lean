import VirtualFactory.Industrial.Footprint
import VirtualFactory.Industrial.Mqtt.Subscribing

/-!
# Atomic connects

A connect that fails should leave the machines that an adapter exposes.  All adapters
see to it but the MQTT adapter whose broker refuses a subscription.
-/

namespace VirtualFactory

open Foundation

namespace IndustrialAdapter

variable {adapter device stimulus : Type}
  [IndustrialAdapter adapter device stimulus]

/-- A disconnected adapter exposes the same machines after a connect that is refused or
undone.  In the exempt cases the connect fails, and the adapter exposes machines that
were not there before. -/
structure FailsAtomically (obeys : adapter -> Prop)
    (exempt : device -> adapter -> ClientIds -> Prop) : Prop where
  refused : forall d a ids, obeys a -> connectionState a = .disconnected ->
    ¬ exempt d a ids -> (connect d a ids).1 = false ->
      exposedIds (connect d a ids).2.1 = exposedIds a
  undone : forall d a ids, obeys a -> connectionState a = .disconnected ->
    (connect d a ids).1 = true ->
      exposedIds (disconnect d (connect d a ids).2.1 (connect d a ids).2.2).1 =
        exposedIds a
  exposing : forall d a ids, obeys a -> connectionState a = .disconnected ->
    exempt d a ids -> (connect d a ids).1 = false ∧
      exists id, id ∈ exposedIds (connect d a ids).2.1 ∧ id ∉ exposedIds a

section

variable {left right device' stimulus' : Type}
  [IndustrialAdapter left device stimulus] [IndustrialAdapter right device' stimulus']

theorem FailsAtomically.elim {obeys : left -> Prop} {obeys' : right -> Prop}
    {exempt : device -> left -> ClientIds -> Prop}
    {exempt' : device' -> right -> ClientIds -> Prop}
    (h : FailsAtomically obeys exempt) (h' : FailsAtomically obeys' exempt') :
    FailsAtomically (Sum.elim obeys obeys' : left ⊕ right -> Prop)
      (fun d => Sum.elim (exempt d.1) (exempt' d.2)) where
  refused d a ids ha := by
    cases a with
    | inl a => exact h.refused d.1 a ids ha
    | inr a => exact h'.refused d.2 a ids ha
  undone d a ids ha := by
    cases a with
    | inl a => exact h.undone d.1 a ids ha
    | inr a => exact h'.undone d.2 a ids ha
  exposing d a ids ha := by
    cases a with
    | inl a => exact h.exposing d.1 a ids ha
    | inr a => exact h'.exposing d.2 a ids ha

end

end IndustrialAdapter

open IndustrialAdapter

namespace ProtocolAdapter

variable {config mapping session library : Type} [EquipmentMapping mapping]
  [ProtocolDriver config mapping session library]

theorem exposedIds_of_disconnected {a : ProtocolAdapter config mapping session}
    (h : connectionState a = .disconnected) : exposedIds a = [] := by
  have hstate : a.link.connectionState = .disconnected := h
  rw [exposedIds_eq]
  unfold exposedMappings exposedBound
  rw [if_pos hstate]
  rfl

theorem exposedIds_of_bound_nil {a : ProtocolAdapter config mapping session}
    (h : a.bound = []) : exposedIds a = [] := by
  rw [exposedIds_eq]
  unfold exposedMappings exposedBound
  rw [h]
  split <;> rfl

theorem Lived.bound_of_disconnected {a : ProtocolAdapter config mapping session}
    (h : a.Lived) (hstate : connectionState a = .disconnected) : a.bound = [] := by
  rcases h with ⟨l, hl⟩
  have hbound := hl.bound
  rw [hl.coherent.disconnected (hl.sameState.symm.trans hstate)] at hbound
  exact List.map_eq_nil_iff.mp hbound

theorem failsAtomically :
    FailsAtomically (Lived : ProtocolAdapter config mapping session -> Prop)
      (fun _ _ _ => False) where
  refused lib a ids ha hstate _ hfailed := by
    have hdown : a.link.connectionState ≠ .connected := by
      rw [show a.link.connectionState = .disconnected from hstate]
      decide
    rw [exposedIds_of_disconnected hstate]
    apply exposedIds_of_bound_nil
    rcases ProtocolDriver.connect_cases lib a hdown with ⟨hok, _⟩ | ⟨_, hrefused⟩
    · exact Bool.noConfusion (hok.symm.trans hfailed)
    · exact hrefused.bound.trans (ha.bound_of_disconnected hstate)
  undone lib a ids _ hstate _ := by
    rw [exposedIds_of_disconnected hstate]
    apply exposedIds_of_disconnected
    show (ProtocolDriver.disconnect _).link.connectionState = .disconnected
    rw [ProtocolDriver.disconnect_eq]
    rfl
  exposing _ _ _ _ _ h := h.elim

end ProtocolAdapter

namespace MockIndustrialAdapter

theorem exposedIds_of_disconnected {a : MockIndustrialAdapter}
    (h : connectionState a = .disconnected) : exposedIds a = [] := by
  rw [exposedIds_eq]
  unfold exposedBound
  rw [if_pos h]
  rfl

theorem failsAtomically : FailsAtomically BindsDevices (fun _ _ _ => False) where
  refused _ a ids _ hstate _ hfailed := by
    have hconnects : a.connect.1 = true := by
      unfold MockIndustrialAdapter.connect
      rw [show a.connectionState = .disconnected from hstate]
    exact Bool.noConfusion (hconnects.symm.trans hfailed)
  undone _ a ids _ hstate _ := by
    rw [exposedIds_of_disconnected hstate]
    exact exposedIds_of_disconnected rfl
  exposing _ _ _ _ _ h := h.elim

end MockIndustrialAdapter

namespace FieldbusAdapter

variable {bus : Fieldbus}

theorem failsAtomically :
    FailsAtomically (BindsConfigured : FieldbusAdapter bus -> Prop)
      (fun _ _ _ => False) where
  refused sdk a ids _ hstate _ _ := by
    rw [FieldbusAdapter.exposedIds_eq, FieldbusAdapter.exposedIds_eq]
    have hbound : (a.connect sdk).2.core.bound = a.core.bound :=
      (FieldbusAdapter.operate_same ⟨.connect, sdk⟩ a ids).1
    show List.map _ (a.connect sdk).2.core.bound = _
    rw [hbound]
  undone sdk a ids _ hstate hconnects := by
    have hdown : a.connectionState ≠ .connected := by
      rw [show a.connectionState = .disconnected from hstate]
      decide
    exact Bool.noConfusion
      ((FieldbusAdapter.connect_refused sdk hdown).1.symm.trans hconnects)
  exposing _ _ _ _ _ h := h.elim

end FieldbusAdapter

namespace MqttIndustrialAdapter

theorem exposedIds_of_disconnected {a : MqttIndustrialAdapter}
    (h : connectionState a = .disconnected) : exposedIds a = [] := by
  have hstate : a.core.link.connectionState = .disconnected := h
  rw [MqttIndustrialAdapter.exposedIds_eq]
  unfold ProtocolAdapter.exposedMappings ProtocolAdapter.exposedBound
  rw [if_pos hstate]
  rfl

theorem FaultedWith.exposedIds {mappings : List MqttEquipmentMapping}
    {a : MqttIndustrialAdapter} (h : FaultedWith mappings a) :
    IndustrialAdapter.exposedIds a = mappings.map MqttEquipmentMapping.id := by
  rw [MqttIndustrialAdapter.exposedIds_eq,
    ProtocolAdapter.exposedMappings_of_not_disconnected, h.bound]
  · rfl
  · show a.connectionState ≠ .disconnected
    rw [h.faulted]
    decide

theorem failsAtomically :
    FailsAtomically (fun a : MqttIndustrialAdapter => Binds a.config a)
      (fun lib a ids => SubscribeFails lib.paho a ids) where
  refused lib a ids ha hstate hexempt hfailed := by
    rcases connect_of_disconnected lib.paho ha hstate ids with
      ⟨hfails, _⟩ | ⟨_, hfaulted⟩
    · exact absurd hfails hexempt
    · rw [exposedIds_of_disconnected hstate]
      exact (hfaulted hfailed).exposedIds
  undone lib a ids _ hstate _ := by
    rw [exposedIds_of_disconnected hstate]
    exact exposedIds_of_disconnected rfl
  exposing lib a ids ha hstate hfails := by
    rcases connect_of_disconnected lib.paho ha hstate ids with
      ⟨_, hfailed, hfaulted⟩ | ⟨hnot, _⟩
    · refine ⟨hfailed, ?_⟩
      rcases List.exists_mem_of_ne_nil _ hfails.equipment_ne_nil with ⟨m, hm⟩
      refine ⟨m.id, ?_, ?_⟩
      · have hids := hfaulted.exposedIds
        show m.id ∈ IndustrialAdapter.exposedIds (a.connect lib.paho ids).2.1
        rw [hids]
        exact List.mem_map_of_mem hm
      · rw [exposedIds_of_disconnected hstate]
        exact List.not_mem_nil
    · exact absurd hfails hnot

end MqttIndustrialAdapter

end VirtualFactory
