import VirtualFactory.Industrial.Mqtt.ClientIds

/-!
# The machines of an MQTT adapter

The adapter binds the configured machines when it connects, and keeps them until it is
disconnected.  Its client uses the configured identifier if there is one.
-/

namespace VirtualFactory

open Foundation IndustrialAdapter

namespace MqttIndustrialAdapter

structure Binds (config : MqttAdapterConfig) (a : MqttIndustrialAdapter) : Prop where
  sameConfig : a.config = config
  settled : a.Settled
  bound : a.core.bound = [] ∨
    a.core.bound.map BoundEquipment.mapping = config.equipment
  hidden : a.connectionState = .disconnected -> a.core.bound = []
  opened : a.connectionState = .connected ->
    a.core.bound.map BoundEquipment.mapping = config.equipment
  client : config.clientId ≠ "" -> a.connectionState = .connected ->
    a.activeClientId = config.clientId

theorem map_mapping_bind (ms : List MqttEquipmentMapping) :
    (ms.map BoundEquipment.bind).map BoundEquipment.mapping = ms := by
  rw [List.map_map]
  exact List.map_id _

theorem Binds.map_boundForSession {config : MqttAdapterConfig}
    {a : MqttIndustrialAdapter} (h : Binds config a) :
    a.boundForSession.map BoundEquipment.mapping = config.equipment := by
  unfold boundForSession
  split
  · rename_i hreuse
    rcases h.bound with hnone | hmappings
    · rw [hnone] at hreuse
      cases hreuse.1
    · exact hmappings
  · rw [map_mapping_bind, h.sameConfig]

theorem binds_new (id : String) (config : MqttAdapterConfig) :
    Binds config (MqttIndustrialAdapter.new id config) where
  sameConfig := rfl
  settled := ⟨fun h => absurd rfl h, fun h => ConnectionState.noConfusion h⟩
  bound := Or.inl rfl
  hidden _ := rfl
  opened h := ConnectionState.noConfusion h
  client _ h := ConnectionState.noConfusion h

theorem Stays.binds {config : MqttAdapterConfig} {a b : MqttIndustrialAdapter}
    (h : Stays a b) (ha : Binds config a)
    (hmappings : b.core.bound.map BoundEquipment.mapping =
      a.core.bound.map BoundEquipment.mapping) : Binds config b where
  sameConfig := h.sameConfig.trans ha.sameConfig
  settled := h.settled ha.settled
  bound := by
    rcases ha.bound with hnone | hbound
    · left
      rw [hnone, List.map_nil] at hmappings
      exact List.map_eq_nil_iff.mp hmappings
    · exact Or.inr (hmappings.trans hbound)
  hidden hstate := by
    have hnone := ha.hidden (h.sameState.symm.trans hstate)
    rw [hnone, List.map_nil] at hmappings
    exact List.map_eq_nil_iff.mp hmappings
  opened hstate := hmappings.trans (ha.opened (h.sameState.symm.trans hstate))
  client hclient hstate := by
    rw [h.sameClient]
    exact ha.client hclient (h.sameState.symm.trans hstate)

theorem Faults.binds {config : MqttAdapterConfig} {a b : MqttIndustrialAdapter}
    (h : Faults a b) (ha : Binds config a)
    (hmappings : b.core.bound.map BoundEquipment.mapping =
        a.core.bound.map BoundEquipment.mapping ∨
      b.core.bound.map BoundEquipment.mapping = config.equipment) :
    Binds config b where
  sameConfig := h.sameConfig.trans ha.sameConfig
  settled := h.settled
  bound := by
    rcases hmappings with hsame | hbound
    · rcases ha.bound with hnone | hbound
      · left
        rw [hnone, List.map_nil] at hsame
        exact List.map_eq_nil_iff.mp hsame
      · exact Or.inr (hsame.trans hbound)
    · exact Or.inr hbound
  hidden hstate := by
    rw [h.faulted] at hstate
    cases hstate
  opened hstate := by
    rw [h.faulted] at hstate
    cases hstate
  client _ hstate := by
    rw [h.faulted] at hstate
    cases hstate

theorem binds_of_operated {config : MqttAdapterConfig}
    {a b : MqttIndustrialAdapter} {ids ids' : ClientIds}
    (h : MqttIndustrialAdapter.Operated a ids b ids') (ha : Binds config a)
    (hmappings : b.core.bound.map BoundEquipment.mapping =
      a.core.bound.map BoundEquipment.mapping) : Binds config b := by
  rcases h with ⟨hstays, _⟩ | ⟨hfaults, _⟩
  · exact hstays.binds ha hmappings
  · exact hfaults.binds ha (Or.inl hmappings)

theorem binds_connect (paho : Paho) {config : MqttAdapterConfig}
    {a : MqttIndustrialAdapter} (ha : Binds config a) (ids : ClientIds) :
    Binds config (a.connect paho ids).2.1 := by
  by_cases hstate : a.connectionState = .connected
  · unfold connect
    rw [if_pos hstate]
    exact ha
  · have hout := connect_outcome paho hstate ids
    have hsession := ha.map_boundForSession
    generalize a.connect paho ids = r at hout ⊢
    rcases r with ⟨ok, b, ids'⟩
    cases hout with
    | refused serial hfaults hbound => exact hfaults.binds ha (Or.inl (by rw [hbound]))
    | failed serial hfaults hbound =>
        refine hfaults.binds ha ?_
        rcases hbound with hsame | hbound
        · exact Or.inl (by rw [hsame])
        · exact Or.inr (by rw [hbound, hsession])
    | opened serial _ sameConfig connected _ client hbound =>
        have hmappings : b.core.bound.map BoundEquipment.mapping =
            config.equipment := by rw [hbound, hsession]
        have hresolved := a.resolveClientId_ne_empty ids
        exact
          { sameConfig := sameConfig.trans ha.sameConfig
            settled := by
              unfold Settled
              rw [client, connected]
              simpa using hresolved
            bound := Or.inr hmappings
            hidden := fun h => by
              rw [connected] at h
              cases h
            opened := fun _ => hmappings
            client := fun hclient _ => by
              rw [client]
              unfold resolveClientId
              rw [ha.sameConfig, if_pos hclient] }

theorem stable_binds (config : MqttAdapterConfig) : Stable (Binds config) := by
  rintro ⟨operation, lib⟩ a ids ha
  cases operation with
  | connect => exact binds_connect lib.paho ha ids
  | disconnect =>
      exact
        { sameConfig := ha.sameConfig
          settled :=
            ⟨fun h => absurd rfl h, fun h => ConnectionState.noConfusion h⟩
          bound := Or.inl rfl
          hidden := fun _ => rfl
          opened := fun h => ConnectionState.noConfusion h
          client := fun _ h => ConnectionState.noConfusion h }
  | poll =>
      show Binds config (a.poll lib.text lib.paho ids).1
      by_cases hstate : a.connectionState = .connected
      · rw [poll_of_connected lib.text lib.paho hstate]
        exact binds_of_operated (pollLoop_operated lib.text lib.paho _ _ a ids) ha
          (pollLoop_mappings lib.text lib.paho _ _ a ids)
      · unfold poll
        rw [if_pos hstate]
        split
        · exact ⟨ha.sameConfig, ha.settled, ha.bound, ha.hidden, ha.opened, ha.client⟩
        · exact ha
  | execute equipmentId command parameter =>
      cases hr : IndustrialAdapter.execute lib a equipmentId command parameter ids with
      | none =>
          rw [operate_execute_of_none hr]
          exact ha
      | some r =>
          rw [operate_execute_of_some hr]
          rcases execute_some hr with ⟨b, _, hrun⟩
          have hrunning := runCommand_operated lib.text lib.paho command parameter
            b.mapping a ids
          rw [hrun] at hrunning
          exact binds_of_operated hrunning.1 ha (by rw [hrunning.2])
  | stimulate c => exact (stays_withSession a _).binds ha rfl

theorem Binds.exposedIds_subset {config : MqttAdapterConfig}
    {a : MqttIndustrialAdapter} (h : Binds config a) :
    exposedIds a ⊆ config.equipment.map MqttEquipmentMapping.id := by
  rw [MqttIndustrialAdapter.exposedIds_eq]
  intro id hid
  unfold ProtocolAdapter.exposedMappings ProtocolAdapter.exposedBound at hid
  split at hid
  · cases hid
  · rcases h.bound with hnone | hmappings
    · rw [hnone] at hid
      cases hid
    · rw [hmappings] at hid
      exact hid

end MqttIndustrialAdapter

end VirtualFactory
