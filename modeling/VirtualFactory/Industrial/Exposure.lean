import VirtualFactory.Industrial.AtomicConnect
import VirtualFactory.Industrial.Mqtt.Footprint

/-!
# When adapters expose their machines

A connected adapter exposes its configured machines and a disconnected one exposes
none.  The fieldbus adapters expose theirs all the time.
-/

namespace VirtualFactory

open Foundation IndustrialAdapter

namespace IndustrialAdapter

variable {adapter device stimulus : Type}
  [IndustrialAdapter adapter device stimulus]

/-- An adapter that is connected exposes its configured machines, and one that accepts
a connect is connected. -/
structure ConnectsFully (obeys : adapter -> Prop)
    (configuredIds : adapter -> List String) : Prop where
  stable : Stable obeys
  sameIds : forall d a ids, obeys a ->
    configuredIds (connect d a ids).2.1 = configuredIds a
  accepted : forall d a ids, obeys a -> (connect d a ids).1 = true ->
    connectionState (connect d a ids).2.1 = .connected
  exposes : forall a, obeys a -> connectionState a = .connected ->
    exposedIds a = configuredIds a

section

variable {left right device' stimulus' : Type}
  [IndustrialAdapter left device stimulus] [IndustrialAdapter right device' stimulus']

theorem ConnectsFully.elim {obeys : left -> Prop} {obeys' : right -> Prop}
    {configuredIds : left -> List String} {configuredIds' : right -> List String}
    (h : ConnectsFully obeys configuredIds) (h' : ConnectsFully obeys' configuredIds') :
    ConnectsFully (Sum.elim obeys obeys' : left ⊕ right -> Prop)
      (Sum.elim configuredIds configuredIds') where
  stable := stable_elim h.stable h'.stable
  sameIds d a ids ha := by
    cases a with
    | inl a => exact h.sameIds d.1 a ids ha
    | inr a => exact h'.sameIds d.2 a ids ha
  accepted d a ids ha := by
    cases a with
    | inl a => exact h.accepted d.1 a ids ha
    | inr a => exact h'.accepted d.2 a ids ha
  exposes a ha := by
    cases a with
    | inl a => exact h.exposes a ha
    | inr a => exact h'.exposes a ha

end

end IndustrialAdapter

namespace ProtocolAdapter

variable {config mapping session library : Type} [EquipmentMapping mapping]
  [ProtocolDriver config mapping session library]

theorem Lived.exposedIds_of_connected {a : ProtocolAdapter config mapping session}
    (h : a.Lived) (hstate : connectionState a = .connected) :
    exposedIds a = a.configuredIds := by
  rcases h with ⟨l, hl⟩
  rw [hl.lives.exposedIds, (hl.lives.connected hstate).2.2]
  rfl

theorem connectsFully :
    ConnectsFully (Lived : ProtocolAdapter config mapping session -> Prop)
      ProtocolAdapter.configuredIds where
  stable := footprint.stable
  sameIds lib a ids ha := footprint.sameIds ⟨.connect, lib⟩ a ids ha
  accepted lib a ids _ haccepted := by
    have haccepted' : (ProtocolDriver.connect lib a).1 = true := haccepted
    show (ProtocolDriver.connect lib a).2.link.connectionState = .connected
    by_cases hstate : a.link.connectionState = .connected
    · rw [ProtocolDriver.connect_of_connected lib a hstate]
      exact hstate
    · rcases ProtocolDriver.connect_cases lib a hstate with ⟨_, hopened⟩ | ⟨hfailed, _⟩
      · exact hopened.up.connected
      · cases hfailed.symm.trans haccepted'
  exposes a ha hstate := ha.exposedIds_of_connected hstate

end ProtocolAdapter

namespace MockIndustrialAdapter

/-- A connected adapter has a machine for every device. -/
def BindsAll (a : MockIndustrialAdapter) : Prop :=
  a.connectionState = .connected ->
    a.bound.map (fun b => b.inner.id) = a.configuredIds

theorem bindsAll_of_not_connected {a : MockIndustrialAdapter}
    (h : a.connectionState ≠ .connected) : a.BindsAll :=
  fun hstate => absurd hstate h

theorem bindsAll_connect {a : MockIndustrialAdapter} (h : a.BindsAll) :
    a.connect.2.BindsAll := by
  unfold connect
  cases hstate : a.connectionState with
  | connected => exact h
  | faulted => exact bindsAll_of_not_connected (by simp)
  | disconnected =>
      intro _
      exact map_id_bindDevice a.devices 0

theorem bindsAll_poll {a : MockIndustrialAdapter} (h : a.BindsAll) :
    a.poll.BindsAll := by
  by_cases hstate : a.connectionState = .connected
  · rw [poll_of_connected hstate]
    intro _
    show (a.bound.map (copySourceTelemetry a.devices)).map _ = a.configuredIds
    rw [List.map_map, ← h hstate]
    exact List.map_congr_left (fun b _ => copySourceTelemetry_id a.devices b)
  · apply bindsAll_of_not_connected
    unfold poll
    rw [if_pos hstate]
    split
    · exact hstate
    · exact hstate

theorem bindsAll_stimulate (s : MockStimulus) {a : MockIndustrialAdapter}
    (h : a.BindsAll) : (a.stimulate s).BindsAll := by
  cases s with
  | setSourceTelemetry equipmentId name value unit =>
      intro hstate
      exact (h hstate).trans (map_id_setSourceTelemetry a equipmentId name value unit).symm
  | simulateCommunicationFailure reason =>
      exact bindsAll_of_not_connected (fun hstate => ConnectionState.noConfusion hstate)
  | clearCommunicationFailure =>
      show a.clearCommunicationFailure.BindsAll
      unfold clearCommunicationFailure
      split
      · exact bindsAll_of_not_connected (fun hstate => ConnectionState.noConfusion hstate)
      · exact h

theorem stable_bindsAll : Stable BindsAll := by
  intro event a ids h
  rcases event with ⟨operation, d⟩
  cases operation with
  | connect => exact bindsAll_connect h
  | disconnect =>
      exact bindsAll_of_not_connected (fun hstate => ConnectionState.noConfusion hstate)
  | poll => exact bindsAll_poll h
  | execute equipmentId command parameter =>
      cases hr : IndustrialAdapter.execute d a equipmentId command parameter ids with
      | none =>
          rw [operate_execute_of_none hr]
          exact h
      | some r =>
          rw [operate_execute_of_some hr]
          rcases Option.map_eq_some_iff.mp hr with ⟨q, hq, rfl⟩
          rcases Option.map_eq_some_iff.mp hq with ⟨b, _, rfl⟩
          have hsame := runCommand_same command parameter b a
          intro hstate
          show List.map _ (runCommand command parameter b a).2.bound =
            (runCommand command parameter b a).2.devices.map MockDeviceConfig.id
          rw [hsame.2.2.2.1, hsame.2.2.2.2]
          exact h (hsame.2.1.symm.trans hstate)
  | stimulate s => exact bindsAll_stimulate s h

theorem BindsAll.exposedIds_of_connected {a : MockIndustrialAdapter} (h : a.BindsAll)
    (hstate : connectionState a = .connected) : exposedIds a = a.configuredIds := by
  have hup : a.connectionState ≠ .disconnected := by
    rw [show a.connectionState = .connected from hstate]
    decide
  rw [exposedIds_eq]
  unfold exposedBound
  rw [if_neg hup]
  exact h hstate

theorem connectsFully : ConnectsFully BindsAll MockIndustrialAdapter.configuredIds where
  stable := stable_bindsAll
  sameIds _ a ids _ := configuredIds_operate ⟨.connect, ()⟩ a ids
  accepted _ a ids _ haccepted := by
    have haccepted' : a.connect.1 = true := haccepted
    show a.connect.2.connectionState = .connected
    unfold MockIndustrialAdapter.connect at haccepted' ⊢
    cases hstate : a.connectionState with
    | connected => exact hstate
    | disconnected => rfl
    | faulted =>
        rw [hstate] at haccepted'
        cases haccepted'
  exposes a ha hstate := ha.exposedIds_of_connected hstate

end MockIndustrialAdapter

namespace MqttIndustrialAdapter

theorem Binds.exposedIds_of_connected {a : MqttIndustrialAdapter}
    (h : Binds a.config a) (hstate : connectionState a = .connected) :
    exposedIds a = a.configuredIds := by
  have hup : a.core.link.connectionState = .connected := hstate
  rw [MqttIndustrialAdapter.exposedIds_eq,
    ProtocolAdapter.exposedMappings_of_not_disconnected (by rw [hup]; decide),
    h.opened hstate]
  rfl

theorem stable_binds_config :
    Stable (fun a : MqttIndustrialAdapter => Binds a.config a) := by
  intro event a ids h
  have hbinds := stable_binds a.config event a ids h
  have hconfig := hbinds.sameConfig
  show Binds (operate event (a, ids)).2.1.config _
  rw [hconfig]
  exact hbinds

theorem connectsFully :
    ConnectsFully (fun a : MqttIndustrialAdapter => Binds a.config a)
      configuredIds where
  stable := stable_binds_config
  sameIds lib a ids ha := by
    have hbinds := stable_binds a.config ⟨.connect, lib⟩ a ids ha
    have hconfig : (a.connect lib.paho ids).2.1.config = a.config := hbinds.sameConfig
    show (a.connect lib.paho ids).2.1.config.equipment.map _ = _
    rw [hconfig]
    rfl
  accepted lib a ids _ haccepted := by
    have haccepted' : (a.connect lib.paho ids).1 = true := haccepted
    show (a.connect lib.paho ids).2.1.connectionState = .connected
    by_cases hstate : a.connectionState = .connected
    · unfold MqttIndustrialAdapter.connect
      rw [if_pos hstate]
      exact hstate
    · have hout := connect_outcome lib.paho hstate ids
      generalize a.connect lib.paho ids = r at haccepted' hout ⊢
      rcases r with ⟨ok, b, ids'⟩
      cases hout with
      | refused => cases haccepted'
      | failed => cases haccepted'
      | opened _ _ _ connected => exact connected
  exposes a ha hstate := ha.exposedIds_of_connected hstate

end MqttIndustrialAdapter

namespace FieldbusAdapter

theorem BindsConfigured.exposedIds_eq {bus : Fieldbus} {a : FieldbusAdapter bus}
    (h : a.BindsConfigured) : exposedIds a = a.configuredIds := by
  rw [FieldbusAdapter.exposedIds_eq, configuredIds, ← h, List.map_map]
  rfl

theorem connectsFully {bus : Fieldbus} :
    ConnectsFully (BindsConfigured : FieldbusAdapter bus -> Prop) configuredIds where
  stable := footprint.stable
  sameIds sdk a ids ha := footprint.sameIds ⟨.connect, sdk⟩ a ids ha
  accepted sdk a ids _ haccepted := by
    have haccepted' : (a.connect sdk).1 = true := haccepted
    show (a.connect sdk).2.connectionState = .connected
    by_cases hstate : a.connectionState = .connected
    · unfold FieldbusAdapter.connect
      rw [if_pos hstate]
      exact hstate
    · cases (FieldbusAdapter.connect_refused sdk hstate).1.symm.trans haccepted'
  exposes a ha _ := ha.exposedIds_eq

end FieldbusAdapter

end VirtualFactory
