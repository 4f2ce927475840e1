import VirtualFactory.Industrial.AdapterSum
import VirtualFactory.Industrial.Fieldbus
import VirtualFactory.Industrial.Mock
import VirtualFactory.Industrial.Mqtt.Adapter
import VirtualFactory.Industrial.ProtocolDriver

/-!
# Disconnecting beside others

An adapter disconnects in the same way whatever the other clients have claimed, and all
it changes of the claims is that it gives its own back.  So an adapter that has left the
manager can be disconnected while the manager works on.
-/

namespace VirtualFactory

open IndustrialAdapter

/-- What the manager relies on when an adapter is disconnected outside its mutex. -/
class LawfulDisconnect (adapter : Type) {device stimulus : Type}
    [IndustrialAdapter adapter device stimulus] : Prop where
  disconnect_local : forall (d : device) (a : adapter),
    exists (b : adapter) (dropped : Finset String), forall ids : ClientIds,
      disconnect d a ids = (b, { ids with claimed := ids.claimed \ dropped })

theorem LawfulDisconnect.of_unclaiming {adapter device stimulus : Type}
    [IndustrialAdapter adapter device stimulus] {f : adapter -> adapter}
    (h : forall (d : device) a ids, disconnect d a ids = (f a, ids)) :
    LawfulDisconnect adapter where
  disconnect_local d a := ⟨f a, ∅, fun ids => by rw [h d a ids, Finset.sdiff_empty]⟩

instance : LawfulDisconnect MockIndustrialAdapter :=
  LawfulDisconnect.of_unclaiming (fun _ _ _ => rfl)

instance (bus : Fieldbus) : LawfulDisconnect (FieldbusAdapter bus) :=
  LawfulDisconnect.of_unclaiming (fun _ _ _ => rfl)

instance (config mapping session library : Type) [EquipmentMapping mapping]
    [ProtocolDriver config mapping session library] :
    LawfulDisconnect (ProtocolAdapter config mapping session) :=
  LawfulDisconnect.of_unclaiming (fun _ _ _ => rfl)

instance : LawfulDisconnect MqttIndustrialAdapter where
  disconnect_local lib a := by
    rcases a.releaseClientId_local with ⟨dropped, hdropped⟩
    refine ⟨(a.disconnect lib.paho {}).1, dropped, fun ids => ?_⟩
    show (_, a.releaseClientId ids) = _
    rw [hdropped]
    rfl

instance (left right leftDevice rightDevice leftStimulus rightStimulus : Type)
    [IndustrialAdapter left leftDevice leftStimulus]
    [IndustrialAdapter right rightDevice rightStimulus]
    [LawfulDisconnect left] [LawfulDisconnect right] :
    LawfulDisconnect (left ⊕ right) where
  disconnect_local d a := by
    cases a with
    | inl a =>
        have hlocal : exists (b : left) (dropped : Finset String), forall ids : ClientIds,
            disconnect d.1 a ids = (b, { ids with claimed := ids.claimed \ dropped }) :=
          LawfulDisconnect.disconnect_local d.1 a
        rcases hlocal with ⟨b, dropped, hresult⟩
        refine ⟨.inl b, dropped, fun ids => ?_⟩
        show (Sum.inl (disconnect d.1 a ids).1, _) = _
        rw [hresult]
    | inr a =>
        have hlocal : exists (b : right) (dropped : Finset String), forall ids : ClientIds,
            disconnect d.2 a ids = (b, { ids with claimed := ids.claimed \ dropped }) :=
          LawfulDisconnect.disconnect_local d.2 a
        rcases hlocal with ⟨b, dropped, hresult⟩
        refine ⟨.inr b, dropped, fun ids => ?_⟩
        show (Sum.inr (disconnect d.2 a ids).1, _) = _
        rw [hresult]

end VirtualFactory
