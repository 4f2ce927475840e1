import VirtualFactory.Icp.LiveLookups

/-!
# Equipment identifiers after a connect

The collision check compares the machines of an adapter that has just connected with
those of the others.  It does not compare them with each other, and an adapter that is
connected already is not checked.
-/

namespace VirtualFactory
namespace Icp

open Foundation IndustrialAdapter

section

variable {adapter device stimulus : Type}
  [IndustrialAdapter adapter device stimulus]

namespace AdapterManager

def Apart (m : AdapterManager adapter) (key : String) (ids : List String) : Prop :=
  forall other b, m.find? other = some b -> other ≠ key -> ids.Disjoint (exposedIds b)

/-- The machines of an adapter have identifiers that nothing else has. -/
def Exclusive (m : AdapterManager adapter) (key : String) : Prop :=
  exists a, m.find? key = some a ∧ (exposedIds a).Nodup ∧ m.Apart key (exposedIds a)

theorem apart_modify (m : AdapterManager adapter) (key : String)
    {f : adapter -> adapter} (hf : forall a, adapterId (f a) = adapterId a)
    (ids : List String) : (m.modify key f hf).Apart key ids <-> m.Apart key ids := by
  have hsame : forall other, other ≠ key ->
      (m.modify key f hf).find? other = m.find? other := by
    intro other hother
    rw [find?_modify, if_neg hother]
  constructor
  · intro h other b hb hother
    exact h other b ((hsame other hother).trans hb) hother
  · intro h other b hb hother
    exact h other b ((hsame other hother).symm.trans hb) hother

theorem apart_of_findCollision (hanswering : Answering adapter)
    {m : AdapterManager adapter} {key : String} {candidate : adapter}
    (h : m.findCollision key candidate = none) : m.Apart key (exposedIds candidate) := by
  intro other b hb hother id hid hmem
  have hanswer := findCollision_none h hid hother hb
  have hsome := (isSome_equipmentById hanswering b id).mpr hmem
  rw [hanswer] at hsome
  cases hsome

theorem findCollision_of_apart (hanswering : Answering adapter)
    {m : AdapterManager adapter} {key : String} {candidate : adapter}
    (h : m.Apart key (exposedIds candidate)) : m.findCollision key candidate = none := by
  cases hcollision : m.findCollision key candidate with
  | none => rfl
  | some found =>
      rcases findCollision_some hcollision with ⟨hid, hother, b, hb, hanswer⟩
      have hshared := (isSome_equipmentById hanswering b found.1).mp hanswer
      exact absurd hshared (h found.2 b hb hother hid)

theorem connectChecked_ok {d : device} {key : String} {m : AdapterManager adapter}
    {a : adapter} {ids : ClientIds} (h : (connectChecked d key m a ids).1.ok = true) :
    (connectionState a = .connected ∧ (connectChecked d key m a ids).2.1 = a) ∨
      (connectionState a ≠ .connected ∧ (connect d a ids).1 = true ∧
        (connectChecked d key m a ids).2.1 = (connect d a ids).2.1 ∧
          m.findCollision key (connect d a ids).2.1 = none) := by
  have hchecked := checked_connectChecked d key m a ids
  generalize connectChecked d key m a ids = result at hchecked h ⊢
  cases hchecked with
  | already hstate => exact Or.inl ⟨hstate, rfl⟩
  | refused => cases h
  | collided _ _ hcheck => cases hcheck.symm.trans h
  | connected hstate hconnect hcheck =>
      rw [hconnect]
      exact Or.inr ⟨hstate, rfl, rfl, (check_ok_iff m key _).mp hcheck⟩

/-- After a connect that is reported as a success, the identifiers are exclusive
exactly when the configured ones are distinct and, for an adapter that was connected
already, those of no other adapter. -/
theorem exclusive_connectAdapter_iff {obeys : adapter -> Prop}
    {configuredIds : adapter -> List String}
    (hfully : ConnectsFully obeys configuredIds) (hanswering : Answering adapter)
    {m : AdapterManager adapter} {key : String} {a : adapter}
    (ha : m.find? key = some a) (hobeys : obeys a) (d : device) {ids : ClientIds}
    (hok : (m.connectAdapter d key ids).1.ok = true) :
    (m.connectAdapter d key ids).2.1.Exclusive key <->
      (configuredIds a).Nodup ∧
        (connectionState a = .connected -> m.Apart key (configuredIds a)) := by
  rw [connectAdapter_of_some ha] at hok ⊢
  have hfind : (m.modify key (fun a => (connectChecked d key m a ids).2.1)
      (fun a => adapterId_connectChecked d key m a ids)).find? key =
        some (connectChecked d key m a ids).2.1 := by
    rw [find?_modify, if_pos rfl, ha, Option.map_some]
  have hexclusive : (m.modify key (fun a => (connectChecked d key m a ids).2.1)
      (fun a => adapterId_connectChecked d key m a ids)).Exclusive key <->
        (exposedIds (connectChecked d key m a ids).2.1).Nodup ∧
          m.Apart key (exposedIds (connectChecked d key m a ids).2.1) := by
    unfold Exclusive
    constructor
    · rintro ⟨b, hb, hnodup, hapart⟩
      cases hfind.symm.trans hb
      exact ⟨hnodup, (apart_modify m key _ _).mp hapart⟩
    · rintro ⟨hnodup, hapart⟩
      exact ⟨_, hfind, hnodup, (apart_modify m key _ _).mpr hapart⟩
  rw [hexclusive]
  rcases connectChecked_ok hok with ⟨hstate, hsame⟩ | ⟨hstate, haccepted, hsame, hfree⟩
  · rw [hsame, hfully.exposes a hobeys hstate]
    constructor
    · rintro ⟨hnodup, hapart⟩
      exact ⟨hnodup, fun _ => hapart⟩
    · rintro ⟨hnodup, hapart⟩
      exact ⟨hnodup, hapart hstate⟩
  · have hids : exposedIds (connect d a ids).2.1 = configuredIds a := by
      have hafter : obeys (connect d a ids).2.1 :=
        hfully.stable ⟨.connect, d⟩ a ids hobeys
      rw [hfully.exposes _ hafter (hfully.accepted d a ids hobeys haccepted)]
      exact hfully.sameIds d a ids hobeys
    have hapart := apart_of_findCollision hanswering hfree
    rw [hsame]
    rw [hids] at hapart ⊢
    constructor
    · rintro ⟨hnodup, _⟩
      exact ⟨hnodup, fun hconnected => absurd hconnected hstate⟩
    · rintro ⟨hnodup, _⟩
      exact ⟨hnodup, hapart⟩

end AdapterManager

end

/-!
# Adapters of all kinds
-/

namespace Adapter

def Wired : Adapter -> Prop :=
  cases MockIndustrialAdapter.BindsAll ProtocolAdapter.Lived ProtocolAdapter.Lived
    ProtocolAdapter.Lived (fun a => MqttIndustrialAdapter.Binds a.config a)
    ProtocolAdapter.Lived FieldbusAdapter.BindsConfigured
    FieldbusAdapter.BindsConfigured

theorem connectsFully : ConnectsFully Wired configuredIds := by
  unfold Wired configuredIds
  refine ConnectsFully.elim MockIndustrialAdapter.connectsFully ?_
  refine ConnectsFully.elim ProtocolAdapter.connectsFully ?_
  refine ConnectsFully.elim ProtocolAdapter.connectsFully ?_
  refine ConnectsFully.elim ProtocolAdapter.connectsFully ?_
  refine ConnectsFully.elim MqttIndustrialAdapter.connectsFully ?_
  refine ConnectsFully.elim ProtocolAdapter.connectsFully ?_
  exact ConnectsFully.elim FieldbusAdapter.connectsFully FieldbusAdapter.connectsFully

theorem wired_of_created {a : Adapter} (h : Created a) : Wired a := by
  cases h with
  | @mock a h =>
      show a.BindsAll
      exact MockIndustrialAdapter.bindsAll_of_not_connected
        (by rw [h.unbound.2]; decide)
  | opcUa id config => exact ProtocolAdapter.lived_create id config _
  | modbus id config => exact ProtocolAdapter.lived_create id config _
  | rest id config => exact ProtocolAdapter.lived_create id config _
  | mqtt id config => exact MqttIndustrialAdapter.binds_new id config
  | etherNetIp id config => exact ProtocolAdapter.lived_create id config _
  | profinet id config => exact FieldbusAdapter.bindsConfigured_new id config
  | profibus id config => exact FieldbusAdapter.bindsConfigured_new id config

theorem wired_of_genuine {a : Adapter} (h : Genuine a) : Wired a :=
  h.invariant connectsFully.stable (fun _ => wired_of_created)

end Adapter

/-- In every state of a runtime with adapters of all kinds, also such as were connected
before they were added, a connect that is reported as a success leaves the identifiers
of the adapter exclusive exactly when its configured identifiers are distinct and, if
it was connected already, no other adapter exposes one of them. -/
theorem connected_exclusive_iff {es : List (Event Adapter AdapterDevice AdapterStimulus)}
    (hes : forall event, event ∈ es -> Runtime.Adds Genuine event) {key : String}
    {a : Adapter} (ha : ((runtime Adapter).run es Runtime.empty).manager.find? key =
      some a) (d : AdapterDevice) :
    let s := (runtime Adapter).run es Runtime.empty
    (s.manager.connectAdapter d key s.clientIds).1.ok = true ->
      ((s.manager.connectAdapter d key s.clientIds).2.1.Exclusive key <->
        a.configuredIds.Nodup ∧
          (connectionState a = .connected -> s.manager.Apart key a.configuredIds)) := by
  intro s hok
  have hgenuine : Genuine a := Runtime.registered_kept (stable_operated Created) hes ha
  exact AdapterManager.exclusive_connectAdapter_iff Adapter.connectsFully
    Adapter.answering ha (Adapter.wired_of_genuine hgenuine) d hok

def twinsConnected : List (Event Adapter AdapterDevice AdapterStimulus) :=
  let connected := fun id =>
    Adapter.mock
      ((MockIndustrialAdapter.new id).addDevice "PUMP-001" "Pump").connect.2
  [⟨.addAdapter (some (connected "mock-a")), default⟩,
    ⟨.addAdapter (some (connected "mock-b")), default⟩]

theorem adds_twinsConnected :
    forall event, event ∈ twinsConnected -> Runtime.Adds Genuine event := by
  have hgenuine : forall id, Genuine (.mock
      ((MockIndustrialAdapter.new id).addDevice "PUMP-001" "Pump").connect.2) := by
    intro id
    have hcreated : Genuine (.mock
        ((MockIndustrialAdapter.new id).addDevice "PUMP-001" "Pump")) :=
      Operated.created (Created.mock (.addDevice _ _ (.new _)))
    exact Operated.operated ⟨.connect, default⟩ {} hcreated
  intro event hevent a hadd
  rcases List.mem_cons.mp hevent with rfl | hevent
  · cases hadd
    exact hgenuine "mock-a"
  · cases List.mem_singleton.mp hevent
    cases hadd
    exact hgenuine "mock-b"

/-- The connect of one of them is reported as a success. -/
theorem not_exclusive_twinsConnected :
    let s := (runtime Adapter).run twinsConnected Runtime.empty
    let r := s.manager.connectAdapter default "mock-a" s.clientIds
    (forall event, event ∈ twinsConnected -> Runtime.Adds Genuine event) ∧
      r.1 = ⟨true, "already connected"⟩ ∧
      r.2.1.allEquipment.map EquipmentView.id = ["PUMP-001", "PUMP-001"] ∧
      ¬ r.2.1.Exclusive "mock-a" := by
  intro s r
  refine ⟨adds_twinsConnected, by decide, by decide, ?_⟩
  rintro ⟨a, ha, _, hapart⟩
  cases ha
  have hdisjoint := hapart "mock-b" _ rfl (by decide)
  exact hdisjoint (a := "PUMP-001") (by decide) (by decide)

theorem connected_exclusive_iff_pumpAdded :
    let s := (runtime Adapter).run pumpAdded Runtime.empty
    (s.manager.connectAdapter default "mock-a" s.clientIds).2.1.Exclusive "mock-a" := by
  intro s
  refine (connected_exclusive_iff adds_pumpAdded rfl default (by decide)).mpr
    ⟨by decide, ?_⟩
  intro hstate
  cases hstate

end Icp
end VirtualFactory
