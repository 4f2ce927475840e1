import VirtualFactory.Icp.AdapterKinds
import VirtualFactory.Icp.Runtime
import VirtualFactory.Industrial.AtomicConnect

/-!
# Failed connects

A connect through the manager that fails leaves the machines that can be seen, with one
exception: an MQTT adapter whose broker refuses a subscription.
-/

namespace VirtualFactory
namespace Icp

open Foundation IndustrialAdapter

section

variable {adapter device stimulus : Type}
  [IndustrialAdapter adapter device stimulus]

namespace AdapterManager

def Shows (m : AdapterManager adapter) (key equipmentId : String) : Prop :=
  exists a, m.find? key = some a ∧ equipmentId ∈ exposedIds a

def Finds (m : AdapterManager adapter) (key equipmentId : String) : Prop :=
  exists e, m.locate equipmentId = some (key, e)

/-- The same pairs of adapter and equipment identifier are visible. -/
structure SameView (m n : AdapterManager adapter) : Prop where
  shown : forall key equipmentId, m.Shows key equipmentId <-> n.Shows key equipmentId
  found : forall key equipmentId, m.Finds key equipmentId <-> n.Finds key equipmentId

/-- Adapters answer for the identifiers that they expose. -/
def Answering (adapter : Type) {device stimulus : Type}
    [IndustrialAdapter adapter device stimulus] : Prop :=
  forall (a : adapter) (id : String),
    IndustrialAdapter.equipmentById a id = (exposed a).find? (fun e => e.id = id)

theorem isSome_equipmentById (h : Answering adapter) (a : adapter) (id : String) :
    (IndustrialAdapter.equipmentById a id).isSome <-> id ∈ exposedIds a := by
  rw [h, List.find?_isSome, mem_exposedIds_iff]
  simp

def exposure (m : AdapterManager adapter) : List (String × List String) :=
  m.adapters.entries.map (fun entry => (entry.1, exposedIds entry.2))

theorem shows_iff (m : AdapterManager adapter) (key id : String) :
    m.Shows key id <-> exists ids, (key, ids) ∈ m.exposure ∧ id ∈ ids := by
  unfold Shows exposure
  constructor
  · rintro ⟨a, ha, hid⟩
    have hentry := (m.adapters.mem_entries_iff key a).mpr ha
    exact ⟨exposedIds a, List.mem_map_of_mem hentry, hid⟩
  · rintro ⟨ids, hmem, hid⟩
    rcases List.mem_map.mp hmem with ⟨entry, hentry, heq⟩
    cases heq
    exact ⟨entry.2, (m.adapters.mem_entries_iff _ _).mp hentry, hid⟩

theorem map_fst_locate (h : Answering adapter) (m : AdapterManager adapter)
    (id : String) :
    (m.locate id).map Prod.fst =
      m.exposure.findSome? (fun p => if id ∈ p.2 then some p.1 else none) := by
  unfold locate exposure
  induction m.adapters.entries with
  | nil => rfl
  | cons entry rest ih =>
      have hsome := isSome_equipmentById h entry.2 id
      rw [List.map_cons, List.findSome?_cons, List.findSome?_cons]
      cases hanswer : IndustrialAdapter.equipmentById entry.2 id with
      | some e =>
          rw [hanswer] at hsome
          rw [if_pos (hsome.mp rfl)]
          rfl
      | none =>
          rw [hanswer] at hsome
          rw [if_neg (fun hmem => by cases hsome.mpr hmem)]
          exact ih

theorem finds_iff (m : AdapterManager adapter) (key id : String) :
    m.Finds key id <-> (m.locate id).map Prod.fst = some key := by
  unfold Finds
  rw [Option.map_eq_some_iff]
  constructor
  · rintro ⟨e, he⟩
    exact ⟨(key, e), he, rfl⟩
  · rintro ⟨⟨k, e⟩, he, rfl⟩
    exact ⟨e, he⟩

theorem sameView_of_exposure (h : Answering adapter) {m n : AdapterManager adapter}
    (hexposure : m.exposure = n.exposure) : m.SameView n where
  shown key id := by rw [shows_iff, shows_iff, hexposure]
  found key id := by
    rw [finds_iff, finds_iff, map_fst_locate h, map_fst_locate h, hexposure]

theorem sameView_modify (h : Answering adapter) {m : AdapterManager adapter}
    {key : String} {a : adapter} (ha : m.find? key = some a) {f : adapter -> adapter}
    (hf : forall a, adapterId (f a) = adapterId a)
    (hids : exposedIds (f a) = exposedIds a) : m.SameView (m.modify key f hf) := by
  apply sameView_of_exposure h
  show m.adapters.entries.map _ = (m.adapters.entries.map _).map _
  rw [List.map_map]
  apply List.map_congr_left
  intro entry hentry
  show (entry.1, exposedIds entry.2) =
    (entry.1, exposedIds (if entry.1 = key then f entry.2 else entry.2))
  by_cases hk : entry.1 = key
  · have hfind := (m.adapters.mem_entries_iff _ _).mp hentry
    rw [hk] at hfind
    cases hfind.symm.trans ha
    rw [if_pos hk, hids]
  · rw [if_neg hk]

/-!
# Connects through the manager
-/

theorem connectChecked_of_refused (key : String) (m : AdapterManager adapter)
    {d : device} {a : adapter} {ids : ClientIds}
    (hstate : connectionState a ≠ .connected) (h : (connect d a ids).1 = false) :
    (connectChecked d key m a ids).1.ok = false ∧
      (connectChecked d key m a ids).2.1 = (connect d a ids).2.1 := by
  have hchecked := checked_connectChecked d key m a ids
  generalize connectChecked d key m a ids = result at hchecked ⊢
  cases hchecked with
  | already hconnected => exact absurd hconnected hstate
  | refused _ hconnect =>
      rw [hconnect]
      exact ⟨rfl, rfl⟩
  | collided _ hconnect =>
      rw [hconnect] at h
      cases h
  | connected _ hconnect =>
      rw [hconnect] at h
      cases h

theorem connectChecked_of_accepted {d : device} {key : String}
    {m : AdapterManager adapter} {a : adapter} {ids : ClientIds}
    (hstate : connectionState a ≠ .connected) (h : (connect d a ids).1 = true)
    (hfailed : (connectChecked d key m a ids).1.ok = false) :
    (connectChecked d key m a ids).2.1 =
      (disconnect d (connect d a ids).2.1 (connect d a ids).2.2).1 := by
  have hchecked := checked_connectChecked d key m a ids
  generalize connectChecked d key m a ids = result at hchecked hfailed ⊢
  cases hchecked with
  | already hconnected => exact absurd hconnected hstate
  | refused _ hconnect =>
      rw [hconnect] at h
      cases h
  | collided _ hconnect => rw [hconnect]
  | connected => cases hfailed

/-- A connect that fails leaves the view exactly when the case is not exempt. -/
theorem sameView_connectAdapter_iff {obeys : adapter -> Prop}
    {exempt : device -> adapter -> ClientIds -> Prop}
    (hatomic : FailsAtomically obeys exempt) (hanswering : Answering adapter)
    {m : AdapterManager adapter} {key : String} {a : adapter}
    (ha : m.find? key = some a) (hobeys : obeys a)
    (hstate : connectionState a = .disconnected) (d : device) (ids : ClientIds) :
    ((m.connectAdapter d key ids).1.ok = false ->
        m.SameView (m.connectAdapter d key ids).2.1) <->
      ¬ exempt d a ids := by
  have hdown : connectionState a ≠ .connected := by
    rw [hstate]
    decide
  rw [connectAdapter_of_some ha]
  constructor
  · intro hview hexempt
    rcases hatomic.exposing d a ids hobeys hstate hexempt with
      ⟨hrefused, id, hafter, hbefore⟩
    rcases connectChecked_of_refused key m hdown hrefused with
      ⟨hfailed, hresult⟩
    have hfind : (m.modify key (fun a => (connectChecked d key m a ids).2.1)
        (fun a => adapterId_connectChecked d key m a ids)).find? key =
          some (connectChecked d key m a ids).2.1 := by
      rw [find?_modify, if_pos rfl, ha, Option.map_some]
    rw [← hresult] at hafter
    rcases ((hview hfailed).shown key id).mpr ⟨_, hfind, hafter⟩ with ⟨b, hb, hid⟩
    cases hb.symm.trans ha
    exact hbefore hid
  · intro hexempt hfailed
    refine sameView_modify hanswering ha
      (fun b => adapterId_connectChecked d key m b ids) ?_
    cases hconnect : (connect d a ids).1 with
    | false =>
        rw [(connectChecked_of_refused key m hdown hconnect).2]
        exact hatomic.refused d a ids hobeys hstate hexempt hconnect
    | true =>
        rw [connectChecked_of_accepted hdown hconnect hfailed]
        exact hatomic.undone d a ids hobeys hstate hconnect

end AdapterManager

end

/-!
# Adapters of all kinds
-/

namespace Adapter

/-- A connect of an MQTT adapter that the broker accepts, but not all of its
subscriptions. -/
def SubscribeFails (d : AdapterDevice) : Adapter -> ClientIds -> Prop :=
  cases (fun _ _ => False) (fun _ _ => False) (fun _ _ => False) (fun _ _ => False)
    (MqttIndustrialAdapter.SubscribeFails d.2.2.2.2.1.paho) (fun _ _ => False)
    (fun _ _ => False) (fun _ _ => False)

theorem failsAtomically : FailsAtomically BindsConfigured SubscribeFails := by
  have opcUa : FailsAtomically (ProtocolAdapter.Lived : OpcUaIndustrialAdapter -> Prop)
    (fun _ _ _ => False) := ProtocolAdapter.failsAtomically
  have modbus : FailsAtomically (ProtocolAdapter.Lived : ModbusIndustrialAdapter -> Prop)
    (fun _ _ _ => False) := ProtocolAdapter.failsAtomically
  have rest : FailsAtomically (ProtocolAdapter.Lived : RestIndustrialAdapter -> Prop)
    (fun _ _ _ => False) := ProtocolAdapter.failsAtomically
  have etherNetIp : FailsAtomically
    (ProtocolAdapter.Lived : EtherNetIpIndustrialAdapter -> Prop)
    (fun _ _ _ => False) := ProtocolAdapter.failsAtomically
  have fieldbus : FailsAtomically
      (Sum.elim FieldbusAdapter.BindsConfigured FieldbusAdapter.BindsConfigured :
        ProfinetIndustrialAdapter ⊕ ProfibusIndustrialAdapter -> Prop)
      (fun _ => Sum.elim (fun _ _ => False) (fun _ _ => False)) :=
    FieldbusAdapter.failsAtomically.elim FieldbusAdapter.failsAtomically
  exact MockIndustrialAdapter.failsAtomically.elim (opcUa.elim (modbus.elim (rest.elim
    (MqttIndustrialAdapter.failsAtomically.elim (etherNetIp.elim fieldbus)))))

theorem answering : AdapterManager.Answering Adapter := by
  intro a id
  match a with
  | .mock a => exact (find?_exposed_of_map (a := a) rfl id).symm
  | .opcUa a => exact (find?_exposed_of_map (a := a) rfl id).symm
  | .modbus a => exact (find?_exposed_of_map (a := a) rfl id).symm
  | .rest a => exact (find?_exposed_of_map (a := a) rfl id).symm
  | .mqtt a => exact (find?_exposed_of_map (a := a) rfl id).symm
  | .etherNetIp a => exact (find?_exposed_of_map (a := a) rfl id).symm
  | .profinet a => exact (find?_exposed_of_map (a := a) rfl id).symm
  | .profibus a => exact (find?_exposed_of_map (a := a) rfl id).symm

end Adapter

/-- In every state of a runtime, a connect of a disconnected adapter that fails leaves
the visible equipment exactly when it is not that of an MQTT adapter whose broker
accepts the client and refuses a subscription. -/
theorem failed_connect_iff {es : List (Event Adapter AdapterDevice AdapterStimulus)}
    (hes : forall event, event ∈ es -> Runtime.Adds Genuine event) {key : String}
    {a : Adapter} (ha : ((runtime Adapter).run es Runtime.empty).manager.find? key =
      some a) (hstate : connectionState a = .disconnected) (d : AdapterDevice) :
    let s := (runtime Adapter).run es Runtime.empty
    ((s.manager.connectAdapter d key s.clientIds).1.ok = false ->
        s.manager.SameView (s.manager.connectAdapter d key s.clientIds).2.1) <->
      ¬ Adapter.SubscribeFails d a s.clientIds := by
  intro s
  have hgenuine : Genuine a := Runtime.registered_kept (stable_operated Created) hes ha
  exact AdapterManager.sameView_connectAdapter_iff Adapter.failsAtomically
    Adapter.answering ha (Adapter.bindsConfigured_of_genuine hgenuine) hstate d
    s.clientIds

def refusingSubscriptions : Paho :=
  { Paho.obliging with
    callbacks := fun calls =>
      match calls with
      | .connect _ :: _ => [.connectSuccess]
      | .subscribe _ _ :: _ => [.opFailure none]
      | _ => [] }

def lineAdded : List (Event Adapter AdapterDevice AdapterStimulus) :=
  [⟨.addAdapter (some (AdapterFactory.createMqtt "mqtt-a"
      { host := "broker"
        clientId := "line-1"
        equipment :=
          [{ id := "PRESS-001"
             type := "Press"
             fault := { topic := "line/press/fault", mapped := true } }] })),
    default⟩]

def subscriptionsRefused : AdapterDevice :=
  ((), default, default, default, { text := default, paho := refusingSubscriptions },
    default, default, default)

/-- A connect that fails for another reason leaves the view. -/
theorem failed_connect_iff_brokerDown :
    let s := (runtime Adapter).run lineAdded Runtime.empty
    (s.manager.connectAdapter default "mqtt-a" s.clientIds).1.ok = false ∧
      s.manager.SameView (s.manager.connectAdapter default "mqtt-a" s.clientIds).2.1 := by
  intro s
  have hfailed : (s.manager.connectAdapter default "mqtt-a" s.clientIds).1.ok =
      false := by decide
  have hadds : forall event, event ∈ lineAdded -> Runtime.Adds Genuine event := by
    intro event hevent a hadd
    cases List.mem_singleton.mp hevent
    cases hadd
    exact Operated.created (Created.mqtt _ _)
  refine ⟨hfailed, (failed_connect_iff hadds rfl rfl default).mpr ?_ hfailed⟩
  intro hfails
  have hopens := hfails.opens
  revert hopens
  decide

/-- A refused subscription makes the machine visible. -/
theorem not_sameView_subscriptionsRefused :
    let s := (runtime Adapter).run lineAdded Runtime.empty
    let r := s.manager.connectAdapter subscriptionsRefused "mqtt-a" s.clientIds
    r.1.ok = false ∧ s.manager.allEquipment = [] ∧
      r.2.1.allEquipment.map EquipmentView.id = ["PRESS-001"] ∧
      ¬ s.manager.SameView r.2.1 := by
  intro s r
  refine ⟨by decide, by decide, by decide, fun hview => ?_⟩
  have hfinds : r.2.1.Finds "mqtt-a" "PRESS-001" := by
    rw [AdapterManager.finds_iff]
    decide
  rcases (hview.found "mqtt-a" "PRESS-001").mpr hfinds with ⟨e, he⟩
  have hnone : s.manager.locate "PRESS-001" = none := by decide
  cases hnone.symm.trans he

end Icp
end VirtualFactory
