import VirtualFactory.Icp.FailedConnect
import VirtualFactory.Industrial.Exposure

/-!
# Lookups of live adapters

The manager does not look at the state of an adapter when it lists machines, finds one
or checks for collisions.  It relies on the adapters to show nothing while they are
disconnected.
-/

namespace VirtualFactory
namespace Icp

open Foundation IndustrialAdapter

section

variable {adapter device stimulus : Type}
  [IndustrialAdapter adapter device stimulus]

namespace AdapterManager

/-- The first machine of a candidate that another adapter answers for, with that
adapter. -/
def findCollision (m : AdapterManager adapter) (key : String) (candidate : adapter) :
    Option (String × String) :=
  (exposed candidate).findSome? fun e =>
    m.adapters.entries.findSome? fun entry =>
      if entry.1 = key then none
      else
        (IndustrialAdapter.equipmentById entry.2 e.id).map
          (fun _ => (e.id, adapterId entry.2))

def collisionResult (equipmentId other : String) : AdapterManagerResult :=
  ⟨false, "equipment id collision: " ++ equipmentId ++ " also on adapter " ++ other⟩

theorem checkEquipmentIdCollisions_eq (m : AdapterManager adapter) (key : String)
    (candidate : adapter) :
    m.checkEquipmentIdCollisions key candidate =
      match m.findCollision key candidate with
      | some (equipmentId, other) => collisionResult equipmentId other
      | none => ⟨true, "ok"⟩ :=
  rfl

theorem check_ok_iff (m : AdapterManager adapter) (key : String) (candidate : adapter) :
    (m.checkEquipmentIdCollisions key candidate).ok = true <->
      m.findCollision key candidate = none := by
  rw [checkEquipmentIdCollisions_eq]
  cases m.findCollision key candidate with
  | none => exact ⟨fun _ => rfl, fun _ => rfl⟩
  | some found =>
      constructor
      · intro hok
        cases hok
      · intro hnone
        cases hnone

theorem findCollision_some {m : AdapterManager adapter} {key : String}
    {candidate : adapter} {equipmentId other : String}
    (h : m.findCollision key candidate = some (equipmentId, other)) :
    equipmentId ∈ exposedIds candidate ∧ other ≠ key ∧
      exists b, m.find? other = some b ∧
        (IndustrialAdapter.equipmentById b equipmentId).isSome := by
  rcases List.exists_of_findSome?_eq_some h with ⟨e, he, hentries⟩
  rcases List.exists_of_findSome?_eq_some hentries with ⟨entry, hentry, hanswer⟩
  split at hanswer
  · cases hanswer
  · rename_i hne
    rcases Option.map_eq_some_iff.mp hanswer with ⟨answer, hfound, heq⟩
    cases heq
    have hkey := m.keyed entry hentry
    have hfind := (m.adapters.mem_entries_iff entry.1 entry.2).mp hentry
    rw [hkey]
    refine ⟨List.mem_map_of_mem he, hne, entry.2, hfind, ?_⟩
    rw [hfound]
    rfl

theorem findCollision_none {m : AdapterManager adapter} {key : String}
    {candidate : adapter} (h : m.findCollision key candidate = none)
    {equipmentId other : String} {b : adapter} (hid : equipmentId ∈ exposedIds candidate)
    (hother : other ≠ key) (hb : m.find? other = some b) :
    IndustrialAdapter.equipmentById b equipmentId = none := by
  rcases (mem_exposedIds_iff candidate equipmentId).mp hid with ⟨e, he, rfl⟩
  have hentry := (m.adapters.mem_entries_iff other b).mpr hb
  have hanswer :=
    List.findSome?_eq_none_iff.mp (List.findSome?_eq_none_iff.mp h e he) _ hentry
  rw [if_neg hother] at hanswer
  exact Option.map_eq_none_iff.mp hanswer

/-- A connect that the adapter accepts and the manager undoes. -/
def Collides (m : AdapterManager adapter) (d : device) (key : String)
    (ids : ClientIds) (equipmentId other : String) : Prop :=
  exists a, m.find? key = some a ∧ connectionState a ≠ .connected ∧
    (connect d a ids).1 = true ∧
      m.findCollision key (connect d a ids).2.1 = some (equipmentId, other)

theorem connectAdapter_of_collides {m : AdapterManager adapter} {d : device}
    {key : String} {ids : ClientIds} {equipmentId other : String}
    (h : m.Collides d key ids equipmentId other) :
    (m.connectAdapter d key ids).1 = collisionResult equipmentId other := by
  rcases h with ⟨a, ha, hstate, haccepted, hcollision⟩
  rw [connectAdapter_of_some ha]
  show (connectChecked d key m a ids).1 = _
  have hchecked := checked_connectChecked d key m a ids
  generalize connectChecked d key m a ids = result at hchecked ⊢
  cases hchecked with
  | already hconnected => exact absurd hconnected hstate
  | refused _ hconnect =>
      rw [hconnect] at haccepted
      cases haccepted
  | collided _ hconnect =>
      rw [hconnect] at hcollision
      show m.checkEquipmentIdCollisions key _ = _
      rw [checkEquipmentIdCollisions_eq, hcollision]
  | connected _ hconnect hcheck =>
      rw [hconnect, (check_ok_iff m key _).mp hcheck] at hcollision
      cases hcollision

/-- An adapter that is connected or faulted is registered under the key. -/
def Live (m : AdapterManager adapter) (key : String) : Prop :=
  exists a, m.find? key = some a ∧
    (connectionState a = .connected ∨ connectionState a = .faulted)

/-- Nothing is listed, found or reported as a collision but the machines of live
adapters. -/
structure OnlyLive (m : AdapterManager adapter) : Prop where
  shown : forall key equipmentId, m.Shows key equipmentId -> m.Live key
  found : forall key equipmentId, m.Finds key equipmentId -> m.Live key
  collides : forall d key ids equipmentId other,
    m.Collides d key ids equipmentId other -> m.Live other

theorem live_of_exposed {m : AdapterManager adapter}
    (hhidden : forall key a, m.find? key = some a ->
      connectionState a = .disconnected -> exposedIds a = [])
    {key equipmentId : String} {a : adapter} (ha : m.find? key = some a)
    (hid : equipmentId ∈ exposedIds a) : m.Live key := by
  refine ⟨a, ha, ?_⟩
  cases hstate : connectionState a with
  | connected => exact Or.inl rfl
  | faulted => exact Or.inr rfl
  | disconnected =>
      rw [hhidden key a ha hstate] at hid
      cases hid

/-- It is enough that disconnected adapters expose nothing, and it is needed. -/
theorem onlyLive_iff (hanswering : Answering adapter) (m : AdapterManager adapter) :
    m.OnlyLive <->
      forall key a, m.find? key = some a -> connectionState a = .disconnected ->
        exposedIds a = [] := by
  constructor
  · intro h key a ha hstate
    apply List.eq_nil_iff_forall_not_mem.mpr
    intro equipmentId hid
    rcases h.shown key equipmentId ⟨a, ha, hid⟩ with ⟨b, hb, hlive⟩
    cases hb.symm.trans ha
    rw [hstate] at hlive
    rcases hlive with hlive | hlive <;> cases hlive
  · intro hhidden
    refine ⟨?_, ?_, ?_⟩
    · rintro key equipmentId ⟨a, ha, hid⟩
      exact live_of_exposed hhidden ha hid
    · rintro key equipmentId ⟨e, he⟩
      rcases find?_of_locate he with ⟨a, ha, hanswer⟩
      have hid := (isSome_equipmentById hanswering a equipmentId).mp
        (by rw [hanswer]; rfl)
      exact live_of_exposed hhidden ha hid
    · rintro d key ids equipmentId other ⟨a, _, _, _, hcollision⟩
      rcases findCollision_some hcollision with ⟨_, _, b, hb, hanswer⟩
      exact live_of_exposed hhidden hb
        ((isSome_equipmentById hanswering b equipmentId).mp hanswer)

end AdapterManager

end

/-!
# Adapters of all kinds
-/

namespace Adapter

/-- A fieldbus adapter with configured machines. -/
def AlwaysExposes : Adapter -> Prop :=
  cases (fun _ => False) (fun _ => False) (fun _ => False) (fun _ => False)
    (fun _ => False) (fun _ => False) (fun a => a.core.config.equipment ≠ [])
    (fun a => a.core.config.equipment ≠ [])

theorem exposedIds_fieldbus_iff {bus : Fieldbus} {a : FieldbusAdapter bus}
    (h : a.BindsConfigured) :
    exposedIds a = [] <-> ¬ a.core.config.equipment ≠ [] := by
  rw [h.exposedIds_eq, not_not]
  exact List.map_eq_nil_iff

theorem exposedIds_of_disconnected_iff {a : Adapter} (h : BindsConfigured a)
    (hstate : connectionState a = .disconnected) :
    exposedIds a = [] <-> ¬ AlwaysExposes a := by
  match a, h, hstate with
  | .mock a, _, hstate =>
      exact iff_of_true (MockIndustrialAdapter.exposedIds_of_disconnected hstate) id
  | .opcUa a, _, hstate =>
      exact iff_of_true
        (ProtocolAdapter.exposedIds_of_disconnected (a := a) hstate) id
  | .modbus a, _, hstate =>
      exact iff_of_true
        (ProtocolAdapter.exposedIds_of_disconnected (a := a) hstate) id
  | .rest a, _, hstate =>
      exact iff_of_true
        (ProtocolAdapter.exposedIds_of_disconnected (a := a) hstate) id
  | .mqtt a, _, hstate =>
      exact iff_of_true (MqttIndustrialAdapter.exposedIds_of_disconnected hstate) id
  | .etherNetIp a, _, hstate =>
      exact iff_of_true
        (ProtocolAdapter.exposedIds_of_disconnected (a := a) hstate) id
  | .profinet a, h, _ => exact exposedIds_fieldbus_iff (a := a) h
  | .profibus a, h, _ => exact exposedIds_fieldbus_iff (a := a) h

end Adapter

namespace Runtime

/-- No fieldbus adapter with machines is registered and disconnected. -/
def NoIdleFieldbus (s : Runtime Adapter) : Prop :=
  forall key a, s.manager.find? key = some a ->
    connectionState a = .disconnected -> ¬ a.AlwaysExposes

theorem onlyLive_iff_noIdleFieldbus
    {es : List (Event Adapter AdapterDevice AdapterStimulus)}
    (hes : forall event, event ∈ es -> Adds Genuine event) :
    ((runtime Adapter).run es empty).manager.OnlyLive <->
      ((runtime Adapter).run es empty).NoIdleFieldbus := by
  rw [AdapterManager.onlyLive_iff Adapter.answering]
  have hiff : forall key a,
      ((runtime Adapter).run es empty).manager.find? key = some a ->
        connectionState a = .disconnected ->
          (exposedIds a = [] <-> ¬ a.AlwaysExposes) := by
    intro key a ha hstate
    have hgenuine : Genuine a := registered_kept (stable_operated Created) hes ha
    exact Adapter.exposedIds_of_disconnected_iff
      (Adapter.bindsConfigured_of_genuine hgenuine) hstate
  constructor
  · intro h key a ha hstate
    exact (hiff key a ha hstate).mp (h key a ha hstate)
  · intro h key a ha hstate
    exact (hiff key a ha hstate).mpr (h key a ha hstate)

end Runtime

/-- In a run with adapters of all kinds, all lookups and collisions are about live
adapters in every state exactly when no state has a disconnected fieldbus adapter with
machines. -/
theorem lookups_live_iff {es : List (Event Adapter AdapterDevice AdapterStimulus)}
    (hes : forall event, event ∈ es -> Runtime.Adds Genuine event) :
    (forall before after, es = before ++ after ->
      ((runtime Adapter).run before Runtime.empty).manager.OnlyLive) <->
    (forall before after, es = before ++ after ->
      ((runtime Adapter).run before Runtime.empty).NoIdleFieldbus) := by
  have hstate : forall before after, es = before ++ after ->
      (((runtime Adapter).run before Runtime.empty).manager.OnlyLive <->
        ((runtime Adapter).run before Runtime.empty).NoIdleFieldbus) := by
    intro before after hsplit
    apply Runtime.onlyLive_iff_noIdleFieldbus
    intro event hevent
    exact hes event (by rw [hsplit]; exact List.mem_append_left after hevent)
  constructor
  · intro h before after hsplit
    exact (hstate before after hsplit).mp (h before after hsplit)
  · intro h before after hsplit
    exact (hstate before after hsplit).mpr (h before after hsplit)

def pumpAdded : List (Event Adapter AdapterDevice AdapterStimulus) :=
  [⟨.addAdapter (some (.mock
      ((MockIndustrialAdapter.new "mock-a").addDevice "PUMP-001" "Pump"))), default⟩]

theorem adds_pumpAdded :
    forall event, event ∈ pumpAdded -> Runtime.Adds Genuine event := by
  intro event hevent a hadd
  cases List.mem_singleton.mp hevent
  cases hadd
  exact Operated.created (Created.mock (.addDevice _ _ (.new _)))

def pumpConnected : List (Event Adapter AdapterDevice AdapterStimulus) :=
  pumpAdded ++ [⟨.connectAdapter "mock-a", default⟩]

theorem adds_pumpConnected :
    forall event, event ∈ pumpConnected -> Runtime.Adds Genuine event := by
  intro event hevent
  rcases List.mem_append.mp hevent with hadded | hconnect
  · exact adds_pumpAdded event hadded
  · intro a hadd
    cases List.mem_singleton.mp hconnect
    cases hadd

theorem lookups_live_iff_pumpConnected :
    (forall before after, pumpConnected = before ++ after ->
      ((runtime Adapter).run before Runtime.empty).manager.OnlyLive) <->
    (forall before after, pumpConnected = before ++ after ->
      ((runtime Adapter).run before Runtime.empty).NoIdleFieldbus) :=
  lookups_live_iff adds_pumpConnected

/-- A PROFINET adapter that nobody has connected, and a mock adapter for a machine of
the same identifier. -/
def idleProfinet : List (Event Adapter AdapterDevice AdapterStimulus) :=
  [⟨.addAdapter (some (AdapterFactory.createProfinet "profinet-a"
      { configArtifactPath := "line.xml"
        equipment := [{ id := "DRIVE-001", type := "Drive" }] })), default⟩,
    ⟨.addAdapter (some (.mock
      ((MockIndustrialAdapter.new "mock-a").addDevice "DRIVE-001" "Drive"))), default⟩]

/-- The disconnected adapter shows its machine and keeps the other from connecting. -/
theorem not_onlyLive_idleProfinet :
    let s := (runtime Adapter).run idleProfinet Runtime.empty
    s.manager.allEquipment.map EquipmentView.id = ["DRIVE-001"] ∧
      (s.manager.find? "profinet-a").map connectionState = some .disconnected ∧
      (s.manager.connectAdapter default "mock-a" s.clientIds).1 =
        AdapterManager.collisionResult "DRIVE-001" "profinet-a" ∧
      ¬ s.manager.OnlyLive := by
  intro s
  refine ⟨by decide, by decide, by decide, ?_⟩
  intro honly
  rcases hfind : s.manager.find? "profinet-a" with _ | a
  · cases hfind
  · have hhidden := (AdapterManager.onlyLive_iff Adapter.answering s.manager).mp honly
      "profinet-a" a hfind
    cases hfind
    cases hhidden rfl

end Icp
end VirtualFactory
