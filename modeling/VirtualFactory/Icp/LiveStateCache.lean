import VirtualFactory.Industrial.IndustrialAdapter

/-!
# The live state cache

The cache keeps one snapshot for each equipment identifier, with the adapter it was
taken from.
-/

namespace VirtualFactory
namespace Icp

open Foundation IndustrialAdapter

structure CachedTelemetryPoint where
  name : String
  value : Double
  unit : String
  deriving DecidableEq

structure EquipmentSnapshot where
  equipmentId : String
  type : String
  operationalState : OperationalState
  machineFault : Bool
  telemetry : List CachedTelemetryPoint
  adapterId : String
  protocol : String
  communicationState : ConnectionState
  lastError : String
  stale : Bool
  deriving DecidableEq

/-- The rows of the cache, each under its own equipment identifier. -/
structure LiveStateCache where
  byId : OrderedMap String EquipmentSnapshot
  keyed : forall equipmentId row, byId.find? equipmentId = some row ->
    row.equipmentId = equipmentId
  deriving DecidableEq

variable {adapter device stimulus : Type}
  [IndustrialAdapter adapter device stimulus]

def cachePoint (point : TelemetryPoint) : CachedTelemetryPoint where
  name := point.name
  value := point.value
  unit := point.unit

def makeSnapshot (e : EquipmentView) (a : adapter) (stale : Bool) :
    EquipmentSnapshot where
  equipmentId := e.id
  type := e.type
  operationalState := e.operationalState
  machineFault := e.fault
  telemetry := e.telemetry.map cachePoint
  adapterId := adapterId a
  protocol := protocol a
  communicationState := connectionState a
  lastError := lastError a
  stale := stale

def snapshots (a : adapter) : List (String × EquipmentSnapshot) :=
  (exposed a).map
    (fun e => (e.id, makeSnapshot e a (decide (connectionState a ≠ .connected))))

/-- The snapshot that an adapter has for an identifier: the last one it exposes. -/
def snapshotFor (a : adapter) (equipmentId : String) : Option EquipmentSnapshot :=
  (snapshots a).reverse.lookup equipmentId

theorem snapshotFor_isSome (a : adapter) (equipmentId : String) :
    (snapshotFor a equipmentId).isSome <-> equipmentId ∈ exposedIds a := by
  unfold snapshotFor
  rw [Association.lookup_isSome_iff, List.map_reverse, List.mem_reverse, snapshots,
    List.map_map]
  rfl

theorem snapshotFor_spec {a : adapter} {equipmentId : String}
    {row : EquipmentSnapshot} (h : snapshotFor a equipmentId = some row) :
    exists e, e ∈ exposed a ∧ e.id = equipmentId ∧
      row = makeSnapshot e a (decide (connectionState a ≠ .connected)) := by
  rcases List.lookup_eq_some_iff.mp h with ⟨before, after, hsplit, _⟩
  have hmem : (equipmentId, row) ∈ snapshots a := by
    rw [← List.mem_reverse, hsplit]
    simp
  rcases List.mem_map.mp hmem with ⟨e, he, heq⟩
  cases heq
  exact ⟨e, he, rfl, rfl⟩

theorem keyed_snapshots {a : adapter} {equipmentId : String}
    {row : EquipmentSnapshot} (h : snapshotFor a equipmentId = some row) :
    row.equipmentId = equipmentId := by
  rcases snapshotFor_spec h with ⟨e, _, hid, rfl⟩
  exact hid

namespace LiveStateCache

def find? (c : LiveStateCache) (equipmentId : String) : Option EquipmentSnapshot :=
  c.byId.find? equipmentId

def equipment (c : LiveStateCache) : List EquipmentSnapshot :=
  c.byId.entries.map Prod.snd

def empty : LiveStateCache where
  byId := OrderedMap.empty
  keyed := by
    intro equipmentId row h
    rw [OrderedMap.find?_empty] at h
    cases h

theorem keyed_filter (c : LiveStateCache)
    (keep : String -> EquipmentSnapshot -> Bool) (equipmentId : String)
    (row : EquipmentSnapshot)
    (h : (c.byId.filter keep).find? equipmentId = some row) :
    row.equipmentId = equipmentId := by
  rw [OrderedMap.find?_filter] at h
  exact c.keyed equipmentId row (Option.eq_some_of_filter_eq_some h)

/-- Drop the rows of the adapter that it no longer exposes, and store a snapshot of
every machine that it does. -/
def updateFromAdapter (c : LiveStateCache) (a : adapter) : LiveStateCache where
  byId :=
    (c.byId.filter fun equipmentId row =>
      !(row.adapterId == adapterId a) || (exposedIds a).contains equipmentId).insertAll
        (snapshots a)
  keyed := by
    intro equipmentId row h
    rw [OrderedMap.find?_insertAll] at h
    rcases Option.or_eq_some_iff.mp h with hshown | ⟨_, hkept⟩
    · exact keyed_snapshots hshown
    · exact keyed_filter c _ equipmentId row hkept

def markRow (communicationState : ConnectionState) (lastError : String)
    (row : EquipmentSnapshot) : EquipmentSnapshot :=
  { row with
    communicationState := communicationState
    lastError := lastError
    stale := decide (communicationState ≠ .connected) }

def markAdapterCommunication (c : LiveStateCache) (adapterId : String)
    (communicationState : ConnectionState) (lastError : String) :
    LiveStateCache where
  byId :=
    c.byId.mapValues fun row =>
      if row.adapterId = adapterId then markRow communicationState lastError row
      else row
  keyed := by
    intro equipmentId row h
    rw [OrderedMap.find?_mapValues] at h
    rcases Option.map_eq_some_iff.mp h with ⟨before, hbefore, rfl⟩
    have hkeyed := c.keyed equipmentId before hbefore
    split <;> exact hkeyed

def removeAdapterEquipment (c : LiveStateCache) (adapterId : String) :
    LiveStateCache where
  byId := c.byId.filter (fun _ row => !(row.adapterId == adapterId))
  keyed := keyed_filter c _

def clear (_ : LiveStateCache) : LiveStateCache :=
  empty

theorem mem_equipment_iff (c : LiveStateCache) (row : EquipmentSnapshot) :
    row ∈ c.equipment <-> c.find? row.equipmentId = some row := by
  unfold equipment find?
  constructor
  · intro h
    rcases List.mem_map.mp h with ⟨entry, hentry, rfl⟩
    have hfind := (c.byId.mem_entries_iff entry.1 entry.2).mp hentry
    rw [c.keyed entry.1 entry.2 hfind]
    exact hfind
  · intro h
    exact List.mem_map.mpr
      ⟨(row.equipmentId, row), (c.byId.mem_entries_iff _ _).mpr h, rfl⟩

theorem ext_find? {c d : LiveStateCache}
    (h : forall equipmentId, c.find? equipmentId = d.find? equipmentId) : c = d := by
  have hrows : c.byId = d.byId := OrderedMap.ext_find? h
  cases c
  cases d
  cases hrows
  rfl

/-!
# What the operations do to a row
-/

theorem find?_updateFromAdapter (c : LiveStateCache) (a : adapter)
    (equipmentId : String) :
    (c.updateFromAdapter a).find? equipmentId =
      (snapshotFor a equipmentId).or
        ((c.find? equipmentId).filter
          (fun row => !(row.adapterId == adapterId a))) := by
  unfold updateFromAdapter find?
  rw [OrderedMap.find?_insertAll]
  have hsome := snapshotFor_isSome a equipmentId
  unfold snapshotFor at hsome ⊢
  cases hlookup : (snapshots a).reverse.lookup equipmentId with
  | some row => rfl
  | none =>
      rw [hlookup] at hsome
      have hnot : equipmentId ∉ exposedIds a := by
        intro hmem
        cases hsome.mpr hmem
      rw [OrderedMap.find?_filter]
      simp [hnot]

theorem find?_markAdapterCommunication (c : LiveStateCache) (owner : String)
    (state : ConnectionState) (lastError equipmentId : String) :
    (c.markAdapterCommunication owner state lastError).find? equipmentId =
      (c.find? equipmentId).map fun row =>
        if row.adapterId = owner then markRow state lastError row else row :=
  OrderedMap.find?_mapValues c.byId _ equipmentId

theorem find?_removeAdapterEquipment (c : LiveStateCache) (owner equipmentId : String) :
    (c.removeAdapterEquipment owner).find? equipmentId =
      (c.find? equipmentId).filter (fun row => !(row.adapterId == owner)) := by
  unfold removeAdapterEquipment find?
  rw [OrderedMap.find?_filter]

end LiveStateCache

end Icp
end VirtualFactory
