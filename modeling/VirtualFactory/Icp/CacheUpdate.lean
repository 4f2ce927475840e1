import VirtualFactory.Foundation.Table
import VirtualFactory.Icp.LiveStateCache

/-!
# The loops of a cache update

The rows are kept in a hash table, which a loop visits in any order.  One loop erases
rows while it iterates, and a second one stores a snapshot of every machine.
-/

namespace VirtualFactory
namespace Icp

open Foundation IndustrialAdapter

variable {adapter device stimulus : Type}
  [IndustrialAdapter adapter device stimulus]

/-- The member `by_id_` of the cache. -/
abbrev CacheRows :=
  Table String EquipmentSnapshot

/-!
# The loops
-/

def stillPresent (equipmentId : String) : List (Option EquipmentView) -> Bool
  | [] => false
  | none :: rest => stillPresent equipmentId rest
  | some e :: rest => if e.id = equipmentId then true else stillPresent equipmentId rest

/-- A row of the adapter whose machine it does not expose any more. -/
def isPrior (a : adapter) (equipmentId : String) (row : EquipmentSnapshot) : Bool :=
  row.adapterId == adapterId a && !stillPresent equipmentId (equipment a)

/-- The loop that overwrites a row for every machine. -/
def storeLoop (a : adapter) (stale : Bool) :
    List (Option EquipmentView) -> CacheRows -> CacheRows
  | [], rows => rows
  | none :: rest, rows => storeLoop a stale rest rows
  | some e :: rest, rows => storeLoop a stale rest (rows.assign e.id (makeSnapshot e a stale))

/-- `LiveStateCache::updateFromAdapter` on the rows. -/
def updateRows (rows : CacheRows) (a : adapter) : CacheRows :=
  let stale := decide (connectionState a ≠ .connected)
  storeLoop a stale (equipment a) (rows.sweep (isPrior a))

/-!
# What the loops do to a row
-/

theorem stillPresent_iff (equipmentId : String) (machines : List (Option EquipmentView)) :
    stillPresent equipmentId machines = true <->
      exists e, some e ∈ machines ∧ e.id = equipmentId := by
  induction machines with
  | nil => simp [stillPresent]
  | cons machine rest ih =>
      cases machine with
      | none => simp [stillPresent, ih]
      | some e =>
          by_cases he : e.id = equipmentId
          · simp [stillPresent, he]
          · simp [stillPresent, he, ih]

theorem stillPresent_equipment (a : adapter) (equipmentId : String) :
    stillPresent equipmentId (equipment a) = (exposedIds a).contains equipmentId := by
  rw [Bool.eq_iff_iff, stillPresent_iff, List.contains_iff_mem, mem_exposedIds_iff]
  unfold exposed
  simp

def lastExposed (a : adapter) (equipmentId : String) : Option EquipmentView :=
  (exposed a).reverse.find? (fun e => e.id = equipmentId)

theorem find?_storeLoop (a : adapter) (stale : Bool) (equipmentId : String)
    (machines : List (Option EquipmentView)) (rows : CacheRows) :
    (storeLoop a stale machines rows).find? equipmentId =
      (((machines.filterMap (fun e => e)).reverse.find?
          (fun e => e.id = equipmentId)).map (fun e => makeSnapshot e a stale)).or
        (rows.find? equipmentId) := by
  induction machines generalizing rows with
  | nil => rfl
  | cons machine rest ih =>
      cases machine with
      | none => exact ih rows
      | some e =>
          show (storeLoop a stale rest (rows.assign e.id (makeSnapshot e a stale))).find?
            equipmentId = _
          have hcons : (some e :: rest).filterMap (fun e => e) =
              e :: rest.filterMap (fun e => e) := rfl
          rw [ih, Table.find?_assign, hcons, List.reverse_cons, List.find?_append,
            Option.map_or, Option.or_assoc]
          congr 1
          by_cases he : equipmentId = e.id
          · simp [he]
          · have hne : e.id ≠ equipmentId := fun h => he h.symm
            simp [he, hne]

/-!
# What an update leaves
-/

def lastSnapshot (a : adapter) (equipmentId : String) : Option EquipmentSnapshot :=
  (lastExposed a equipmentId).map
    (fun e => makeSnapshot e a (decide (connectionState a ≠ .connected)))

theorem lastExposed_isSome (a : adapter) (equipmentId : String) :
    (lastExposed a equipmentId).isSome = true <-> equipmentId ∈ exposedIds a := by
  unfold lastExposed
  rw [List.find?_isSome, mem_exposedIds_iff]
  simp

/-- A row is the last snapshot of its machine, or it belongs to another adapter that had
it before. -/
theorem find?_updateRows (rows : CacheRows) (a : adapter) (equipmentId : String) :
    (updateRows rows a).find? equipmentId =
      (lastSnapshot a equipmentId).or
        ((rows.find? equipmentId).filter
          (fun row => !(row.adapterId == adapterId a))) := by
  unfold updateRows
  rw [find?_storeLoop, Table.find?_sweep]
  show (lastSnapshot a equipmentId).or _ = _
  by_cases hexposed : equipmentId ∈ exposedIds a
  · rcases Option.isSome_iff_exists.mp ((lastExposed_isSome a equipmentId).mpr hexposed) with
      ⟨e, he⟩
    unfold lastSnapshot
    rw [he]
    rfl
  · have hscan : stillPresent equipmentId (equipment a) = false := by
      rw [stillPresent_equipment, Bool.eq_false_iff]
      exact fun hpresent => hexposed (List.contains_iff_mem.mp hpresent)
    unfold isPrior
    rw [hscan, Bool.not_false]
    simp only [Bool.and_true]

theorem adapterId_lastSnapshot {a : adapter} {equipmentId : String}
    {row : EquipmentSnapshot} (h : lastSnapshot a equipmentId = some row) :
    row.adapterId = adapterId a := by
  rcases Option.map_eq_some_iff.mp h with ⟨e, _, rfl⟩
  rfl

theorem lastSnapshot_eq_none_iff (a : adapter) (equipmentId : String) :
    lastSnapshot a equipmentId = none <-> equipmentId ∉ exposedIds a := by
  rw [← lastExposed_isSome, lastSnapshot, Option.map_eq_none_iff, Option.not_isSome_iff_eq_none]

theorem updateRows_cases (rows : CacheRows) (a : adapter) (equipmentId : String)
    (row : EquipmentSnapshot) :
    (updateRows rows a).find? equipmentId = some row <->
      lastSnapshot a equipmentId = some row ∨
        equipmentId ∉ exposedIds a ∧ rows.find? equipmentId = some row ∧
          row.adapterId ≠ adapterId a := by
  rw [find?_updateRows, Option.or_eq_some_iff, lastSnapshot_eq_none_iff,
    Option.filter_eq_some_iff, Bool.not_eq_true', beq_eq_false_iff_ne]

/-- The rows after an update: one snapshot for every exposed identifier, the rows of other
adapters under other identifiers, and no other row.  A second update changes nothing. -/
structure Refreshed (before after : CacheRows) (a : adapter) : Prop where
  owned : forall equipmentId row,
    (after.find? equipmentId = some row ∧ row.adapterId = adapterId a) <->
      exists e, lastExposed a equipmentId = some e ∧
        row = makeSnapshot e a (decide (connectionState a ≠ .connected))
  each : forall equipmentId, equipmentId ∈ exposedIds a ->
    exists row, after.find? equipmentId = some row ∧ row.adapterId = adapterId a
  framed : forall equipmentId row, before.find? equipmentId = some row ->
    row.adapterId ≠ adapterId a -> equipmentId ∉ exposedIds a ->
      after.find? equipmentId = some row
  others : forall equipmentId row, after.find? equipmentId = some row ->
    row.adapterId ≠ adapterId a ->
      before.find? equipmentId = some row ∧ equipmentId ∉ exposedIds a

theorem updateRows_owned (rows : CacheRows) (a : adapter) (equipmentId : String)
    (row : EquipmentSnapshot) :
    ((updateRows rows a).find? equipmentId = some row ∧ row.adapterId = adapterId a) <->
      lastSnapshot a equipmentId = some row := by
  rw [updateRows_cases]
  constructor
  · intro h
    rcases h with ⟨hsnapshot | ⟨_, _, hother⟩, howner⟩
    · exact hsnapshot
    · exact absurd howner hother
  · intro h
    exact ⟨Or.inl h, adapterId_lastSnapshot h⟩

theorem updateRows_exact (rows : CacheRows) (a : adapter) :
    Refreshed rows (updateRows rows a) a ∧
      forall equipmentId, (updateRows (updateRows rows a) a).find? equipmentId =
        (updateRows rows a).find? equipmentId := by
  constructor
  · constructor
    case owned =>
      intro equipmentId row
      rw [updateRows_owned, lastSnapshot, Option.map_eq_some_iff]
      simp only [eq_comm]
    case each =>
      intro equipmentId hexposed
      rcases Option.isSome_iff_exists.mp ((lastExposed_isSome a equipmentId).mpr hexposed)
        with ⟨e, he⟩
      have hsnapshot : lastSnapshot a equipmentId =
          some (makeSnapshot e a (decide (connectionState a ≠ .connected))) := by
        unfold lastSnapshot
        rw [he]
        rfl
      exact ⟨_, (updateRows_owned rows a equipmentId _).mpr hsnapshot⟩
    case framed =>
      intro equipmentId row hrow hother hnot
      exact (updateRows_cases rows a equipmentId row).mpr (Or.inr ⟨hnot, hrow, hother⟩)
    case others =>
      intro equipmentId row hrow hother
      rcases (updateRows_cases rows a equipmentId row).mp hrow with hown | ⟨hnot, hold, _⟩
      · exact absurd (adapterId_lastSnapshot hown) hother
      · exact ⟨hold, hnot⟩
  · intro equipmentId
    apply Option.ext
    intro row
    rw [updateRows_cases, updateRows_cases]
    constructor
    · intro h
      rcases h with hown | ⟨_, hown | hframed, hother⟩
      · exact Or.inl hown
      · exact absurd (adapterId_lastSnapshot hown) hother
      · exact Or.inr hframed
    · intro h
      rcases h with hown | ⟨hnot, hold, hother⟩
      · exact Or.inl hown
      · exact Or.inr ⟨hnot, Or.inr ⟨hnot, hold, hother⟩, hother⟩

/-!
# The cache
-/

theorem find?_updateRows_of_rows {rows : CacheRows} {c : LiveStateCache}
    (h : forall equipmentId, rows.find? equipmentId = c.find? equipmentId) (a : adapter)
    (equipmentId : String) :
    (updateRows rows a).find? equipmentId = (c.updateFromAdapter a).find? equipmentId := by
  have hsnapshot : lastSnapshot a equipmentId = snapshotFor a equipmentId := by
    unfold lastSnapshot lastExposed snapshotFor snapshots
    rw [← List.map_reverse]
    induction (exposed a).reverse with
    | nil => rfl
    | cons e rest ih =>
        rw [List.map_cons, Association.lookup_cons_eq_ite, ← ih]
        by_cases he : equipmentId = e.id
        · simp [he]
        · have hne : e.id ≠ equipmentId := fun heq => he heq.symm
          simp [he, hne]
  rw [find?_updateRows, LiveStateCache.find?_updateFromAdapter, hsnapshot, h]

end Icp
end VirtualFactory
