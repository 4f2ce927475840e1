import VirtualFactory.Icp.AdapterManager
import VirtualFactory.Icp.LiveStateCache

/-!
# The poll scheduler

One poll cycle visits every adapter of the manager and refreshes the cache.
-/

namespace VirtualFactory
namespace Icp

open Foundation IndustrialAdapter
open LiveStateCache (markRow)

variable {adapter device stimulus : Type}
  [IndustrialAdapter adapter device stimulus]

/-- What a poll cycle changes besides the adapters. -/
abbrev Shared := LiveStateCache × ClientIds

def pollAdapterLocked (d : device) (a : adapter) (s : Shared) : adapter × Shared :=
  match connectionState a with
  | .disconnected => (a, s.1.removeAdapterEquipment (adapterId a), s.2)
  | .connected =>
      let r := poll d a s.2
      (r.1, s.1.updateFromAdapter r.1, r.2)
  | .faulted =>
      let cache := if (equipment a).isEmpty then s.1 else s.1.updateFromAdapter a
      (a, cache.markAdapterCommunication (adapterId a) .faulted (lastError a), s.2)

theorem adapterId_pollAdapterLocked (d : device) (a : adapter) (s : Shared) :
    adapterId (pollAdapterLocked d a s).1 = adapterId a := by
  unfold pollAdapterLocked
  cases connectionState a with
  | disconnected => rfl
  | connected => exact id_poll d a s.2
  | faulted => rfl

def pollOnce (devices : String -> device) (m : AdapterManager adapter)
    (s : Shared) : AdapterManager adapter × Shared :=
  m.visit (fun a s => pollAdapterLocked (devices (adapterId a)) a s)
    (fun a s => adapterId_pollAdapterLocked (devices (adapterId a)) a s) s

/-!
# What a visit does to a row

A visit shows a new snapshot under an identifier, or it keeps, marks or drops the
row that was there.
-/

/-- The snapshot that a visit stores under an identifier. -/
def visitShows (before after : adapter) (equipmentId : String) :
    Option EquipmentSnapshot :=
  if connectionState before = .disconnected then none
  else snapshotFor after equipmentId

/-- What a visit makes of a row that it does not overwrite. -/
def visitKeeps (before : adapter) (row : EquipmentSnapshot) :
    Option EquipmentSnapshot :=
  if row.adapterId ≠ adapterId before then some row
  else if connectionState before = .faulted ∧ equipment before = [] then
    some (markRow .faulted (lastError before) row)
  else none

def visitRow (before after : adapter) (equipmentId : String)
    (row : Option EquipmentSnapshot) : Option EquipmentSnapshot :=
  (visitShows before after equipmentId).or (row.bind (visitKeeps before))

theorem visitKeeps_of_ne {before : adapter} {row : EquipmentSnapshot}
    (h : row.adapterId ≠ adapterId before) : visitKeeps before row = some row :=
  if_pos h

theorem adapterId_of_visitKeeps {before : adapter} {row kept : EquipmentSnapshot}
    (h : visitKeeps before row = some kept) : kept.adapterId = row.adapterId := by
  unfold visitKeeps at h
  split at h
  · cases h
    rfl
  · split at h <;> cases h
    rfl

theorem adapterId_of_snapshotFor {a : adapter} {equipmentId : String}
    {row : EquipmentSnapshot} (h : snapshotFor a equipmentId = some row) :
    row.adapterId = adapterId a := by
  rcases snapshotFor_spec h with ⟨e, _, _, rfl⟩
  rfl

theorem filter_eq_bind_visitKeeps {a : adapter}
    (h : ¬ (connectionState a = .faulted ∧ equipment a = []))
    (row : Option EquipmentSnapshot) :
    row.filter (fun r => !(r.adapterId == adapterId a)) =
      row.bind (visitKeeps a) := by
  cases row with
  | none => rfl
  | some r =>
      show Option.filter _ (some r) = visitKeeps a r
      unfold visitKeeps
      rw [if_neg h]
      by_cases howner : r.adapterId = adapterId a <;> simp [Option.filter, howner]

theorem map_mark_snapshotFor {a : adapter} (h : connectionState a = .faulted)
    (equipmentId : String) :
    (snapshotFor a equipmentId).map
        (fun row => if row.adapterId = adapterId a then
          markRow .faulted (lastError a) row else row) =
      snapshotFor a equipmentId := by
  cases hshown : snapshotFor a equipmentId with
  | none => rfl
  | some row =>
      rcases snapshotFor_spec hshown with ⟨e, _, _, rfl⟩
      simp [makeSnapshot, markRow, h]

theorem map_mark_kept {a : adapter} (h : connectionState a = .faulted)
    (row : Option EquipmentSnapshot) (hequipment : equipment a ≠ []) :
    (row.bind (visitKeeps a)).map
        (fun row => if row.adapterId = adapterId a then
          markRow .faulted (lastError a) row else row) =
      row.bind (visitKeeps a) := by
  cases row with
  | none => rfl
  | some r =>
      show (visitKeeps a r).map _ = visitKeeps a r
      unfold visitKeeps
      by_cases howner : r.adapterId = adapterId a <;> simp [h, hequipment, howner]

theorem visitShows_of_ne {before : adapter}
    (h : connectionState before ≠ .disconnected) (after : adapter)
    (equipmentId : String) :
    visitShows before after equipmentId = snapshotFor after equipmentId :=
  if_neg h

theorem find?_pollAdapterLocked (d : device) (a : adapter) (s : Shared)
    (equipmentId : String) :
    (pollAdapterLocked d a s).2.1.find? equipmentId =
      visitRow a (pollAdapterLocked d a s).1 equipmentId
        (s.1.find? equipmentId) := by
  unfold visitRow
  cases hstate : connectionState a with
  | disconnected =>
      have hresult : pollAdapterLocked d a s =
          (a, s.1.removeAdapterEquipment (adapterId a), s.2) := by
        simp [pollAdapterLocked, hstate]
      rw [hresult, visitShows, if_pos hstate, Option.none_or,
        ← filter_eq_bind_visitKeeps (by simp [hstate])]
      exact LiveStateCache.find?_removeAdapterEquipment s.1 (adapterId a) equipmentId
  | connected =>
      have hresult : pollAdapterLocked d a s =
          ((poll d a s.2).1, s.1.updateFromAdapter (poll d a s.2).1,
            (poll d a s.2).2) := by
        simp [pollAdapterLocked, hstate]
      rw [hresult, visitShows_of_ne (by simp [hstate]),
        ← filter_eq_bind_visitKeeps (by simp [hstate]), ← id_poll d a s.2]
      exact LiveStateCache.find?_updateFromAdapter s.1 (poll d a s.2).1 equipmentId
  | faulted =>
      have hresult : pollAdapterLocked d a s =
          (a,
            (if (equipment a).isEmpty then s.1
              else s.1.updateFromAdapter a).markAdapterCommunication (adapterId a)
                .faulted (lastError a), s.2) := by
        simp [pollAdapterLocked, hstate]
      rw [hresult, visitShows_of_ne (by simp [hstate])]
      show LiveStateCache.find? (LiveStateCache.markAdapterCommunication _ _ _ _) _ = _
      rw [LiveStateCache.find?_markAdapterCommunication]
      by_cases hequipment : equipment a = []
      · have hnone : snapshotFor a equipmentId = none := by
          simp [snapshotFor, snapshots, exposed, hequipment]
        rw [hnone, Option.none_or, if_pos (by simp [hequipment])]
        cases s.1.find? equipmentId with
        | none => rfl
        | some row =>
            show some _ = visitKeeps a row
            unfold visitKeeps
            by_cases howner : row.adapterId = adapterId a <;>
              simp [hstate, hequipment, howner]
      · rw [if_neg (by simp [hequipment]), LiveStateCache.find?_updateFromAdapter,
          Option.map_or, map_mark_snapshotFor hstate,
          filter_eq_bind_visitKeeps (fun h => hequipment h.2),
          map_mark_kept hstate _ hequipment]

end Icp
end VirtualFactory
