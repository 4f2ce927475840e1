import VirtualFactory.Icp.PollScheduler

/-!
# The poll cycle

What a whole cycle makes of the adapters, of every row of the cache and of the claimed
client identifiers.
-/

namespace VirtualFactory
namespace Icp

open Foundation IndustrialAdapter

variable {adapter device stimulus : Type}
  [IndustrialAdapter adapter device stimulus] [LawfulPoll adapter]

def polled (d : device) (a : adapter) : adapter :=
  if connectionState a = .connected then (poll d a {}).1 else a

/-!
# One visit
-/

omit [LawfulPoll adapter] in
theorem polled_of_not_connected (d : device) {a : adapter}
    (h : connectionState a ≠ .connected) : polled d a = a :=
  if_neg h

omit [LawfulPoll adapter] in
theorem adapterId_polled (d : device) (a : adapter) :
    adapterId (polled d a) = adapterId a := by
  unfold polled
  split
  · exact id_poll d a {}
  · rfl

theorem exposedIds_polled (d : device) (a : adapter) :
    exposedIds (polled d a) = exposedIds a := by
  unfold polled
  split
  · rename_i h
    exact LawfulPoll.poll_exposedIds d a {} h
  · rfl

theorem connectionState_polled (d : device) (a : adapter) :
    connectionState (polled d a) = .disconnected <->
      connectionState a = .disconnected := by
  unfold polled
  split
  · rename_i h
    rw [h]
    constructor
    · intro hpoll
      exact absurd hpoll (LawfulPoll.poll_connectionState d a {} h)
    · intro hstate
      cases hstate
  · exact Iff.rfl

theorem poll_eq_polled (d : device) {a : adapter}
    (h : connectionState a = .connected) :
    exists dropped : Finset String, forall ids : ClientIds,
      poll d a ids = (polled d a, { ids with claimed := ids.claimed \ dropped }) := by
  rcases LawfulPoll.poll_local d a h with ⟨b, dropped, hpoll⟩
  refine ⟨dropped, fun ids => ?_⟩
  rw [polled, if_pos h, hpoll, hpoll]

theorem pollAdapterLocked_fst (d : device) (a : adapter) (s : Shared) :
    (pollAdapterLocked d a s).1 = polled d a := by
  unfold pollAdapterLocked
  cases hstate : connectionState a with
  | disconnected => exact (polled_of_not_connected d (by simp [hstate])).symm
  | connected =>
      rcases poll_eq_polled d hstate with ⟨dropped, hpoll⟩
      show (poll d a s.2).1 = _
      rw [hpoll]
  | faulted => exact (polled_of_not_connected d (by simp [hstate])).symm

theorem pollAdapterLocked_ids (d : device) (a : adapter) :
    exists dropped : Finset String, forall s : Shared,
      (pollAdapterLocked d a s).2.2 =
        { s.2 with claimed := s.2.claimed \ dropped } := by
  cases hstate : connectionState a with
  | connected =>
      rcases poll_eq_polled d hstate with ⟨dropped, hpoll⟩
      refine ⟨dropped, fun s => ?_⟩
      simp [pollAdapterLocked, hstate, hpoll]
  | disconnected =>
      refine ⟨∅, fun s => ?_⟩
      simp [pollAdapterLocked, hstate]
  | faulted =>
      refine ⟨∅, fun s => ?_⟩
      simp [pollAdapterLocked, hstate]

theorem find?_visit (d : device) (a : adapter) (s : Shared) (equipmentId : String) :
    (pollAdapterLocked d a s).2.1.find? equipmentId =
      visitRow a (polled d a) equipmentId (s.1.find? equipmentId) := by
  rw [find?_pollAdapterLocked, pollAdapterLocked_fst]

theorem visitShows_isSome (d : device) (a : adapter) (equipmentId : String) :
    (visitShows a (polled d a) equipmentId).isSome <->
      connectionState a ≠ .disconnected ∧ equipmentId ∈ exposedIds a := by
  unfold visitShows
  split
  · rename_i h
    simp [h]
  · rename_i h
    rw [snapshotFor_isSome, exposedIds_polled]
    simp [h]

omit [LawfulPoll adapter] in
theorem adapterId_of_visitShows {d : device} {a : adapter} {equipmentId : String}
    {row : EquipmentSnapshot}
    (h : visitShows a (polled d a) equipmentId = some row) :
    row.adapterId = adapterId a := by
  unfold visitShows at h
  split at h
  · cases h
  · rw [adapterId_of_snapshotFor h, adapterId_polled]

/-!
# The whole cycle
-/

/-- The row under an identifier after the visits of a list of adapters. -/
def cycleRow (devices : String -> device) (equipmentId : String) (as : List adapter)
    (row : Option EquipmentSnapshot) : Option EquipmentSnapshot :=
  as.foldl
    (fun row a => visitRow a (polled (devices (adapterId a)) a) equipmentId row) row

/-- The last snapshot that the visits of a list of adapters show. -/
def lastShown (devices : String -> device) (equipmentId : String)
    (as : List adapter) : Option EquipmentSnapshot :=
  (as.filterMap fun a =>
    visitShows a (polled (devices (adapterId a)) a) equipmentId).getLast?

/-- What the adapter of a row makes of it, if it is among the visited ones. -/
def ownerKeeps (as : List adapter) (row : EquipmentSnapshot) :
    Option EquipmentSnapshot :=
  match as.find? (fun a => adapterId a = row.adapterId) with
  | some owner => visitKeeps owner row
  | none => some row

omit [LawfulPoll adapter] in
theorem adapterId_of_lastShown {devices : String -> device} {equipmentId : String}
    {as : List adapter} {row : EquipmentSnapshot}
    (h : lastShown devices equipmentId as = some row) :
    exists a, a ∈ as ∧
      visitShows a (polled (devices (adapterId a)) a) equipmentId = some row := by
  have hmem := List.mem_of_getLast? h
  rcases List.mem_filterMap.mp hmem with ⟨a, ha, hshows⟩
  exact ⟨a, ha, hshows⟩

theorem lastShown_isSome (devices : String -> device) (equipmentId : String)
    (as : List adapter) :
    (lastShown devices equipmentId as).isSome <->
      exists a, a ∈ as ∧ connectionState a ≠ .disconnected ∧
        equipmentId ∈ exposedIds a := by
  constructor
  · intro h
    rcases Option.isSome_iff_exists.mp h with ⟨row, hrow⟩
    rcases adapterId_of_lastShown hrow with ⟨a, ha, hshows⟩
    exact ⟨a, ha, (visitShows_isSome _ a equipmentId).mp (by rw [hshows]; rfl)⟩
  · rintro ⟨a, ha, hshown⟩
    rcases Option.isSome_iff_exists.mp
      ((visitShows_isSome (devices (adapterId a)) a equipmentId).mpr hshown) with
      ⟨row, hrow⟩
    unfold lastShown
    rw [List.getLast?_isSome]
    exact List.ne_nil_of_mem (List.mem_filterMap.mpr ⟨a, ha, hrow⟩)

omit [LawfulPoll adapter] in
theorem lastShown_append (devices : String -> device) (equipmentId : String)
    (as : List adapter) (a : adapter) :
    lastShown devices equipmentId (as ++ [a]) =
      (visitShows a (polled (devices (adapterId a)) a) equipmentId).or
        (lastShown devices equipmentId as) := by
  unfold lastShown
  rw [List.filterMap_append]
  cases hshows : visitShows a (polled (devices (adapterId a)) a) equipmentId with
  | none => simp [hshows]
  | some shown => simp [hshows]

omit [LawfulPoll adapter] in
theorem ownerKeeps_append {as : List adapter} {a : adapter}
    (h : forall b, b ∈ as -> adapterId b ≠ adapterId a) (row : EquipmentSnapshot) :
    ownerKeeps (as ++ [a]) row = (ownerKeeps as row).bind (visitKeeps a) := by
  unfold ownerKeeps
  rw [List.find?_append]
  cases hfind : as.find? (fun b => adapterId b = row.adapterId) with
  | some owner =>
      have howner : adapterId owner = row.adapterId := by
        simpa using List.find?_some hfind
      have hne := h owner (List.mem_of_find?_eq_some hfind)
      show visitKeeps owner row = (visitKeeps owner row).bind (visitKeeps a)
      cases hkept : visitKeeps owner row with
      | none => rfl
      | some kept =>
          have hkeptOwner := adapterId_of_visitKeeps hkept
          symm
          apply visitKeeps_of_ne
          rw [hkeptOwner, ← howner]
          exact hne
  | none =>
      show _ = visitKeeps a row
      by_cases howner : adapterId a = row.adapterId
      · simp [howner]
      · simp [howner, visitKeeps_of_ne (Ne.symm howner)]

omit [LawfulPoll adapter] in
/-- A cycle leaves the last snapshot that is shown, and a row that nobody overwrites
to its owner. -/
theorem cycleRow_eq (devices : String -> device) (equipmentId : String)
    {as : List adapter} (h : (as.map adapterId).Nodup)
    (row : Option EquipmentSnapshot) :
    cycleRow devices equipmentId as row =
      (lastShown devices equipmentId as).or (row.bind (ownerKeeps as)) := by
  induction as using List.reverseRecOn with
  | nil =>
      cases row <;> rfl
  | append_singleton as a ih =>
      rw [List.map_append, List.map_singleton] at h
      have hparts := List.nodup_append.mp h
      have hnew : forall b, b ∈ as -> adapterId b ≠ adapterId a := fun b hb =>
        hparts.2.2 _ (List.mem_map_of_mem hb) _ List.mem_cons_self
      have hrow : row.bind (ownerKeeps (as ++ [a])) =
          (row.bind (ownerKeeps as)).bind (visitKeeps a) := by
        cases row with
        | none => rfl
        | some r => exact ownerKeeps_append hnew r
      rw [cycleRow, List.foldl_append]
      show visitRow a _ equipmentId (cycleRow devices equipmentId as row) = _
      rw [ih hparts.1, lastShown_append, Option.or_assoc, hrow]
      unfold visitRow
      congr 1
      -- a snapshot that an earlier visit has shown belongs to another adapter
      cases hlast : lastShown devices equipmentId as with
      | none => rfl
      | some shown =>
          rcases adapterId_of_lastShown hlast with ⟨b, hb, hbshows⟩
          have howner := adapterId_of_visitShows hbshows
          exact visitKeeps_of_ne (by rw [howner]; exact hnew b hb)

/-!
# The cycle of the scheduler
-/

theorem pollOnce_eq (devices : String -> device) (m : AdapterManager adapter)
    (s : Shared) :
    (pollOnce devices m s).1.registered =
        m.registered.map (fun a => polled (devices (adapterId a)) a) ∧
      (pollOnce devices m s).2 =
        m.registered.foldl
          (fun s a => (pollAdapterLocked (devices (adapterId a)) a s).2) s := by
  have hvisit := Table.visitEntries_of_local
    (f := fun (_ : String) a s => pollAdapterLocked (devices (adapterId a)) a s)
    (g := fun _ a => polled (devices (adapterId a)) a)
    (fun _ a s => pollAdapterLocked_fst (devices (adapterId a)) a s)
    m.adapters.entries s
  unfold AdapterManager.registered
  constructor
  · show List.map Prod.snd (Table.visitEntries _ m.adapters.entries s).1 = _
    rw [hvisit, List.map_map, List.map_map]
    rfl
  · show (Table.visitEntries _ m.adapters.entries s).2 = _
    rw [hvisit, List.foldl_map]

theorem find?_pollOnce (devices : String -> device) (m : AdapterManager adapter)
    (s : Shared) (key : String) :
    (pollOnce devices m s).1.find? key = (m.find? key).map (polled (devices key)) := by
  have hvisit := Table.find?_visit_of_local
    (f := fun (_ : String) a s => pollAdapterLocked (devices (adapterId a)) a s)
    (g := fun _ a => polled (devices (adapterId a)) a)
    (fun _ a s => pollAdapterLocked_fst (devices (adapterId a)) a s)
    m.adapters s key
  refine hvisit.trans ?_
  show (m.find? key).map _ = _
  cases hfind : m.find? key with
  | none => rfl
  | some a =>
      have hkey := AdapterManager.adapterId_of_find? hfind
      simp [hkey]

theorem find?_foldl_visit (devices : String -> device) (equipmentId : String)
    (as : List adapter) (s : Shared) :
    (as.foldl (fun s a => (pollAdapterLocked (devices (adapterId a)) a s).2)
        s).1.find? equipmentId =
      cycleRow devices equipmentId as (s.1.find? equipmentId) := by
  induction as generalizing s with
  | nil => rfl
  | cons a rest ih =>
      rw [List.foldl_cons, ih, find?_visit]
      rfl

theorem cache_pollOnce (devices : String -> device) (m : AdapterManager adapter)
    (s : Shared) (equipmentId : String) :
    (pollOnce devices m s).2.1.find? equipmentId =
      (lastShown devices equipmentId m.registered).or
        ((s.1.find? equipmentId).bind (ownerKeeps m.registered)) := by
  rw [(pollOnce_eq devices m s).2, find?_foldl_visit,
    cycleRow_eq devices equipmentId m.nodup_registered]

end Icp
end VirtualFactory
