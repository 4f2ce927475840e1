import VirtualFactory.Icp.AdapterFactory
import VirtualFactory.Icp.PollCycle
import VirtualFactory.Icp.Runtime

/-!
# Fresh snapshots

What the cache says of an adapter right after a poll cycle, and what an adapter that
has left the manager leaves behind.
-/

namespace VirtualFactory
namespace Icp

open Foundation IndustrialAdapter

section

variable {adapter device stimulus : Type}
  [IndustrialAdapter adapter device stimulus]

/-- Every snapshot is of a registered adapter that is not disconnected, and stale
exactly when that adapter is not connected.  Every machine that only one adapter
exposes, and that adapter is connected, has exactly one snapshot, of that adapter. -/
structure Fresh (s : Runtime adapter) : Prop where
  owned : forall row, row ∈ s.cache.equipment ->
    exists a, a ∈ s.manager.registered ∧ adapterId a = row.adapterId ∧
      connectionState a ≠ .disconnected ∧
      (row.stale = false <-> connectionState a = .connected)
  shown : forall a, a ∈ s.manager.registered -> connectionState a = .connected ->
    forall equipmentId, equipmentId ∈ exposedIds a ->
      (forall b, b ∈ s.manager.registered -> equipmentId ∈ exposedIds b -> b = a) ->
        exists row, row.adapterId = adapterId a ∧
          forall other, other ∈ s.cache.equipment ∧ other.equipmentId = equipmentId <->
            other = row

/-- Every snapshot is of an adapter that is still registered, or of a machine that a
registered adapter exposes which is not disconnected. -/
def NoOrphans (s : Runtime adapter) : Prop :=
  forall row, row ∈ s.cache.equipment ->
    (exists a, a ∈ s.manager.registered ∧ adapterId a = row.adapterId) ∨
      exists a, a ∈ s.manager.registered ∧ connectionState a ≠ .disconnected ∧
        row.equipmentId ∈ exposedIds a

variable [LawfulPoll adapter]

theorem mem_registered_pollOnce (devices : String -> device) (s : Runtime adapter)
    (b : adapter) :
    b ∈ (Runtime.step ⟨.pollOnce, devices⟩ s).2.manager.registered <->
      exists a, a ∈ s.manager.registered ∧ b = polled (devices (adapterId a)) a := by
  have heq := (pollOnce_eq devices s.manager (s.cache, s.clientIds)).1
  show b ∈ (pollOnce devices s.manager (s.cache, s.clientIds)).1.registered <-> _
  rw [heq, List.mem_map]
  simp only [eq_comm]

theorem find?_step_pollOnce (devices : String -> device) (s : Runtime adapter)
    (equipmentId : String) :
    (Runtime.step ⟨.pollOnce, devices⟩ s).2.cache.find? equipmentId =
      (lastShown devices equipmentId s.manager.registered).or
        ((s.cache.find? equipmentId).bind (ownerKeeps s.manager.registered)) :=
  cache_pollOnce devices s.manager (s.cache, s.clientIds) equipmentId

theorem owned_of_lastShown {devices : String -> device} {equipmentId : String}
    {as : List adapter} {row : EquipmentSnapshot}
    (h : lastShown devices equipmentId as = some row) :
    exists a, a ∈ as ∧ row.adapterId = adapterId a ∧
      connectionState a ≠ .disconnected ∧ equipmentId ∈ exposedIds a ∧
      (row.stale = false <->
        connectionState (polled (devices (adapterId a)) a) = .connected) := by
  rcases adapterId_of_lastShown h with ⟨a, ha, hshows⟩
  have hsome := (visitShows_isSome (devices (adapterId a)) a equipmentId).mp
    (by rw [hshows]; rfl)
  refine ⟨a, ha, adapterId_of_visitShows hshows, hsome.1, hsome.2, ?_⟩
  unfold visitShows at hshows
  rw [if_neg hsome.1] at hshows
  rcases snapshotFor_spec hshows with ⟨e, _, _, rfl⟩
  simp [makeSnapshot]

theorem noOrphans_of_fresh {devices : String -> device} {s : Runtime adapter}
    (h : Fresh (Runtime.step ⟨.pollOnce, devices⟩ s).2) : NoOrphans s := by
  intro row hrow
  rw [LiveStateCache.mem_equipment_iff] at hrow
  by_cases howner : exists a, a ∈ s.manager.registered ∧ adapterId a = row.adapterId
  · exact Or.inl howner
  · right
    cases hlast : lastShown devices row.equipmentId s.manager.registered with
    | some shown =>
        exact (lastShown_isSome devices row.equipmentId s.manager.registered).mp
          (by rw [hlast]; rfl)
    | none =>
        -- nobody looks at the row, so it is still there
        have hunknown : s.manager.registered.find?
            (fun a => adapterId a = row.adapterId) = none := by
          rw [List.find?_eq_none]
          intro a ha hid
          exact howner ⟨a, ha, of_decide_eq_true hid⟩
        have hkept := find?_step_pollOnce devices s row.equipmentId
        rw [hlast, hrow, Option.none_or] at hkept
        have hsame : (some row).bind (ownerKeeps s.manager.registered) = some row := by
          show ownerKeeps s.manager.registered row = some row
          unfold ownerKeeps
          rw [hunknown]
        rcases h.owned row ((LiveStateCache.mem_equipment_iff _ row).mpr
          (hkept.trans hsame)) with ⟨b, hb, hid, _⟩
        rcases (mem_registered_pollOnce devices s b).mp hb with ⟨a, ha, rfl⟩
        rw [adapterId_polled] at hid
        exact absurd ⟨a, ha, hid⟩ howner

omit [LawfulPoll adapter] in
/-- A snapshot that a cycle keeps is of a faulted adapter without machines. -/
theorem owned_of_kept {as : List adapter} {row kept : EquipmentSnapshot}
    (h : ownerKeeps as row = some kept)
    (howner : exists a, a ∈ as ∧ adapterId a = row.adapterId) :
    exists a, a ∈ as ∧ adapterId a = kept.adapterId ∧ connectionState a = .faulted ∧
      kept.stale = true := by
  unfold ownerKeeps at h
  cases hfind : as.find? (fun a => adapterId a = row.adapterId) with
  | none =>
      rcases howner with ⟨a, ha, hid⟩
      exact absurd (decide_eq_true hid) (List.find?_eq_none.mp hfind a ha)
  | some owner =>
      have hid : adapterId owner = row.adapterId := by
        simpa using List.find?_some hfind
      rw [hfind] at h
      have hkept : visitKeeps owner row = some kept := h
      unfold visitKeeps at hkept
      rw [if_neg (not_not.mpr hid.symm)] at hkept
      split at hkept
      · rename_i hstate
        cases hkept
        exact ⟨owner, List.mem_of_find?_eq_some hfind, hid, hstate.1, rfl⟩
      · cases hkept

theorem owned_pollOnce {devices : String -> device} {s : Runtime adapter}
    (h : NoOrphans s) {row : EquipmentSnapshot}
    (hrow : row ∈ (Runtime.step ⟨.pollOnce, devices⟩ s).2.cache.equipment) :
    exists b, b ∈ (Runtime.step ⟨.pollOnce, devices⟩ s).2.manager.registered ∧
      adapterId b = row.adapterId ∧ connectionState b ≠ .disconnected ∧
      (row.stale = false <-> connectionState b = .connected) := by
  rw [LiveStateCache.mem_equipment_iff, find?_step_pollOnce] at hrow
  rcases Option.or_eq_some_iff.mp hrow with hshown | ⟨hnone, hkept⟩
  · rcases owned_of_lastShown hshown with ⟨a, ha, hid, hstate, _, hstale⟩
    refine ⟨polled (devices (adapterId a)) a,
      (mem_registered_pollOnce devices s _).mpr ⟨a, ha, rfl⟩, ?_, ?_, hstale⟩
    · rw [adapterId_polled, hid]
    · exact fun hdown => hstate ((connectionState_polled _ a).mp hdown)
  · rcases Option.bind_eq_some_iff.mp hkept with ⟨before, hbefore, hkeeps⟩
    have hkeyed := s.cache.keyed row.equipmentId before hbefore
    rcases h before ((LiveStateCache.mem_equipment_iff _ before).mpr
      (by rw [hkeyed]; exact hbefore)) with howner | hexposed
    · rcases owned_of_kept hkeeps howner with ⟨a, ha, hid, hstate, hstale⟩
      have hsame := polled_of_not_connected (devices (adapterId a)) (a := a)
        (by rw [hstate]; decide)
      refine ⟨a, (mem_registered_pollOnce devices s a).mpr ⟨a, ha, hsame.symm⟩, hid,
        ?_, ?_⟩
      · rw [hstate]
        decide
      · rw [hstate, hstale]
        decide
    · rw [hkeyed] at hexposed
      have hsome := (lastShown_isSome devices row.equipmentId _).mpr hexposed
      rw [hnone] at hsome
      cases hsome

theorem shown_pollOnce (devices : String -> device) (s : Runtime adapter)
    {b : adapter}
    (hb : b ∈ (Runtime.step ⟨.pollOnce, devices⟩ s).2.manager.registered)
    (hstate : connectionState b = .connected) {equipmentId : String}
    (hexposed : equipmentId ∈ exposedIds b)
    (honly : forall c,
      c ∈ (Runtime.step ⟨.pollOnce, devices⟩ s).2.manager.registered ->
        equipmentId ∈ exposedIds c -> c = b) :
    exists row, row.adapterId = adapterId b ∧ forall other,
      other ∈ (Runtime.step ⟨.pollOnce, devices⟩ s).2.cache.equipment ∧
          other.equipmentId = equipmentId <->
        other = row := by
  rcases (mem_registered_pollOnce devices s b).mp hb with ⟨a, ha, rfl⟩
  rw [exposedIds_polled] at hexposed
  have hup : connectionState a ≠ .disconnected := by
    intro hdown
    rw [(connectionState_polled (devices (adapterId a)) a).mpr hdown] at hstate
    cases hstate
  rcases Option.isSome_iff_exists.mp
    ((lastShown_isSome devices equipmentId s.manager.registered).mpr
      ⟨a, ha, hup, hexposed⟩) with ⟨row, hrow⟩
  have hfind : (Runtime.step ⟨.pollOnce, devices⟩ s).2.cache.find? equipmentId =
      some row := by
    rw [find?_step_pollOnce, hrow, Option.some_or]
  rcases owned_of_lastShown hrow with ⟨c, hc, hid, _, hcexposed, _⟩
  have hsame := honly (polled (devices (adapterId c)) c)
    ((mem_registered_pollOnce devices s _).mpr ⟨c, hc, rfl⟩)
    (by rw [exposedIds_polled]; exact hcexposed)
  have howner := congrArg adapterId hsame
  rw [adapterId_polled, adapterId_polled] at howner
  refine ⟨row, by rw [hid, howner, adapterId_polled], fun other => ?_⟩
  rw [LiveStateCache.mem_equipment_iff]
  constructor
  · rintro ⟨hother, rfl⟩
    exact Option.some.inj (hother.symm.trans hfind)
  · rintro rfl
    have hkeyed := LiveStateCache.keyed _ equipmentId other hfind
    exact ⟨by rw [hkeyed]; exact hfind, hkeyed⟩

/-- The cache is fresh after a cycle exactly when the cycle finds no orphan. -/
theorem fresh_pollOnce_iff (devices : String -> device) (s : Runtime adapter) :
    Fresh (Runtime.step ⟨.pollOnce, devices⟩ s).2 <-> NoOrphans s := by
  constructor
  · exact noOrphans_of_fresh
  · intro h
    exact
      { owned := fun row hrow => owned_pollOnce h hrow
        shown := fun b hb hstate equipmentId hexposed honly =>
          shown_pollOnce devices s hb hstate hexposed honly }

end

/-!
# Runs
-/

/-- In a run of a runtime, the cache is fresh after every poll cycle exactly when no
cycle finds a snapshot that a removed adapter has left behind. -/
theorem fresh_run_iff (es : List (Event Adapter AdapterDevice AdapterStimulus)) :
    (forall before devices after, es = before ++ ⟨.pollOnce, devices⟩ :: after ->
        Fresh ((runtime Adapter).run (before ++ [⟨.pollOnce, devices⟩])
          Runtime.empty)) <->
      (forall before devices after, es = before ++ ⟨.pollOnce, devices⟩ :: after ->
        NoOrphans ((runtime Adapter).run before Runtime.empty)) := by
  have hcycle : forall (before : List (Event Adapter AdapterDevice AdapterStimulus))
      (devices : String -> AdapterDevice),
      Fresh ((runtime Adapter).run (before ++ [⟨.pollOnce, devices⟩])
        Runtime.empty) <->
      NoOrphans ((runtime Adapter).run before Runtime.empty) := by
    intro before devices
    rw [Machine.run_append]
    exact fresh_pollOnce_iff devices _
  constructor
  · intro h before devices after hsplit
    exact (hcycle before devices).mp (h before devices after hsplit)
  · intro h before devices after hsplit
    exact (hcycle before devices).mpr (h before devices after hsplit)

def removedWhileConnected : List (Event Adapter AdapterDevice AdapterStimulus) :=
  [⟨.addAdapter (some (.mock
      ((MockIndustrialAdapter.new "mock-a").addDevice "PUMP-001" "Pump"))), default⟩,
    ⟨.connectAdapter "mock-a", default⟩, ⟨.pollOnce, default⟩,
    ⟨.removeAdapter "mock-a", default⟩, ⟨.pollOnce, default⟩]

/-- Its snapshot is still there after the next cycle, and not even stale. -/
theorem not_fresh_removedWhileConnected :
    ¬ Fresh ((runtime Adapter).run removedWhileConnected Runtime.empty) ∧
      (((runtime Adapter).run removedWhileConnected Runtime.empty).cache.equipment.map
        (fun row => (row.equipmentId, row.adapterId, row.stale))) =
          [("PUMP-001", "mock-a", false)] := by
  have hrows : (((runtime Adapter).run removedWhileConnected
      Runtime.empty).cache.equipment.map
        (fun row => (row.equipmentId, row.adapterId, row.stale))) =
          [("PUMP-001", "mock-a", false)] := by
    decide
  have hgone : ((runtime Adapter).run removedWhileConnected
      Runtime.empty).manager.registered = [] := by
    rfl
  refine ⟨fun h => ?_, hrows⟩
  have hmem : ("PUMP-001", "mock-a", false) ∈ (((runtime Adapter).run
      removedWhileConnected Runtime.empty).cache.equipment.map
        (fun row => (row.equipmentId, row.adapterId, row.stale))) := by
    rw [hrows]
    exact List.mem_cons_self
  rcases List.mem_map.mp hmem with ⟨row, hrow, _⟩
  rcases h.owned row hrow with ⟨a, ha, _⟩
  rw [hgone] at ha
  cases ha

end Icp
end VirtualFactory
