import VirtualFactory.Foundation.Machine
import VirtualFactory.Icp.LiveStateCache

/-!
# Consistent caches

Whatever is done to a cache, all rows of one source tell the same about the link to
it.
-/

namespace VirtualFactory
namespace Icp

open Foundation IndustrialAdapter

variable {adapter device stimulus : Type}
  [IndustrialAdapter adapter device stimulus]

inductive CacheOperation (adapter : Type) where
  | updateFromAdapter (a : adapter)
  | markAdapterCommunication (adapterId : String)
      (communicationState : ConnectionState) (lastError : String)
  | removeAdapterEquipment (adapterId : String)
  | clear

/-- The cache on its own, with operations in any order. -/
def cacheMachine (adapter : Type) {device stimulus : Type}
    [IndustrialAdapter adapter device stimulus] :
    Machine LiveStateCache (CacheOperation adapter) Unit where
  step operation c :=
    match operation with
    | .updateFromAdapter a => ((), c.updateFromAdapter a)
    | .markAdapterCommunication adapterId communicationState lastError =>
        ((), c.markAdapterCommunication adapterId communicationState lastError)
    | .removeAdapterEquipment adapterId => ((), c.removeAdapterEquipment adapterId)
    | .clear => ((), c.clear)

def cacheAfter (operations : List (CacheOperation adapter)) : LiveStateCache :=
  (cacheMachine adapter).run operations LiveStateCache.empty

/-- What a row tells about the link to its source. -/
structure Communication where
  communicationState : ConnectionState
  lastError : String
  stale : Bool
  deriving DecidableEq

def EquipmentSnapshot.communication (row : EquipmentSnapshot) : Communication where
  communicationState := row.communicationState
  lastError := row.lastError
  stale := row.stale

def Communication.of (communicationState : ConnectionState) (lastError : String) :
    Communication where
  communicationState := communicationState
  lastError := lastError
  stale := decide (communicationState ≠ .connected)

namespace LiveStateCache

/-- The rows of a source all give this report. -/
def Reports (c : LiveStateCache) (source : String) (report : Communication) : Prop :=
  forall equipmentId row, c.find? equipmentId = some row -> row.adapterId = source ->
    row.communication = report

/-- Every source has one report, and it is marked stale unless it is connected. -/
def Consistent (c : LiveStateCache) : Prop :=
  forall source, exists communicationState lastError,
    c.Reports source (Communication.of communicationState lastError)

theorem consistent_empty : empty.Consistent := by
  intro source
  refine ⟨.disconnected, "", ?_⟩
  intro equipmentId row hrow
  cases hrow

theorem find?_updateFromAdapter_cases {c : LiveStateCache} {a : adapter}
    {equipmentId : String} {row : EquipmentSnapshot}
    (h : (c.updateFromAdapter a).find? equipmentId = some row) :
    snapshotFor a equipmentId = some row ∨
      (c.find? equipmentId = some row ∧ row.adapterId ≠ adapterId a) := by
  rw [find?_updateFromAdapter] at h
  rcases Option.or_eq_some_iff.mp h with hshown | ⟨_, hkept⟩
  · exact Or.inl hshown
  · rcases Option.filter_eq_some_iff.mp hkept with ⟨hold, howner⟩
    exact Or.inr ⟨hold, by simpa using howner⟩

theorem communication_snapshotFor {a : adapter} {equipmentId : String}
    {row : EquipmentSnapshot} (h : snapshotFor a equipmentId = some row) :
    row.adapterId = adapterId a ∧
      row.communication = Communication.of (connectionState a) (lastError a) := by
  rcases snapshotFor_spec h with ⟨e, _, _, rfl⟩
  exact ⟨rfl, rfl⟩

theorem Consistent.updateFromAdapter {c : LiveStateCache} (h : c.Consistent)
    (a : adapter) : (c.updateFromAdapter a).Consistent := by
  intro source
  by_cases hsource : source = adapterId a
  · -- no row of this source survives the update untouched
    refine ⟨connectionState a, lastError a, ?_⟩
    intro equipmentId row hrow howner
    rcases find?_updateFromAdapter_cases hrow with hshown | ⟨_, hother⟩
    · exact (communication_snapshotFor hshown).2
    · exact absurd (howner.trans hsource) hother
  · rcases h source with ⟨communicationState, lastError, hreports⟩
    refine ⟨communicationState, lastError, ?_⟩
    intro equipmentId row hrow howner
    rcases find?_updateFromAdapter_cases hrow with hshown | ⟨hold, _⟩
    · have hshownOwner := (communication_snapshotFor hshown).1
      exact absurd (howner.symm.trans hshownOwner) hsource
    · exact hreports equipmentId row hold howner

theorem Consistent.markAdapterCommunication {c : LiveStateCache} (h : c.Consistent)
    (marked : String) (communicationState : ConnectionState) (lastError : String) :
    (c.markAdapterCommunication marked communicationState lastError).Consistent := by
  intro source
  by_cases hsource : source = marked
  · refine ⟨communicationState, lastError, ?_⟩
    intro equipmentId row hrow howner
    rw [find?_markAdapterCommunication] at hrow
    rcases Option.map_eq_some_iff.mp hrow with ⟨before, _, hmarked⟩
    by_cases hbefore : before.adapterId = marked
    · rw [if_pos hbefore] at hmarked
      rw [← hmarked]
      rfl
    · rw [if_neg hbefore] at hmarked
      rw [hmarked] at hbefore
      exact absurd (howner.trans hsource) hbefore
  · rcases h source with ⟨before, lastErrorBefore, hreports⟩
    refine ⟨before, lastErrorBefore, ?_⟩
    intro equipmentId row hrow howner
    rw [find?_markAdapterCommunication] at hrow
    rcases Option.map_eq_some_iff.mp hrow with ⟨old, hold, hkept⟩
    by_cases hmarked : old.adapterId = marked
    · rw [if_pos hmarked] at hkept
      have howner' : row.adapterId = marked := by
        rw [← hkept]
        exact hmarked
      exact absurd (howner.symm.trans howner') hsource
    · rw [if_neg hmarked] at hkept
      rw [← hkept] at howner ⊢
      exact hreports equipmentId old hold howner

theorem Consistent.removeAdapterEquipment {c : LiveStateCache} (h : c.Consistent)
    (removed : String) : (c.removeAdapterEquipment removed).Consistent := by
  intro source
  rcases h source with ⟨communicationState, lastError, hreports⟩
  refine ⟨communicationState, lastError, ?_⟩
  intro equipmentId row hrow howner
  rw [find?_removeAdapterEquipment] at hrow
  exact hreports equipmentId row (Option.eq_some_of_filter_eq_some hrow) howner

theorem Consistent.step {c : LiveStateCache} (h : c.Consistent)
    (operation : CacheOperation adapter) :
    ((cacheMachine adapter).step operation c).2.Consistent := by
  cases operation with
  | updateFromAdapter a => exact h.updateFromAdapter a
  | markAdapterCommunication adapterId communicationState lastError =>
      exact h.markAdapterCommunication adapterId communicationState lastError
  | removeAdapterEquipment adapterId => exact h.removeAdapterEquipment adapterId
  | clear => exact consistent_empty

theorem consistent_after (operations : List (CacheOperation adapter)) :
    (cacheAfter operations).Consistent := by
  have hstep : forall (operation : CacheOperation adapter) (c : LiveStateCache),
      True -> c.Consistent -> ((cacheMachine adapter).step operation c).2.Consistent :=
    fun operation c _ h => h.step operation
  exact Machine.run_invariant hstep consistent_empty
    (Machine.admissible_true _ operations empty)

theorem Consistent.stale_iff {c : LiveStateCache} (h : c.Consistent)
    {equipmentId : String} {row : EquipmentSnapshot}
    (hrow : c.find? equipmentId = some row) :
    row.stale = true <-> row.communicationState ≠ .connected := by
  rcases h row.adapterId with ⟨communicationState, lastError, hreports⟩
  have hreport := hreports equipmentId row hrow rfl
  have hstate : row.communicationState = communicationState :=
    congrArg Communication.communicationState hreport
  have hstale : row.stale = decide (communicationState ≠ .connected) :=
    congrArg Communication.stale hreport
  rw [hstate, hstale, decide_eq_true_iff]

theorem Consistent.agree {c : LiveStateCache} (h : c.Consistent)
    {equipmentId otherId : String} {row other : EquipmentSnapshot}
    (hrow : c.find? equipmentId = some row) (hother : c.find? otherId = some other)
    (howner : row.adapterId = other.adapterId) :
    row.communication = other.communication := by
  rcases h other.adapterId with ⟨communicationState, lastError, hreports⟩
  exact (hreports equipmentId row hrow howner).trans
    (hreports otherId other hother rfl).symm

end LiveStateCache

/-- After any operations, every row is stored under its own identifier, it is stale
unless its source is connected, and the rows of one source agree. -/
theorem cache_consistent (operations : List (CacheOperation adapter)) :
    (forall equipmentId row, (cacheAfter operations).find? equipmentId = some row ->
      row.equipmentId = equipmentId ∧
        (row.stale = true <-> row.communicationState ≠ .connected)) ∧
    (forall equipmentId otherId row other,
      (cacheAfter operations).find? equipmentId = some row ->
      (cacheAfter operations).find? otherId = some other ->
      row.adapterId = other.adapterId ->
      row.communicationState = other.communicationState ∧
        row.lastError = other.lastError ∧ row.stale = other.stale) := by
  have hconsistent := LiveStateCache.consistent_after operations
  constructor
  · intro equipmentId row hrow
    exact ⟨(cacheAfter operations).keyed equipmentId row hrow,
      hconsistent.stale_iff hrow⟩
  · intro equipmentId otherId row other hrow hother howner
    have hagree := hconsistent.agree hrow hother howner
    exact ⟨congrArg Communication.communicationState hagree,
      congrArg Communication.lastError hagree, congrArg Communication.stale hagree⟩

end Icp
end VirtualFactory
