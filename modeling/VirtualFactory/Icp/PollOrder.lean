import VirtualFactory.Icp.AdapterFactory
import VirtualFactory.Icp.EquipmentIds
import VirtualFactory.Icp.PollCycle

/-!
# The order of a poll cycle

The adapters of the manager are visited in an arbitrary order.  A cycle over adapters
that expose no identifier twice has the same result in every order.
-/

namespace VirtualFactory
namespace Icp

open Foundation IndustrialAdapter

theorem getLast?_eq_of_perm {item : Type} {xs ys : List item} (h : xs.Perm ys)
    (heq : forall x, x ∈ xs -> forall y, y ∈ xs -> x = y) :
    xs.getLast? = ys.getLast? := by
  cases hx : xs.getLast? with
  | none =>
      rw [List.getLast?_eq_none_iff] at hx
      rw [hx] at h
      rw [List.nil_perm.mp h, List.getLast?_nil]
  | some x =>
      cases hy : ys.getLast? with
      | none =>
          rw [List.getLast?_eq_none_iff] at hy
          rw [hy] at h
          rw [List.perm_nil.mp h] at hx
          cases hx
      | some y =>
          rw [heq x (List.mem_of_getLast? hx) y
            (h.mem_iff.mpr (List.mem_of_getLast? hy))]

theorem find?_eq_of_perm {item : Type} {xs ys : List item} (h : xs.Perm ys)
    {found : item -> Bool}
    (heq : forall x, x ∈ xs -> found x = true ->
      forall y, y ∈ xs -> found y = true -> x = y) :
    xs.find? found = ys.find? found := by
  cases hx : xs.find? found with
  | none =>
      have hnone := List.find?_eq_none.mp hx
      symm
      rw [List.find?_eq_none]
      exact fun y hy => hnone y (h.mem_iff.mpr hy)
  | some x =>
      cases hy : ys.find? found with
      | none =>
          have hnone := List.find?_eq_none.mp hy x
            (h.mem_iff.mp (List.mem_of_find?_eq_some hx))
          exact absurd (List.find?_some hx) hnone
      | some y =>
          rw [heq x (List.mem_of_find?_eq_some hx) (List.find?_some hx) y
            (h.mem_iff.mpr (List.mem_of_find?_eq_some hy)) (List.find?_some hy)]

section

variable {adapter device stimulus : Type}
  [IndustrialAdapter adapter device stimulus] [LawfulPoll adapter]

omit [LawfulPoll adapter] in
theorem registered_perm {m n : AdapterManager adapter}
    (h : n.adapters.entries.Perm m.adapters.entries) :
    n.registered.Perm m.registered :=
  h.map Prod.snd

omit [LawfulPoll adapter] in
theorem eq_of_adapterId {m : AdapterManager adapter} {a b : adapter}
    (ha : a ∈ m.registered) (hb : b ∈ m.registered)
    (h : adapterId a = adapterId b) : a = b :=
  List.inj_on_of_nodup_map m.nodup_registered ha hb h

theorem eq_of_visitShows (devices : String -> device) {m : AdapterManager adapter}
    (hm : m.Separate) {equipmentId : String} {a b : adapter}
    (ha : a ∈ m.registered) (hb : b ∈ m.registered)
    (hashows : (visitShows a (polled (devices (adapterId a)) a)
      equipmentId).isSome)
    (hbshows : (visitShows b (polled (devices (adapterId b)) b)
      equipmentId).isSome) : a = b := by
  rw [visitShows_isSome] at hashows hbshows
  by_cases h : adapterId a = adapterId b
  · exact eq_of_adapterId ha hb h
  · exact absurd hbshows.2 (hm _ _ a b ((m.mem_registered_iff a).mp ha)
      ((m.mem_registered_iff b).mp hb) h hashows.2)

theorem lastShown_eq_of_perm (devices : String -> device)
    {m n : AdapterManager adapter} (hm : m.Separate)
    (h : n.adapters.entries.Perm m.adapters.entries) (equipmentId : String) :
    lastShown devices equipmentId n.registered =
      lastShown devices equipmentId m.registered := by
  symm
  apply getLast?_eq_of_perm ((registered_perm h).symm.filterMap _)
  intro x hx y hy
  rcases List.mem_filterMap.mp hx with ⟨a, ha, hax⟩
  rcases List.mem_filterMap.mp hy with ⟨b, hb, hby⟩
  have hab := eq_of_visitShows devices hm ha hb (by rw [hax]; rfl) (by rw [hby]; rfl)
  subst hab
  exact Option.some.inj (hax.symm.trans hby)

omit [LawfulPoll adapter] in
theorem ownerKeeps_eq_of_perm {m n : AdapterManager adapter}
    (h : n.adapters.entries.Perm m.adapters.entries) (row : EquipmentSnapshot) :
    ownerKeeps n.registered row = ownerKeeps m.registered row := by
  have hfind : n.registered.find? (fun a => adapterId a = row.adapterId) =
      m.registered.find? (fun a => adapterId a = row.adapterId) := by
    apply find?_eq_of_perm (registered_perm h)
    intro a ha haowner b hb hbowner
    refine eq_of_adapterId ha hb ?_
    rw [of_decide_eq_true haowner, of_decide_eq_true hbowner]
  unfold ownerKeeps
  rw [hfind]

theorem clientIds_pollOnce_of_perm (devices : String -> device)
    {m n : AdapterManager adapter}
    (h : n.adapters.entries.Perm m.adapters.entries) (s : Shared) :
    (pollOnce devices n s).2.2 = (pollOnce devices m s).2.2 := by
  choose dropped hdropped using fun a : adapter =>
    pollAdapterLocked_ids (devices (adapterId a)) a
  have hfold : forall (as : List adapter) (s : Shared),
      (as.foldl (fun s a => (pollAdapterLocked (devices (adapterId a)) a s).2)
          s).2 =
        as.foldl
          (fun ids a => { ids with claimed := ids.claimed \ dropped a }) s.2 := by
    intro as
    induction as with
    | nil => exact fun _ => rfl
    | cons a rest ih =>
        intro s
        rw [List.foldl_cons, List.foldl_cons, ih, hdropped]
  rw [(pollOnce_eq devices n s).2, (pollOnce_eq devices m s).2, hfold, hfold]
  apply (registered_perm h).foldl_eq'
  intro a _ b _ ids
  show ClientIds.mk ((ids.claimed \ dropped a) \ dropped b) ids.serial = _
  rw [sdiff_sdiff_comm]

/-- A poll cycle leaves the same rows and the same claims in every order. -/
theorem shared_pollOnce_of_perm (devices : String -> device)
    {m n : AdapterManager adapter} (hm : m.Separate)
    (h : n.adapters.entries.Perm m.adapters.entries) (s : Shared) :
    (pollOnce devices n s).2 = (pollOnce devices m s).2 := by
  apply Prod.ext
  · apply LiveStateCache.ext_find?
    intro equipmentId
    rw [cache_pollOnce, cache_pollOnce, lastShown_eq_of_perm devices hm h]
    congr 1
    cases s.1.find? equipmentId with
    | none => rfl
    | some row => exact ownerKeeps_eq_of_perm h row
  · exact clientIds_pollOnce_of_perm devices h s

theorem find?_pollOnce_of_perm (devices : String -> device)
    {m n : AdapterManager adapter}
    (h : n.adapters.entries.Perm m.adapters.entries) (s : Shared) (key : String) :
    (pollOnce devices n s).1.find? key = (pollOnce devices m s).1.find? key := by
  have hfind : n.find? key = m.find? key := Table.find?_eq_of_perm h key
  rw [find?_pollOnce, find?_pollOnce, hfind]

end

/-- Visiting the adapters of a runtime in another order makes the same of every
adapter, of every row of the cache and of the claimed client identifiers. -/
theorem pollOnce_any_order (devices : String -> AdapterDevice) (m n : AdapterManager Adapter)
    (hm : m.Separate) (h : n.adapters.entries.Perm m.adapters.entries)
    (cache : LiveStateCache) (ids : ClientIds) :
    (forall key, (pollOnce devices n (cache, ids)).1.find? key =
        (pollOnce devices m (cache, ids)).1.find? key) ∧
      (pollOnce devices n (cache, ids)).2 = (pollOnce devices m (cache, ids)).2 :=
  ⟨find?_pollOnce_of_perm devices h (cache, ids),
    shared_pollOnce_of_perm devices hm h (cache, ids)⟩

def twoMocks : AdapterManager Adapter :=
  let connected := fun id equipmentId =>
    Adapter.mock
      ((MockIndustrialAdapter.new id).addDevice equipmentId "Pump").connect.2
  { adapters :=
      { entries :=
          [("mock-a", connected "mock-a" "PUMP-001"),
            ("mock-b", connected "mock-b" "FAN-001")]
        nodupKeys := by decide }
    keyed := by
      intro e he
      simp only [List.mem_cons, List.not_mem_nil, or_false] at he
      rcases he with rfl | rfl <;> rfl }

theorem separate_twoMocks : twoMocks.Separate := by
  intro j k a b ha hb hjk
  have hja := (twoMocks.adapters.mem_entries_iff j a).mpr ha
  have hkb := (twoMocks.adapters.mem_entries_iff k b).mpr hb
  simp only [twoMocks, List.mem_cons, List.not_mem_nil, or_false] at hja hkb
  rcases hja with hja | hja <;> rcases hkb with hkb | hkb <;> cases hja <;> cases hkb
  · exact absurd rfl hjk
  · show List.Disjoint ["PUMP-001"] ["FAN-001"]
    simp
  · show List.Disjoint ["FAN-001"] ["PUMP-001"]
    simp
  · exact absurd rfl hjk

theorem pollOnce_twoMocks :
    (pollOnce default (twoMocks.rehash ["mock-b", "mock-a"])
        (LiveStateCache.empty, {})).2 =
      (pollOnce default twoMocks (LiveStateCache.empty, {})).2 :=
  (pollOnce_any_order default twoMocks _ separate_twoMocks
    (twoMocks.adapters.reorder_perm ["mock-b", "mock-a"]) LiveStateCache.empty
    {}).2

end Icp
end VirtualFactory
