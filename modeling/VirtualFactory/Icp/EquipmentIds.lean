import VirtualFactory.Icp.Runtime
import VirtualFactory.Industrial.Mock

/-!
# Equipment identifiers

The manager checks the identifiers of an adapter when it connects it.  This keeps the
identifiers of all adapters apart, whatever happens to the adapters in between, as
long as they keep to the contract of their interface.
-/

namespace VirtualFactory
namespace Icp

open Foundation IndustrialAdapter

variable {adapter device stimulus : Type}
  [IndustrialAdapter adapter device stimulus]

namespace AdapterManager

/-- No two registered adapters expose the same identifier. -/
def Separate (m : AdapterManager adapter) : Prop :=
  forall j k a b, m.find? j = some a -> m.find? k = some b -> j ≠ k ->
    List.Disjoint (exposedIds a) (exposedIds b)

theorem disjoint_of_check {obeys : adapter -> Prop} (hcontract : Contract obeys)
    {m : AdapterManager adapter} {key : String} {a : adapter}
    (h : (m.checkEquipmentIdCollisions key a).ok = true) {k : String} {b : adapter}
    (hb : m.find? k = some b) (hobeys : obeys b) (hk : k ≠ key) :
    List.Disjoint (exposedIds a) (exposedIds b) := by
  intro id ha hid
  rcases (mem_exposedIds_iff a id).mp ha with ⟨e, he, rfl⟩
  unfold checkEquipmentIdCollisions at h
  dsimp only at h
  split at h
  · cases h
  · rename_i hnone
    have hentries := List.findSome?_eq_none_iff.mp hnone e he
    have hentry := List.findSome?_eq_none_iff.mp hentries (k, b)
      ((m.adapters.mem_entries_iff k b).mpr hb)
    rw [if_neg hk, Option.map_eq_none_iff,
      hcontract.equipmentById_eq_none_iff hobeys] at hentry
    exact hentry hid

end AdapterManager

namespace Runtime

/-- What the identifiers of a connected adapter can be: the ones it had, or ones that
no other adapter exposes. -/
theorem exposedIds_connectChecked {obeys : adapter -> Prop}
    (hcontract : Contract obeys) {m : AdapterManager adapter}
    (hm : forall k c, m.find? k = some c -> obeys c) (d : device) (key : String)
    {a : adapter} (ha : obeys a) (ids : ClientIds) :
    exposedIds (AdapterManager.connectChecked d key m a ids).2.1 ⊆ exposedIds a ∨
      forall k c, m.find? k = some c -> k ≠ key ->
        List.Disjoint
          (exposedIds (AdapterManager.connectChecked d key m a ids).2.1)
          (exposedIds c) := by
  have hgained := hcontract.gained ⟨.connect, d⟩ a ids ha
  have hobeys := hcontract.stable ⟨.connect, d⟩ a ids ha
  have hchecked := AdapterManager.checked_connectChecked d key m a ids
  generalize AdapterManager.connectChecked d key m a ids = result at hchecked ⊢
  cases hchecked with
  | already => exact Or.inl (List.Subset.refl _)
  | refused _ hconnect =>
      simp only [operate, hconnect] at hgained
      exact Or.inl (hgained (by simp))
  | @collided b left _ hconnect =>
      simp only [operate, hconnect] at hobeys
      have hnone : exposedIds (disconnect d b left).1 = [] :=
        hcontract.exposedIds_of_disconnected
          (hcontract.stable ⟨.disconnect, d⟩ b left hobeys)
          (hcontract.disconnects d b left hobeys)
      left
      rw [hnone]
      exact List.nil_subset _
  | connected _ hconnect hcheck =>
      right
      intro k c hc hk
      exact AdapterManager.disjoint_of_check hcontract hcheck hc (hm k c hc) hk

theorem Moved.exposedIds {obeys : adapter -> Prop} (hcontract : Contract obeys)
    {event : Event adapter device stimulus} {s : Runtime adapter}
    (hs : forall k c, s.manager.find? k = some c -> obeys c) {key : String}
    {a b : adapter} (h : Moved event s key a b) (ha : obeys a) :
    exposedIds b ⊆ exposedIds a ∨
      (event.operation = .connectAdapter key ∧
        forall k c, s.manager.find? k = some c -> k ≠ key ->
          List.Disjoint (IndustrialAdapter.exposedIds b)
            (IndustrialAdapter.exposedIds c)) := by
  cases h with
  | same => exact Or.inl (List.Subset.refl _)
  | operated own ids hown hevent =>
      exact Or.inl (hcontract.gained own a ids ha
        (fun hanswer => hown (operation_of_connected hanswer)))
  | connected hevent =>
      rcases exposedIds_connectChecked hcontract hs (event.devices key) key ha
        s.clientIds with hsub | hdisjoint
      · exact Or.inl hsub
      · exact Or.inr ⟨hevent, hdisjoint⟩

theorem Moved.eq_of_connect {event : Event adapter device stimulus}
    {s : Runtime adapter} {j k : String} {a b : adapter}
    (h : Moved event s k a b) (hevent : event.operation = .connectAdapter j)
    (hjk : j ≠ k) : b = a := by
  cases h with
  | same => rfl
  | operated own ids hown hother => exact absurd hevent (hother j)
  | connected hown =>
      rw [hevent] at hown
      cases hown
      exact absurd rfl hjk

theorem disjoint_of_moved {obeys : adapter -> Prop} (hcontract : Contract obeys)
    {event : Event adapter device stimulus} {s : Runtime adapter}
    (hs : forall k c, s.manager.find? k = some c -> obeys c)
    (hseparate : s.manager.Separate) {j k : String} {a a' b b' : adapter}
    (ha : s.manager.find? j = some a) (hb : s.manager.find? k = some b)
    (hmoved : Moved event s j a a') (hmoved' : Moved event s k b b') (hjk : j ≠ k) :
    List.Disjoint (IndustrialAdapter.exposedIds a')
      (IndustrialAdapter.exposedIds b') := by
  have hold := hseparate j k a b ha hb hjk
  rcases hmoved.exposedIds hcontract hs (hs j a ha) with hsub | ⟨hevent, hdisjoint⟩
  · rcases hmoved'.exposedIds hcontract hs (hs k b hb) with
      hsub' | ⟨hevent', hdisjoint'⟩
    · exact fun id hid hid' => hold (hsub hid) (hsub' hid')
    · rw [hmoved.eq_of_connect hevent' (Ne.symm hjk)]
      exact (hdisjoint' j a ha hjk).symm
  · rw [hmoved'.eq_of_connect hevent hjk]
    exact hdisjoint k b hb (Ne.symm hjk)

/-- The adapters obey the contract, and the manager keeps them separate. -/
def Orderly (obeys : adapter -> Prop) (s : Runtime adapter) : Prop :=
  (forall k c, s.manager.find? k = some c -> obeys c) ∧ s.manager.Separate

theorem orderly_step {obeys : adapter -> Prop} (hcontract : Contract obeys)
    {event : Event adapter device stimulus} {s : Runtime adapter}
    (hadds : Adds (fun a => obeys a ∧ connectionState a = .disconnected) event)
    (hs : Orderly obeys s) : Orderly obeys (step event s).2 := by
  constructor
  · intro k c hc
    rcases step_find? hc with ⟨a, ha, hmoved⟩ | ⟨hnew, _, _⟩
    · exact hmoved.kept hcontract.stable (hs.1 k a ha)
    · exact (hadds c hnew).1
  · have hfresh : forall c, event.operation = .addAdapter (some c) ->
        IndustrialAdapter.exposedIds c = [] := fun c hc =>
      hcontract.exposedIds_of_disconnected (hadds c hc).1 (hadds c hc).2
    intro j k a' b' ha' hb' hjk
    rcases step_find? ha' with ⟨a, ha, hmoved⟩ | ⟨hnew, _, _⟩
    · rcases step_find? hb' with ⟨b, hb, hmoved'⟩ | ⟨hnew', _, _⟩
      · exact disjoint_of_moved hcontract hs.1 hs.2 ha hb hmoved hmoved' hjk
      · rw [hfresh b' hnew']
        exact List.disjoint_nil_right _
    · rw [hfresh a' hnew]
      exact List.disjoint_nil_left _

theorem orderly_empty (obeys : adapter -> Prop) :
    Orderly obeys (empty : Runtime adapter) := by
  constructor
  · intro k c hc
    cases hc
  · intro j k a b ha
    cases ha

end Runtime

namespace AdapterManager

theorem mem_registered_of_find? {m : AdapterManager adapter} {k : String}
    {a : adapter} (h : m.find? k = some a) : a ∈ m.registered :=
  (m.mem_registered_iff a).mpr (by rw [adapterId_of_find? h]; exact h)

theorem nodup_allEquipment {obeys : adapter -> Prop} (hcontract : Contract obeys)
    {m : AdapterManager adapter} (hm : forall k c, m.find? k = some c -> obeys c)
    (hseparate : m.Separate) : (m.allEquipment.map EquipmentView.id).Nodup := by
  have hfind : forall entry, entry ∈ m.adapters.entries ->
      m.find? entry.1 = some entry.2 := fun entry hentry =>
    (m.adapters.mem_entries_iff entry.1 entry.2).mp hentry
  unfold allEquipment
  rw [List.map_flatMap, List.nodup_flatMap]
  constructor
  · intro entry hentry
    exact hcontract.distinct entry.2 (hm entry.1 entry.2 (hfind entry hentry))
  · have hkeys := List.pairwise_map.mp m.adapters.nodupKeys
    refine hkeys.imp_of_mem ?_
    intro entry other hentry hother hne
    exact hseparate entry.1 other.1 entry.2 other.2 (hfind entry hentry)
      (hfind other hother) hne

theorem exists_of_locate {obeys : adapter -> Prop} (hcontract : Contract obeys)
    {m : AdapterManager adapter} (hm : forall k c, m.find? k = some c -> obeys c)
    {id key : String} {e : EquipmentView} (h : m.locate id = some (key, e)) :
    exists a, m.find? key = some a ∧ e ∈ exposed a ∧ e.id = id := by
  rcases List.exists_of_findSome?_eq_some h with ⟨entry, hentry, hresult⟩
  rcases Option.map_eq_some_iff.mp hresult with ⟨d, hd, heq⟩
  cases heq
  have hfind := (m.adapters.mem_entries_iff entry.1 entry.2).mp hentry
  exact ⟨entry.2, hfind,
    (hcontract.equipmentById_eq_some_iff (hm entry.1 entry.2 hfind) id e).mp hd⟩

theorem locate_eq_some_iff {obeys : adapter -> Prop} (hcontract : Contract obeys)
    {m : AdapterManager adapter} (hm : forall k c, m.find? k = some c -> obeys c)
    (hseparate : m.Separate) (id key : String) (e : EquipmentView) :
    m.locate id = some (key, e) <->
      exists a, m.find? key = some a ∧ e ∈ exposed a ∧ e.id = id := by
  constructor
  · exact exists_of_locate hcontract hm
  · rintro ⟨a, ha, hexposed⟩
    have hanswer := (hcontract.equipmentById_eq_some_iff (hm key a ha) id e).mpr
      hexposed
    cases hlocate : m.locate id with
    | none =>
        have hnone := List.findSome?_eq_none_iff.mp hlocate (key, a)
          ((m.adapters.mem_entries_iff key a).mpr ha)
        rw [hanswer] at hnone
        cases hnone
    | some found =>
        rcases found with ⟨k, d⟩
        rcases exists_of_locate hcontract hm hlocate with ⟨b, hb, hd, hdid⟩
        by_cases hk : k = key
        · subst hk
          cases hb.symm.trans ha
          have hanswer' := (hcontract.equipmentById_eq_some_iff (hm k a ha) id d).mpr
            ⟨hd, hdid⟩
          cases hanswer'.symm.trans hanswer
          rfl
        · have hshared : id ∈ exposedIds b :=
            (mem_exposedIds_iff b id).mpr ⟨d, hd, hdid⟩
          have hshared' : id ∈ exposedIds a :=
            (mem_exposedIds_iff a id).mpr ⟨e, hexposed⟩
          exact absurd hshared' (hseparate k key b a hb ha hk hshared)

theorem locate_eq_of_perm {obeys : adapter -> Prop} (hcontract : Contract obeys)
    {m n : AdapterManager adapter}
    (hm : forall k c, m.find? k = some c -> obeys c) (hseparate : m.Separate)
    (h : n.adapters.entries.Perm m.adapters.entries) (id : String) :
    n.locate id = m.locate id := by
  have hfind : forall k, n.find? k = m.find? k := Table.find?_eq_of_perm h
  have hn : forall k c, n.find? k = some c -> obeys c := fun k c hc =>
    hm k c ((hfind k).symm.trans hc)
  have hseparate' : n.Separate := fun j k a b ha hb =>
    hseparate j k a b ((hfind j).symm.trans ha) ((hfind k).symm.trans hb)
  apply Option.ext
  rintro ⟨key, e⟩
  rw [locate_eq_some_iff hcontract hn hseparate',
    locate_eq_some_iff hcontract hm hseparate, hfind]

/-- What the manager promises about the identifiers of its machines: they are distinct,
a machine is found with the one adapter that exposes it, an identifier that nobody
exposes is not found, and the iteration order does not matter. -/
structure RoutesEquipment (m : AdapterManager adapter) : Prop where
  distinct : (m.allEquipment.map EquipmentView.id).Nodup
  found : forall a, a ∈ m.registered -> forall e, e ∈ exposed a ->
    m.equipmentById e.id = some e ∧
      forall b, b ∈ m.registered -> e.id ∈ exposedIds b -> b = a
  unknown : forall id, (forall a, a ∈ m.registered -> id ∉ exposedIds a) ->
    m.equipmentById id = none
  anyOrder : forall n : AdapterManager adapter,
    n.adapters.entries.Perm m.adapters.entries ->
      forall id, n.equipmentById id = m.equipmentById id

theorem routesEquipment {obeys : adapter -> Prop} (hcontract : Contract obeys)
    {m : AdapterManager adapter} (hm : forall k c, m.find? k = some c -> obeys c)
    (hseparate : m.Separate) : m.RoutesEquipment where
  distinct := nodup_allEquipment hcontract hm hseparate
  found a ha e he := by
    have hfind := (m.mem_registered_iff a).mp ha
    constructor
    · unfold equipmentById
      rw [(locate_eq_some_iff hcontract hm hseparate e.id (adapterId a) e).mpr
        ⟨a, hfind, he, rfl⟩]
      rfl
    · intro b hb hshared
      have hfind' := (m.mem_registered_iff b).mp hb
      by_cases hk : adapterId b = adapterId a
      · rw [hk] at hfind'
        exact Option.some.inj (hfind'.symm.trans hfind)
      · exact absurd ((mem_exposedIds_iff a e.id).mpr ⟨e, he, rfl⟩)
          (hseparate _ _ b a hfind' hfind hk hshared)
  unknown id hnone := by
    unfold equipmentById
    cases hlocate : m.locate id with
    | none => rfl
    | some found =>
        rcases exists_of_locate hcontract hm hlocate with ⟨a, ha, he, hid⟩
        exact absurd ((mem_exposedIds_iff a id).mpr ⟨found.2, he, hid⟩)
          (hnone a (mem_registered_of_find? ha))
  anyOrder n h id := by
    unfold equipmentById
    rw [locate_eq_of_perm hcontract hm hseparate h id]

end AdapterManager

/-- In every state that adapters reach which obey the contract and are added
disconnected, the manager keeps its promises. -/
theorem equipment_routed {obeys : adapter -> Prop} (hcontract : Contract obeys)
    {es : List (Event adapter device stimulus)}
    (hadded : forall event, event ∈ es ->
      Runtime.Adds (fun a => obeys a ∧ connectionState a = .disconnected) event) :
    ((runtime adapter).run es Runtime.empty).manager.RoutesEquipment := by
  have hstep : forall (event : Event adapter device stimulus) (s : Runtime adapter),
      Runtime.Adds (fun a => obeys a ∧ connectionState a = .disconnected) event ->
        Runtime.Orderly obeys s ->
          Runtime.Orderly obeys ((runtime adapter).step event s).2 :=
    fun _ _ hadds hs => Runtime.orderly_step hcontract hadds hs
  have horderly := Machine.run_invariant hstep (Runtime.orderly_empty obeys)
    (Machine.admissible_of_forall Runtime.empty hadded)
  exact AdapterManager.routesEquipment hcontract horderly.1 horderly.2

def rivalMocks : List (Event MockIndustrialAdapter Unit MockStimulus) :=
  let rival := fun id => (MockIndustrialAdapter.new id).addDevice "PUMP-001" "Pump"
  [⟨.addAdapter (some (rival "mock-a")), fun _ => ()⟩,
    ⟨.addAdapter (some (rival "mock-b")), fun _ => ()⟩,
    ⟨.connectAdapter "mock-a", fun _ => ()⟩,
    ⟨.connectAdapter "mock-b", fun _ => ()⟩]

theorem equipment_routed_rivalMocks :
    ((runtime MockIndustrialAdapter).run rivalMocks
      Runtime.empty).manager.RoutesEquipment := by
  apply equipment_routed MockIndustrialAdapter.contract
  intro event hevent a ha
  have hobeys : forall id, ((MockIndustrialAdapter.new id).addDevice "PUMP-001"
      "Pump").Obeys := fun id =>
    ⟨List.nodup_singleton "PUMP-001", List.nodup_nil, fun _ => rfl⟩
  simp only [rivalMocks, List.mem_cons, List.not_mem_nil, or_false] at hevent
  rcases hevent with rfl | rfl | rfl | rfl
  · cases ha
    exact ⟨hobeys "mock-a", rfl⟩
  · cases ha
    exact ⟨hobeys "mock-b", rfl⟩
  · cases ha
  · cases ha

end Icp
end VirtualFactory
