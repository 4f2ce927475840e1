import VirtualFactory.Foundation.TableRelation
import VirtualFactory.Icp.Runtime
import VirtualFactory.Industrial.Footprint

/-!
# Zones

The equipment identifiers and the client keys of a runtime fall into zones, one for
each adapter identifier.  What happens in the zone of one adapter does not reach the
others.
-/

namespace VirtualFactory
namespace Icp

open Foundation IndustrialAdapter ClientIds

/-- The equipment identifiers and the client keys reserved to each adapter identifier.
No two adapter identifiers share any. -/
structure Zones (adapter : Type) {device stimulus : Type}
    [IndustrialAdapter adapter device stimulus] where
  genuine : adapter -> Prop
  configuredIds : adapter -> List String
  clientKeys : adapter -> Set String
  footprint : Footprint genuine configuredIds clientKeys
  names : String -> Set String
  keys : String -> Set String
  namesApart : forall j k id, id ∈ names j -> id ∈ names k -> j = k
  keysApart : forall j k key, key ∈ keys j -> key ∈ keys k -> j = k

namespace Zones

variable {adapter device stimulus : Type}
  [IndustrialAdapter adapter device stimulus] {z : Zones adapter}

/-!
# Adapters in their zone
-/

/-- An adapter that keeps to the zone of its identifier. -/
structure Keeps (z : Zones adapter) (k : String) (a : adapter) : Prop where
  genuine : z.genuine a
  sameId : adapterId a = k
  names : forall id, id ∈ z.configuredIds a -> id ∈ z.names k
  keys : z.clientKeys a ⊆ z.keys k

def elsewhere (z : Zones adapter) (k : String) : Set String :=
  (z.keys k)ᶜ

theorem stable_keeps (k : String) : Stable (z.Keeps k) := by
  intro event a ids h
  exact
    { genuine := z.footprint.stable event a ids h.genuine
      sameId := (adapterId_operate event a ids).trans h.sameId
      names := by
        rw [z.footprint.sameIds event a ids h.genuine]
        exact h.names
      keys := by
        rw [z.footprint.sameKeys event a ids h.genuine]
        exact h.keys }

theorem Keeps.exposes {k : String} {a : adapter} (h : z.Keeps k a) {id : String}
    (hid : id ∈ exposedIds a) : id ∈ z.names k :=
  h.names id (z.footprint.exposes a h.genuine hid)

theorem Keeps.answers {k : String} {a : adapter} (h : z.Keeps k a) {id : String}
    {e : EquipmentView} (he : equipmentById a id = some e) : id ∈ z.names k :=
  h.names id (z.footprint.answers h.genuine he)

theorem Keeps.untouched {k : String} {a : adapter} (h : z.Keeps k a)
    (event : AdapterEvent device stimulus) (ids : ClientIds) :
    AgreeOn (z.elsewhere k) (operate event (a, ids)).2.2 ids :=
  (z.footprint.writes event a ids h.genuine).mono
    (Set.compl_subset_compl.mpr h.keys)

theorem Keeps.agreeing {k : String} {a : adapter} (h : z.Keeps k a) {key : String}
    (hk : k ≠ key) (event : AdapterEvent device stimulus) {ids ids' : ClientIds}
    (hids : AgreeOn (z.elsewhere key) ids ids') :
    Agreeing (z.elsewhere key) (operate event (a, ids)) (operate event (a, ids')) := by
  have hown : z.clientKeys a ⊆ z.elsewhere key := fun other hother hkey =>
    hk (z.keysApart k key other (h.keys hother) hkey)
  rcases z.footprint.reads event a ids ids' h.genuine (hids.mono hown) with
    ⟨hanswer, hadapter, hclaims⟩
  refine ⟨hanswer, hadapter, fun other hother => ?_⟩
  by_cases hmine : other ∈ z.clientKeys a
  · exact hclaims other hmine
  · rw [z.footprint.writes event a ids h.genuine other hmine,
      z.footprint.writes event a ids' h.genuine other hmine]
    exact hids other hother

/-- The adapter under an identifier in two runs: it keeps to its zone, and it is the
same unless the runs may differ in it. -/
def Same (z : Zones adapter) (key k : String) (v w : adapter) : Prop :=
  z.Keeps k v ∧ z.Keeps k w ∧ (k ≠ key -> v = w)

theorem same_operate {key k : String} {v w : adapter} (h : z.Same key k v w)
    {ids ids' : ClientIds} (hids : AgreeOn (z.elsewhere key) ids ids')
    (event event' : AdapterEvent device stimulus) (hevent : k ≠ key -> event = event') :
    z.Same key k (operate event (v, ids)).2.1 (operate event' (w, ids')).2.1 ∧
      AgreeOn (z.elsewhere key) (operate event (v, ids)).2.2
        (operate event' (w, ids')).2.2 := by
  have hv := stable_keeps k event v ids h.1
  have hw := stable_keeps k event' w ids' h.2.1
  by_cases hk : k = key
  · refine ⟨⟨hv, hw, fun hne => absurd hk hne⟩, ?_⟩
    rw [← hk] at hids ⊢
    exact ((h.1.untouched event ids).trans hids).trans
      (h.2.1.untouched event' ids').symm
  · rw [← hevent hk, ← h.2.2 hk] at hw ⊢
    rcases h.1.agreeing hk event hids with ⟨_, hadapter, hclaims⟩
    exact ⟨⟨hv, hw, fun _ => hadapter⟩, hclaims⟩

/-!
# Lookups
-/

abbrev Tables (z : Zones adapter) (key : String) (m n : AdapterManager adapter) :
    Prop :=
  Table.Related (z.Same key) m.adapters n.adapters

theorem Tables.symm {key : String} {m n : AdapterManager adapter}
    (h : z.Tables key m n) : z.Tables key n m := by
  unfold Tables at h ⊢
  have hsymm := Table.Related.symm h
  refine List.Forall₂.imp ?_ hsymm
  rintro d e ⟨hkey, hsame⟩
  exact ⟨hkey, hsame.2.1, hsame.1, fun hk => (hsame.2.2 hk).symm⟩

theorem Tables.keeps {key : String} {m n : AdapterManager adapter}
    (h : z.Tables key m n) {k : String} {a : adapter} (ha : m.find? k = some a) :
    z.Keeps k a := by
  rcases Table.Related.find? h k with ⟨hnone, _⟩ | ⟨v, w, hv, _, hsame⟩
  · cases hnone.symm.trans ha
  · cases hv.symm.trans ha
    exact hsame.1

theorem Tables.names_of_locate {key : String} {m n : AdapterManager adapter}
    (h : z.Tables key m n) {id k : String} {e : EquipmentView}
    (hlocate : m.locate id = some (k, e)) : id ∈ z.names k := by
  rcases List.exists_of_findSome?_eq_some hlocate with ⟨entry, hentry, hresult⟩
  rcases Option.map_eq_some_iff.mp hresult with ⟨d, hd, heq⟩
  cases heq
  exact (h.keeps ((m.adapters.mem_entries_iff _ _).mp hentry)).answers hd

theorem Tables.locate_eq {key : String} {m n : AdapterManager adapter}
    (h : z.Tables key m n) {id : String} (hid : id ∉ z.names key) :
    m.locate id = n.locate id := by
  unfold Tables Table.Related at h
  unfold AdapterManager.locate
  generalize m.adapters.entries = ds at h ⊢
  generalize n.adapters.entries = es at h ⊢
  induction h with
  | nil => rfl
  | @cons d e ds es hd _ ih =>
      rcases d with ⟨k, v⟩
      rcases e with ⟨j, w⟩
      rcases hd with ⟨hkj, hsame⟩
      have hkey : k = j := hkj
      subst hkey
      rw [List.findSome?_cons, List.findSome?_cons, ih]
      by_cases hk : k = key
      · have hnone : forall a : adapter, z.Keeps k a -> equipmentById a id = none := by
          intro a ha
          cases hanswer : equipmentById a id with
          | none => rfl
          | some e => exact absurd (hk ▸ ha.answers hanswer) hid
        rw [hnone v hsame.1, hnone w hsame.2.1]
      · rw [hsame.2.2 hk]

theorem Tables.check_ok {key : String} {m n : AdapterManager adapter}
    (h : z.Tables key m n) {k : String} {a : adapter} (ha : z.Keeps k a) :
    (m.checkEquipmentIdCollisions k a).ok = true := by
  unfold AdapterManager.checkEquipmentIdCollisions
  dsimp only
  split
  · rename_i id other hcollision
    rcases List.exists_of_findSome?_eq_some hcollision with ⟨e, he, hentries⟩
    rcases List.exists_of_findSome?_eq_some hentries with ⟨entry, hentry, hresult⟩
    split at hresult
    · cases hresult
    · rename_i hk
      rcases Option.map_eq_some_iff.mp hresult with ⟨found, hfound, _⟩
      have hother := (h.keeps ((m.adapters.mem_entries_iff _ _).mp hentry)).answers
        hfound
      have hmine := ha.exposes ((mem_exposedIds_iff a e.id).mpr ⟨e, he, rfl⟩)
      exact absurd (z.namesApart _ _ _ hother hmine) hk
  · rfl

end Zones

end Icp
end VirtualFactory
