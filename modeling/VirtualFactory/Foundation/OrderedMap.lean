import VirtualFactory.Foundation.Association
import Mathlib.Order.Lattice

/-!
# Ordered finite maps

A finite map is an association list whose keys increase strictly, so that every
map has one representation and two maps with the same lookups are equal.
-/

namespace VirtualFactory
namespace Foundation

open Association

variable {key value : Type} [LinearOrder key]

/-- A finite map with its entries in increasing key order. -/
structure OrderedMap (key value : Type) [LinearOrder key] where
  entries : List (key × value)
  sorted : entries.Pairwise (fun a b => a.1 < b.1)

namespace OrderedMap

theorem ext_entries {m n : OrderedMap key value}
    (h : m.entries = n.entries) : m = n := by
  cases m
  cases n
  cases h
  rfl

instance [DecidableEq value] : DecidableEq (OrderedMap key value) :=
  fun m n =>
    decidable_of_iff (m.entries = n.entries)
      ⟨ext_entries, fun h => by rw [h]⟩

def empty : OrderedMap key value where
  entries := []
  sorted := List.Pairwise.nil

def find? (m : OrderedMap key value) (k : key) : Option value :=
  m.entries.lookup k

/-!
# Insertion

Inserting keeps the entries sorted and overwrites the entry of an equal key.
-/

def insertEntry (k : key) (v : value) : List (key × value) -> List (key × value)
  | [] => [(k, v)]
  | e :: rest =>
      if k < e.1 then (k, v) :: e :: rest
      else if k = e.1 then (k, v) :: rest
      else e :: insertEntry k v rest

theorem key_mem_insertEntry {k : key} {v : value} {es : List (key × value)}
    {e : key × value} (h : e ∈ insertEntry k v es) :
    e.1 = k ∨ e ∈ es := by
  induction es with
  | nil =>
      have he : e = (k, v) := by simpa [insertEntry] using h
      exact Or.inl (by rw [he])
  | cons d rest ih =>
      unfold insertEntry at h
      split at h
      · rcases List.mem_cons.mp h with he | he
        · exact Or.inl (by rw [he])
        · exact Or.inr he
      · split at h
        · rcases List.mem_cons.mp h with he | he
          · exact Or.inl (by rw [he])
          · exact Or.inr (List.mem_cons_of_mem d he)
        · rcases List.mem_cons.mp h with he | he
          · exact Or.inr (by rw [he]; exact List.mem_cons_self)
          · rcases ih he with hk | hmem
            · exact Or.inl hk
            · exact Or.inr (List.mem_cons_of_mem d hmem)

theorem insertEntry_sorted (k : key) (v : value) {es : List (key × value)}
    (h : es.Pairwise (fun a b => a.1 < b.1)) :
    (insertEntry k v es).Pairwise (fun a b => a.1 < b.1) := by
  induction es with
  | nil =>
      exact List.pairwise_singleton _ _
  | cons d rest ih =>
      have hhead := (List.pairwise_cons.mp h).1
      have htail := (List.pairwise_cons.mp h).2
      unfold insertEntry
      split
      · rename_i hlt
        refine List.pairwise_cons.mpr ⟨?_, h⟩
        intro e he
        rcases List.mem_cons.mp he with rfl | he
        · exact hlt
        · exact lt_trans hlt (hhead e he)
      · rename_i hge
        split
        · rename_i heq
          refine List.pairwise_cons.mpr ⟨?_, htail⟩
          intro e he
          rw [heq]
          exact hhead e he
        · rename_i hne
          refine List.pairwise_cons.mpr ⟨?_, ih htail⟩
          intro e he
          rcases key_mem_insertEntry he with hk | hmem
          · rw [hk]
            exact lt_of_le_of_ne (not_lt.mp hge) (Ne.symm hne)
          · exact hhead e hmem

def insert (m : OrderedMap key value) (k : key) (v : value) :
    OrderedMap key value where
  entries := insertEntry k v m.entries
  sorted := insertEntry_sorted k v m.sorted

theorem lookup_insertEntry (k : key) (v : value) (es : List (key × value))
    (j : key) :
    (insertEntry k v es).lookup j = if j = k then some v else es.lookup j := by
  induction es with
  | nil =>
      by_cases hjk : j = k <;> simp [insertEntry, lookup_cons_eq_ite, hjk]
  | cons d rest ih =>
      unfold insertEntry
      split
      · by_cases hjk : j = k <;> simp [lookup_cons_eq_ite, hjk]
      · split
        · rename_i heq
          by_cases hjk : j = k
          · simp [lookup_cons_eq_ite, hjk]
          · have hjd : j ≠ d.1 := fun h => hjk (h.trans heq.symm)
            simp [lookup_cons_eq_ite, hjk, hjd]
        · rename_i hne
          by_cases hjd : j = d.1
          · have hjk : j ≠ k := fun h => hne (h.symm.trans hjd)
            simp [lookup_cons_eq_ite, hjd, Ne.symm hne]
          · simp [lookup_cons_eq_ite, hjd, ih]

@[simp] theorem find?_empty (k : key) :
    (empty : OrderedMap key value).find? k = none := rfl

theorem find?_insert (m : OrderedMap key value) (k : key) (v : value)
    (j : key) :
    (m.insert k v).find? j = if j = k then some v else m.find? j :=
  lookup_insertEntry k v m.entries j

@[simp] theorem find?_insert_self (m : OrderedMap key value) (k : key)
    (v : value) : (m.insert k v).find? k = some v := by
  rw [find?_insert, if_pos rfl]

theorem find?_insert_of_ne (m : OrderedMap key value) {k j : key} (v : value)
    (h : j ≠ k) : (m.insert k v).find? j = m.find? j := by
  rw [find?_insert, if_neg h]

theorem insertEntry_perm {k : key} {es : List (key × value)} (v : value)
    (h : es.lookup k = none) : (insertEntry k v es).Perm ((k, v) :: es) := by
  induction es with
  | nil => exact List.Perm.refl _
  | cons d rest ih =>
      rw [lookup_cons_eq_ite] at h
      split at h
      · cases h
      · unfold insertEntry
        split
        · exact List.Perm.refl _
        · exact ((ih h).cons d).trans (List.Perm.swap (k, v) d rest)

theorem perm_insert {m : OrderedMap key value} {k : key} (v : value)
    (h : m.find? k = none) : (m.insert k v).entries.Perm ((k, v) :: m.entries) :=
  insertEntry_perm v h

/-!
# Selection and update of entries
-/

def filter (m : OrderedMap key value) (keep : key -> value -> Bool) :
    OrderedMap key value where
  entries := m.entries.filter (fun e => keep e.1 e.2)
  sorted := m.sorted.filter _

def mapValues (m : OrderedMap key value) (f : value -> value) :
    OrderedMap key value where
  entries := m.entries.map (fun e => (e.1, f e.2))
  sorted := List.pairwise_map.mpr m.sorted

theorem lookup_eq_none_of_lt {k : key} {es : List (key × value)}
    (h : forall e, e ∈ es -> k < e.1) : es.lookup k = none := by
  apply List.lookup_eq_none_iff.mpr
  intro e he
  simpa using ne_of_lt (h e he)

theorem find?_filter (m : OrderedMap key value)
    (keep : key -> value -> Bool) (k : key) :
    (m.filter keep).find? k = (m.find? k).filter (keep k) := by
  cases m with
  | mk es hsorted =>
      show (es.filter (fun e => keep e.1 e.2)).lookup k =
        (es.lookup k).filter (keep k)
      induction es with
      | nil => rfl
      | cons d rest ih =>
          have hhead := (List.pairwise_cons.mp hsorted).1
          have htail := (List.pairwise_cons.mp hsorted).2
          by_cases hkd : k = d.1
          · subst hkd
            -- the key does not occur in the tail, so dropping the head empties it
            have hnone : rest.lookup d.1 = none := lookup_eq_none_of_lt hhead
            cases hkeep : keep d.1 d.2 with
            | true =>
                simp [hkeep, lookup_cons_eq_ite, Option.filter]
            | false =>
                simp [hkeep, lookup_cons_eq_ite, Option.filter, ih htail, hnone]
          · cases hkeep : keep d.1 d.2 with
            | true =>
                simp [hkeep, lookup_cons_eq_ite, hkd, ih htail]
            | false =>
                simp [hkeep, lookup_cons_eq_ite, hkd, ih htail]

theorem find?_mapValues (m : OrderedMap key value) (f : value -> value)
    (k : key) : (m.mapValues f).find? k = (m.find? k).map f := by
  cases m with
  | mk es hsorted =>
      show (es.map (fun e => (e.1, f e.2))).lookup k = (es.lookup k).map f
      clear hsorted
      induction es with
      | nil => rfl
      | cons d rest ih =>
          by_cases hkd : k = d.1 <;> simp [lookup_cons_eq_ite, hkd, ih]

/-!
# Extensionality
-/

theorem entries_eq_of_lookup {es ds : List (key × value)}
    (hes : es.Pairwise (fun a b => a.1 < b.1))
    (hds : ds.Pairwise (fun a b => a.1 < b.1))
    (h : forall k, es.lookup k = ds.lookup k) : es = ds := by
  induction es generalizing ds with
  | nil =>
      cases ds with
      | nil => rfl
      | cons d rest =>
          have hd := h d.1
          simp [lookup_cons_eq_ite] at hd
  | cons e es ih =>
      have hehead := (List.pairwise_cons.mp hes).1
      have hetail := (List.pairwise_cons.mp hes).2
      cases ds with
      | nil =>
          have he := h e.1
          simp [lookup_cons_eq_ite] at he
      | cons d ds =>
          have hdhead := (List.pairwise_cons.mp hds).1
          have hdtail := (List.pairwise_cons.mp hds).2
          have hkey : e.1 = d.1 := by
            rcases lt_trichotomy e.1 d.1 with hlt | heq | hgt
            · -- the smaller head key is missing from the other list
              have hnone : (d :: ds).lookup e.1 = none := by
                apply lookup_eq_none_of_lt
                intro x hx
                rcases List.mem_cons.mp hx with rfl | hx
                · exact hlt
                · exact lt_trans hlt (hdhead x hx)
              have he := h e.1
              rw [hnone] at he
              simp [lookup_cons_eq_ite] at he
            · exact heq
            · have hnone : (e :: es).lookup d.1 = none := by
                apply lookup_eq_none_of_lt
                intro x hx
                rcases List.mem_cons.mp hx with rfl | hx
                · exact hgt
                · exact lt_trans hgt (hehead x hx)
              have hd := h d.1
              rw [hnone] at hd
              simp [lookup_cons_eq_ite] at hd
          have hvalue : e.2 = d.2 := by
            have he := h e.1
            simpa [lookup_cons_eq_ite, hkey] using he
          have hrest : es = ds := by
            apply ih hetail hdtail
            intro k
            by_cases hk : k = e.1
            · rw [hk, lookup_eq_none_of_lt hehead]
              rw [hkey, lookup_eq_none_of_lt hdhead]
            · have hkd : k ≠ d.1 := fun hd => hk (hd.trans hkey.symm)
              have hlookup := h k
              simpa [lookup_cons_eq_ite, hk, hkd] using hlookup
          rw [hrest, Prod.ext hkey hvalue]

theorem ext_find? {m n : OrderedMap key value}
    (h : forall k, m.find? k = n.find? k) : m = n :=
  ext_entries (entries_eq_of_lookup m.sorted n.sorted h)

theorem mem_entries_iff (m : OrderedMap key value) (k : key) (v : value) :
    (k, v) ∈ m.entries <-> m.find? k = some v := by
  cases m with
  | mk es hsorted =>
      show (k, v) ∈ es <-> es.lookup k = some v
      induction es with
      | nil => simp
      | cons d rest ih =>
          have hhead := (List.pairwise_cons.mp hsorted).1
          have htail := (List.pairwise_cons.mp hsorted).2
          by_cases hkd : k = d.1
          · subst hkd
            have hnot : (d.1, v) ∉ rest := fun hmem => lt_irrefl _ (hhead (d.1, v) hmem)
            constructor
            · intro hmem
              rcases List.mem_cons.mp hmem with heq | hmem
              · rw [lookup_cons_eq_ite, if_pos rfl, ← heq]
              · exact absurd hmem hnot
            · intro hlookup
              have hv : d.2 = v := by simpa [lookup_cons_eq_ite] using hlookup
              rw [← hv]
              exact List.mem_cons_self
          · have hne : (k, v) ≠ d := fun heq => hkd (congrArg Prod.fst heq)
            simp [lookup_cons_eq_ite, hkd, hne, ih htail]

/-- Insert a list of entries, the last one of a key winning. -/
def insertAll (m : OrderedMap key value) (es : List (key × value)) :
    OrderedMap key value :=
  es.foldl (fun m e => m.insert e.1 e.2) m

theorem find?_insertAll (m : OrderedMap key value) (es : List (key × value))
    (k : key) :
    (m.insertAll es).find? k = (es.reverse.lookup k).or (m.find? k) := by
  unfold insertAll
  induction es generalizing m with
  | nil => rfl
  | cons e rest ih =>
      rw [List.foldl_cons, ih, find?_insert, List.reverse_cons, List.lookup_append,
        lookup_cons_eq_ite, Option.or_assoc]
      split <;> rfl

end OrderedMap

end Foundation
end VirtualFactory
