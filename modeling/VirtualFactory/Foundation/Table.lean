import VirtualFactory.Foundation.Association
import Mathlib.Data.List.Perm.Basic
import Mathlib.Data.List.Nodup

/-!
# Tables with an arbitrary iteration order

A table is a list of entries with distinct keys.  The order of the list is the
order in which a loop visits the entries; nothing promises a particular one, and
it can be rearranged at any time.
-/

namespace VirtualFactory
namespace Foundation

open Association

variable {key value state : Type} [DecidableEq key]

/-- Entries with pairwise distinct keys, in some iteration order. -/
structure Table (key value : Type) where
  entries : List (key × value)
  nodupKeys : (entries.map Prod.fst).Nodup

namespace Table

def keys (t : Table key value) : List key :=
  t.entries.map Prod.fst

def empty : Table key value where
  entries := []
  nodupKeys := List.nodup_nil

def find? (t : Table key value) (k : key) : Option value :=
  t.entries.lookup k

theorem mem_entries_iff (t : Table key value) (k : key) (v : value) :
    (k, v) ∈ t.entries <-> t.find? k = some v := by
  cases t with
  | mk es hnodup =>
      show (k, v) ∈ es <-> es.lookup k = some v
      induction es with
      | nil => simp
      | cons d rest ih =>
          have hd := (List.nodup_cons.mp hnodup).1
          have htail := (List.nodup_cons.mp hnodup).2
          rw [lookup_cons_eq_ite, List.mem_cons]
          by_cases hkd : k = d.1
          · have hnot : (k, v) ∉ rest := by
              intro hmem
              apply hd
              rw [← hkd]
              exact List.mem_map_of_mem (f := Prod.fst) hmem
            rw [if_pos hkd]
            constructor
            · rintro (heq | hmem)
              · rw [← heq]
              · exact absurd hmem hnot
            · intro hv
              exact Or.inl (Prod.ext hkd (Option.some.inj hv).symm)
          · have hne : (k, v) ≠ d := fun heq => hkd (congrArg Prod.fst heq)
            rw [if_neg hkd, ← ih htail]
            simp [hne]

theorem mem_keys_iff (t : Table key value) (k : key) :
    k ∈ t.keys <-> exists v, t.find? k = some v := by
  constructor
  · intro hk
    rcases List.mem_map.mp hk with ⟨e, he, rfl⟩
    exact ⟨e.2, (t.mem_entries_iff e.1 e.2).mp he⟩
  · rintro ⟨v, hv⟩
    exact List.mem_map_of_mem (f := Prod.fst) ((t.mem_entries_iff k v).mpr hv)

theorem find?_eq_none_iff (t : Table key value) (k : key) :
    t.find? k = none <-> k ∉ t.keys := by
  rw [mem_keys_iff]
  cases t.find? k <;> simp

/-!
# Changing the entries
-/

def emplace (t : Table key value) (k : key) (v : value)
    (h : t.find? k = none) : Table key value where
  entries := t.entries ++ [(k, v)]
  nodupKeys := by
    have hk : k ∉ t.keys := (t.find?_eq_none_iff k).mp h
    rw [List.map_append, List.map_singleton]
    apply List.nodup_append.mpr
    refine ⟨t.nodupKeys, List.nodup_singleton k, ?_⟩
    intro j hj l hl
    rw [List.mem_singleton.mp hl]
    rintro rfl
    exact hk hj

def erase (t : Table key value) (k : key) : Table key value where
  entries := t.entries.filter (fun e => e.1 ≠ k)
  nodupKeys := t.nodupKeys.sublist (List.filter_sublist.map Prod.fst)

omit [DecidableEq key] in
theorem map_fst_map_of_fst {es : List (key × value)} {g : key × value -> value} :
    (es.map (fun e => (e.1, g e))).map Prod.fst = es.map Prod.fst := by
  rw [List.map_map]
  rfl

/-- Change the value of a key in place. -/
def modify (t : Table key value) (k : key) (f : value -> value) :
    Table key value where
  entries := t.entries.map (fun e => (e.1, if e.1 = k then f e.2 else e.2))
  nodupKeys := by
    rw [map_fst_map_of_fst]
    exact t.nodupKeys

/-- Visit the entries in the order of a list of keys instead, when that list
rearranges the keys. -/
def reorder (t : Table key value) (order : List key) : Table key value :=
  if h : order.Perm t.keys then
    { entries := order.filterMap (fun k => (t.find? k).map (fun v => (k, v)))
      nodupKeys := by
        have hmap : forall ks : List key, (forall k, k ∈ ks -> k ∈ t.keys) ->
            (ks.filterMap (fun k => (t.find? k).map (fun v => (k, v)))).map
              Prod.fst = ks := by
          intro ks
          induction ks with
          | nil => intro _; rfl
          | cons k ks ih =>
              intro hks
              rcases (t.mem_keys_iff k).mp (hks k List.mem_cons_self) with ⟨v, hv⟩
              have hrest := ih (fun j hj => hks j (List.mem_cons_of_mem k hj))
              simp [hv, hrest]
        rw [hmap order (fun k hk => h.mem_iff.mp hk)]
        exact h.nodup_iff.mpr t.nodupKeys }
  else t

theorem find?_emplace (t : Table key value) (k : key) (v : value)
    (h : t.find? k = none) (j : key) :
    (t.emplace k v h).find? j = if j = k then some v else t.find? j := by
  show (t.entries ++ [(k, v)]).lookup j = _
  rw [List.lookup_append, lookup_cons_eq_ite]
  by_cases hjk : j = k
  · have hnone : t.entries.lookup j = none := by
      rw [hjk]
      exact h
    simp [hjk, hjk ▸ hnone]
  · simp [hjk, find?]

theorem find?_erase (t : Table key value) (k j : key) :
    (t.erase k).find? j = if j = k then none else t.find? j := by
  show (t.entries.filter (fun e => e.1 ≠ k)).lookup j = _
  unfold find?
  induction t.entries with
  | nil => simp
  | cons d rest ih =>
      by_cases hdk : d.1 = k
      · rw [List.filter_cons_of_neg (by simpa using hdk), ih, lookup_cons_eq_ite]
        by_cases hjk : j = k
        · simp [hjk]
        · have hjd : j ≠ d.1 := fun h => hjk (h.trans hdk)
          simp [hjk, hjd]
      · rw [List.filter_cons_of_pos (by simpa using hdk), lookup_cons_eq_ite,
          lookup_cons_eq_ite, ih]
        by_cases hjd : j = d.1
        · have hjk : j ≠ k := fun h => hdk (hjd.symm.trans h)
          simp [hjd, hdk]
        · simp [hjd]

theorem find?_modify (t : Table key value) (k : key) (f : value -> value)
    (j : key) :
    (t.modify k f).find? j =
      if j = k then (t.find? k).map f else t.find? j := by
  show (t.entries.map (fun e => (e.1, if e.1 = k then f e.2 else e.2))).lookup j = _
  unfold find?
  induction t.entries with
  | nil => simp
  | cons d rest ih =>
      rw [List.map_cons, lookup_cons_eq_ite, lookup_cons_eq_ite,
        lookup_cons_eq_ite, ih]
      by_cases hjk : j = k
      · subst hjk
        by_cases hjd : j = d.1
        · simp [← hjd]
        · simp [hjd]
      · by_cases hjd : j = d.1
        · subst hjd
          simp [hjk]
        · simp [hjk, hjd]

@[simp] theorem keys_modify (t : Table key value) (k : key)
    (f : value -> value) : (t.modify k f).keys = t.keys :=
  map_fst_map_of_fst

@[simp] theorem modify_self (t : Table key value) (k : key) :
    t.modify k (fun v => v) = t := by
  cases t
  simp [modify]

theorem modify_congr {t : Table key value} {k : key} {v : value}
    (h : t.find? k = some v) {f g : value -> value} (hv : f v = g v) :
    t.modify k f = t.modify k g := by
  unfold modify
  congr 1
  apply List.map_congr_left
  intro e he
  by_cases hk : e.1 = k
  · have hentry : t.find? e.1 = some e.2 := (t.mem_entries_iff e.1 e.2).mp he
    rw [hk, h] at hentry
    rw [if_pos hk, if_pos hk, ← Option.some.inj hentry, hv]
  · rw [if_neg hk, if_neg hk]

theorem modify_comm (t : Table key value) {k j : key} (h : k ≠ j)
    (f g : value -> value) :
    (t.modify j g).modify k f = (t.modify k f).modify j g := by
  unfold modify
  congr 1
  rw [List.map_map, List.map_map]
  apply List.map_congr_left
  intro e _
  by_cases hk : e.1 = k
  · have hj : ¬ e.1 = j := fun hj => h (hk.symm.trans hj)
    simp [hk, h]
  · simp [hk]

theorem reorder_perm (t : Table key value) (order : List key) :
    (t.reorder order).entries.Perm t.entries := by
  unfold reorder
  split
  · rename_i h
    have hself : t.entries =
        t.keys.filterMap (fun k => (t.find? k).map (fun v => (k, v))) := by
      unfold keys
      rw [List.filterMap_map]
      have hsome : forall e, e ∈ t.entries ->
          ((fun k => (t.find? k).map (fun v => (k, v))) ∘ Prod.fst) e = some e := by
        intro e he
        have hfind := (t.mem_entries_iff e.1 e.2).mp he
        simp [hfind]
      rw [List.filterMap_congr hsome, List.filterMap_some]
    show (order.filterMap _).Perm t.entries
    rw [hself]
    exact h.filterMap _
  · exact List.Perm.refl _

theorem find?_eq_of_perm {t u : Table key value}
    (h : t.entries.Perm u.entries) (k : key) : t.find? k = u.find? k := by
  apply Option.ext
  intro v
  rw [← mem_entries_iff, ← mem_entries_iff]
  exact h.mem_iff

@[simp] theorem find?_reorder (t : Table key value) (order : List key)
    (k : key) : (t.reorder order).find? k = t.find? k :=
  find?_eq_of_perm (t.reorder_perm order) k

/-!
# Visiting every entry

A visit may replace the value of the entry it is at and change a state that is
handed from entry to entry.
-/

/-- Visit the entries of a list one after the other. -/
def visitEntries (f : key -> value -> state -> value × state) :
    List (key × value) -> state -> List (key × value) × state
  | [], s => ([], s)
  | e :: rest, s =>
      let here := f e.1 e.2 s
      let after := visitEntries f rest here.2
      ((e.1, here.1) :: after.1, after.2)

omit [DecidableEq key] in
theorem map_fst_visitEntries (f : key -> value -> state -> value × state)
    (es : List (key × value)) (s : state) :
    (visitEntries f es s).1.map Prod.fst = es.map Prod.fst := by
  induction es generalizing s with
  | nil => rfl
  | cons e rest ih =>
      simp [visitEntries, ih]

def visit (t : Table key value) (f : key -> value -> state -> value × state)
    (s : state) : Table key value × state :=
  ({ entries := (visitEntries f t.entries s).1
     nodupKeys := by
       rw [map_fst_visitEntries]
       exact t.nodupKeys },
   (visitEntries f t.entries s).2)

omit [DecidableEq key] in
@[simp] theorem keys_visit (t : Table key value)
    (f : key -> value -> state -> value × state) (s : state) :
    (t.visit f s).1.keys = t.keys :=
  map_fst_visitEntries f t.entries s

omit [DecidableEq key] in
theorem mem_visitEntries {f : key -> value -> state -> value × state}
    {es : List (key × value)} {s : state} {e : key × value}
    (h : e ∈ (visitEntries f es s).1) :
    exists v s', (e.1, v) ∈ es ∧ e.2 = (f e.1 v s').1 := by
  induction es generalizing s with
  | nil => cases h
  | cons d rest ih =>
      rcases List.mem_cons.mp h with rfl | hmem
      · exact ⟨d.2, s, List.mem_cons_self, rfl⟩
      · rcases ih hmem with ⟨v, s', hv, he⟩
        exact ⟨v, s', List.mem_cons_of_mem d hv, he⟩

theorem find?_visit {f : key -> value -> state -> value × state}
    {t : Table key value} {s : state} {k : key} {w : value}
    (h : (t.visit f s).1.find? k = some w) :
    exists v s', t.find? k = some v ∧ w = (f k v s').1 := by
  rcases mem_visitEntries (((t.visit f s).1.mem_entries_iff k w).mpr h) with
    ⟨v, s', hv, hw⟩
  exact ⟨v, s', (t.mem_entries_iff k v).mp hv, hw⟩

omit [DecidableEq key] in
/-- When what a visit makes of an entry does not depend on the state, the visited
entries are the mapped entries and the state is a fold over the old entries. -/
theorem visitEntries_of_local {f : key -> value -> state -> value × state}
    {g : key -> value -> value}
    (hlocal : forall k v s, (f k v s).1 = g k v)
    (es : List (key × value)) (s : state) :
    visitEntries f es s =
      (es.map (fun e => (e.1, g e.1 e.2)),
        es.foldl (fun s e => (f e.1 e.2 s).2) s) := by
  induction es generalizing s with
  | nil => rfl
  | cons e rest ih =>
      simp [visitEntries, ih, hlocal]

omit [DecidableEq key] in
theorem visitEntries_congr {f g : key -> value -> state -> value × state}
    {es : List (key × value)}
    (h : forall e, e ∈ es -> forall s, f e.1 e.2 s = g e.1 e.2 s) (s : state) :
    visitEntries f es s = visitEntries g es s := by
  induction es generalizing s with
  | nil => rfl
  | cons e rest ih =>
      unfold visitEntries
      rw [h e List.mem_cons_self s]
      dsimp only
      rw [ih (fun d hd => h d (List.mem_cons_of_mem e hd))]

omit [DecidableEq key] in
theorem visitEntries_beside {beside : Type} (f : key -> value -> state -> value × state)
    (es : List (key × value)) (b : beside) (s : state) :
    visitEntries (fun k v (q : beside × state) => ((f k v q.2).1, q.1, (f k v q.2).2)) es
        (b, s) =
      ((visitEntries f es s).1, b, (visitEntries f es s).2) := by
  induction es generalizing s with
  | nil => rfl
  | cons e rest ih => simp only [visitEntries, ih]

def visitAt (f : key -> value -> state -> value × state)
    (p : Table key value × state) (k : key) : Table key value × state :=
  match p.1.find? k with
  | none => p
  | some v => (p.1.modify k (fun w => (f k w p.2).1), (f k v p.2).2)

theorem entries_modify_middle {t : Table key value} {before rest : List (key × value)}
    {k : key} {v : value} (h : t.entries = before ++ (k, v) :: rest)
    (f : value -> value) :
    (t.modify k f).entries = before ++ (k, f v) :: rest := by
  have hnodup := t.nodupKeys
  rw [h, List.map_append, List.map_cons, List.nodup_append, List.nodup_cons] at hnodup
  have hother : forall es : List (key × value), (forall e, e ∈ es -> e.1 ≠ k) ->
      es.map (fun e => (e.1, if e.1 = k then f e.2 else e.2)) = es := by
    intro es hes
    apply (List.map_congr_left ?_).trans (List.map_id es)
    intro e he
    rw [if_neg (hes e he)]
    rfl
  show t.entries.map _ = _
  rw [h, List.map_append, List.map_cons, if_pos rfl]
  congr 1
  · apply hother
    intro e he
    exact hnodup.2.2 _ (List.mem_map_of_mem he) _ List.mem_cons_self
  · congr 1
    apply hother
    intro e he hek
    have hmem : e.1 ∈ rest.map Prod.fst := List.mem_map_of_mem he
    rw [hek] at hmem
    exact hnodup.2.1.1 hmem

theorem foldl_visitAt (f : key -> value -> state -> value × state)
    (rest before : List (key × value)) {t : Table key value}
    (h : t.entries = before ++ rest) (s : state) :
    let p := (rest.map Prod.fst).foldl (visitAt f) (t, s)
    p.1.entries = before ++ (visitEntries f rest s).1 ∧
      p.2 = (visitEntries f rest s).2 := by
  induction rest generalizing before t s with
  | nil => exact ⟨h, rfl⟩
  | cons e rest ih =>
      rcases e with ⟨k, v⟩
      have hfind : t.find? k = some v := by
        rw [← mem_entries_iff, h]
        exact List.mem_append_right before List.mem_cons_self
      have hvisit : visitAt f (t, s) k =
          (t.modify k (fun w => (f k w s).1), (f k v s).2) := by
        unfold visitAt
        rw [hfind]
      have hentries := entries_modify_middle h (fun w => (f k w s).1)
      have hnext := ih (before ++ [(k, (f k v s).1)])
        (by rw [hentries, List.append_assoc]; rfl) (f k v s).2
      rw [List.map_cons, List.foldl_cons, hvisit]
      dsimp only at hnext ⊢
      rw [hnext.1, hnext.2, List.append_assoc]
      exact ⟨rfl, rfl⟩

theorem visit_eq_foldl (t : Table key value)
    (f : key -> value -> state -> value × state) (s : state) :
    t.keys.foldl (visitAt f) (t, s) = t.visit f s := by
  have h := foldl_visitAt f t.entries [] (t := t) rfl s
  rcases hp : t.keys.foldl (visitAt f) (t, s) with ⟨u, last⟩
  unfold keys at hp
  dsimp only at h
  rw [hp] at h
  rcases u with ⟨es, hes⟩
  dsimp only at h
  rcases h with ⟨rfl, rfl⟩
  rfl

theorem find?_visit_of_local {f : key -> value -> state -> value × state}
    {g : key -> value -> value}
    (hlocal : forall k v s, (f k v s).1 = g k v)
    (t : Table key value) (s : state) (k : key) :
    (t.visit f s).1.find? k = (t.find? k).map (g k) := by
  show (visitEntries f t.entries s).1.lookup k = (t.entries.lookup k).map (g k)
  rw [visitEntries_of_local hlocal]
  induction t.entries with
  | nil => rfl
  | cons e rest ih =>
      rw [List.map_cons, lookup_cons_eq_ite, lookup_cons_eq_ite, ih]
      by_cases hk : k = e.1 <;> simp [hk]

/-!
# Erasing while iterating
-/

/-- The entries are visited one by one.  One that is to go is erased, and the loop goes
on with the entry that was behind it. -/
def sweepEntries (drop : key -> value -> Bool) :
    List (key × value) -> List (key × value) -> List (key × value)
  | visited, [] => visited
  | visited, e :: rest =>
      if drop e.1 e.2 then sweepEntries drop visited rest
      else sweepEntries drop (visited ++ [e]) rest

omit [DecidableEq key] in
theorem sweepEntries_eq (drop : key -> value -> Bool) (visited rest : List (key × value)) :
    sweepEntries drop visited rest = visited ++ rest.filter (fun e => !drop e.1 e.2) := by
  induction rest generalizing visited with
  | nil =>
      rw [List.filter_nil, List.append_nil]
      rfl
  | cons e rest ih =>
      unfold sweepEntries
      cases hdrop : drop e.1 e.2 with
      | true =>
          rw [if_pos rfl, ih, List.filter_cons_of_neg]
          rw [hdrop]
          exact Bool.false_ne_true
      | false =>
          rw [if_neg Bool.false_ne_true, ih, List.filter_cons_of_pos, List.append_assoc]
          · rfl
          · rw [hdrop]
            rfl

/-- Drop entries in one walk over the table. -/
def sweep (t : Table key value) (drop : key -> value -> Bool) : Table key value where
  entries := sweepEntries drop [] t.entries
  nodupKeys := by
    rw [sweepEntries_eq, List.nil_append]
    exact t.nodupKeys.sublist (List.filter_sublist.map Prod.fst)

theorem find?_sweep (t : Table key value) (drop : key -> value -> Bool) (k : key) :
    (t.sweep drop).find? k = (t.find? k).filter (fun v => !drop k v) := by
  have hentries : (t.sweep drop).entries = t.entries.filter (fun e => !drop e.1 e.2) :=
    sweepEntries_eq drop [] t.entries
  apply Option.ext
  intro v
  rw [← mem_entries_iff, hentries, List.mem_filter, mem_entries_iff,
    Option.filter_eq_some_iff]

/-- Store a value under a key, whether it is there or not. -/
def assign (t : Table key value) (k : key) (v : value) : Table key value :=
  match h : t.find? k with
  | some _ => t.modify k (fun _ => v)
  | none => t.emplace k v h

theorem find?_assign (t : Table key value) (k : key) (v : value) (j : key) :
    (t.assign k v).find? j = if j = k then some v else t.find? j := by
  unfold assign
  split
  case h_1 old hold =>
    rw [find?_modify, hold]
    rfl
  case h_2 hnone =>
    rw [find?_emplace]

end Table

end Foundation
end VirtualFactory
