import VirtualFactory.Foundation.Table
import Mathlib.Data.List.Forall2

/-!
# Related tables

Two tables with the same keys in the same order, and related values under each key.
What is done to both tables in the same way keeps them related.
-/

namespace VirtualFactory
namespace Foundation

open Association

variable {key value value' state state' : Type} [DecidableEq key]
  {related : key -> value -> value' -> Prop}

/-- Two entries under one key with related values. -/
def RelatedEntries (related : key -> value -> value' -> Prop) (d : key × value)
    (e : key × value') : Prop :=
  d.1 = e.1 ∧ related d.1 d.2 e.2

namespace Table

def Related (related : key -> value -> value' -> Prop) (t : Table key value)
    (u : Table key value') : Prop :=
  List.Forall₂ (RelatedEntries related) t.entries u.entries

omit [DecidableEq key] in
theorem related_empty : Related related empty empty :=
  List.Forall₂.nil

omit [DecidableEq key] in
theorem Related.keys_eq {t : Table key value} {u : Table key value'}
    (h : Related related t u) : t.keys = u.keys := by
  show t.entries.map Prod.fst = u.entries.map Prod.fst
  unfold Related at h
  generalize t.entries = ds at h ⊢
  generalize u.entries = es at h ⊢
  induction h with
  | nil => rfl
  | cons hd _ ih => rw [List.map_cons, List.map_cons, hd.1, ih]

theorem Related.find? {t : Table key value} {u : Table key value'}
    (h : Related related t u) (k : key) :
    (t.find? k = none ∧ u.find? k = none) ∨
      exists v w, t.find? k = some v ∧ u.find? k = some w ∧ related k v w := by
  show (t.entries.lookup k = none ∧ u.entries.lookup k = none) ∨
    exists v w, t.entries.lookup k = some v ∧ u.entries.lookup k = some w ∧ _
  unfold Related at h
  generalize t.entries = ds at h ⊢
  generalize u.entries = es at h ⊢
  induction h with
  | nil => exact Or.inl ⟨rfl, rfl⟩
  | @cons d e ds es hd _ ih =>
      rw [lookup_cons_eq_ite, lookup_cons_eq_ite, ← hd.1]
      by_cases hk : k = d.1
      · rw [if_pos hk, if_pos hk]
        exact Or.inr ⟨d.2, e.2, rfl, rfl, hk ▸ hd.2⟩
      · rw [if_neg hk, if_neg hk]
        exact ih

theorem Related.emplace {t : Table key value} {u : Table key value'}
    (h : Related related t u) {k : key} {v : value} {w : value'}
    (hnew : related k v w) (ht : t.find? k = none) (hu : u.find? k = none) :
    Related related (t.emplace k v ht) (u.emplace k w hu) :=
  List.rel_append h (List.Forall₂.cons ⟨rfl, hnew⟩ List.Forall₂.nil)

theorem Related.erase {t : Table key value} {u : Table key value'}
    (h : Related related t u) (k : key) :
    Related related (t.erase k) (u.erase k) := by
  unfold Related at h ⊢
  show List.Forall₂ _ (t.entries.filter _) (u.entries.filter _)
  generalize t.entries = ds at h ⊢
  generalize u.entries = es at h ⊢
  induction h with
  | nil => exact List.Forall₂.nil
  | @cons d e ds es hd _ ih =>
      by_cases hk : d.1 = k
      · rw [List.filter_cons_of_neg (by simpa using hk),
          List.filter_cons_of_neg (by simpa [← hd.1] using hk)]
        exact ih
      · rw [List.filter_cons_of_pos (by simpa using hk),
          List.filter_cons_of_pos (by simpa [← hd.1] using hk)]
        exact List.Forall₂.cons hd ih

theorem Related.modify {t : Table key value} {u : Table key value'}
    (h : Related related t u) (k : key) {f : value -> value} {g : value' -> value'}
    (hfg : forall v w, t.find? k = some v -> u.find? k = some w -> related k v w ->
      related k (f v) (g w)) :
    Related related (t.modify k f) (u.modify k g) := by
  have hentries : forall d e, d ∈ t.entries -> e ∈ u.entries ->
      RelatedEntries related d e ->
        RelatedEntries related (d.1, if d.1 = k then f d.2 else d.2)
          (e.1, if e.1 = k then g e.2 else e.2) := by
    rintro ⟨i, v⟩ ⟨j, w⟩ hd he ⟨hij, hvw⟩
    have hkey : i = j := hij
    subst hkey
    refine ⟨rfl, ?_⟩
    by_cases hk : i = k
    · subst hk
      simpa using hfg v w ((t.mem_entries_iff i v).mp hd)
        ((u.mem_entries_iff i w).mp he) hvw
    · simpa [hk] using hvw
  unfold Related at h ⊢
  show List.Forall₂ _ (t.entries.map _) (u.entries.map _)
  rw [List.forall₂_map_left_iff, List.forall₂_map_right_iff]
  generalize t.entries = ds at h hentries ⊢
  generalize u.entries = es at h hentries ⊢
  induction h with
  | nil => exact List.Forall₂.nil
  | cons hd _ ih =>
      exact List.Forall₂.cons
        (hentries _ _ List.mem_cons_self List.mem_cons_self hd)
        (ih (fun d e hd he => hentries d e (List.mem_cons_of_mem _ hd)
          (List.mem_cons_of_mem _ he)))

theorem Related.modify_left {t : Table key value} {u : Table key value'}
    (h : Related related t u) (k : key) {f : value -> value}
    (hf : forall v w, t.find? k = some v -> u.find? k = some w -> related k v w ->
      related k (f v) w) :
    Related related (t.modify k f) u := by
  have hmodify := h.modify k (g := fun w => w) hf
  rw [modify_self] at hmodify
  exact hmodify

omit [DecidableEq key] in
theorem Related.symm {t : Table key value} {u : Table key value'}
    (h : Related related t u) : Related (fun k w v => related k v w) u t := by
  unfold Related at h ⊢
  refine (List.Forall₂.flip h).imp ?_
  rintro d e ⟨hkey, hrelated⟩
  exact ⟨hkey.symm, hkey ▸ hrelated⟩

theorem Related.reorder {t : Table key value} {u : Table key value'}
    (h : Related related t u) (order : List key) :
    Related related (t.reorder order) (u.reorder order) := by
  have hfind := h.find?
  have hkeys := h.keys_eq
  unfold Table.reorder
  split
  · rename_i ht
    rw [dif_pos (hkeys ▸ ht)]
    show List.Forall₂ _ (order.filterMap _) (order.filterMap _)
    clear ht
    induction order with
    | nil => exact List.Forall₂.nil
    | cons k rest ih =>
        rcases hfind k with ⟨ht, hu⟩ | ⟨v, w, ht, hu, hvw⟩
        · simpa [ht, hu] using ih
        · simpa [ht, hu, RelatedEntries, hvw] using ih
  · rename_i ht
    rw [dif_neg (hkeys ▸ ht)]
    exact h

omit [DecidableEq key] in
/-- Visiting related entries, from related states, leaves related entries and
states. -/
theorem related_visitEntries {f : key -> value -> state -> value × state}
    {g : key -> value' -> state' -> value' × state'} {alike : state -> state' -> Prop}
    (hstep : forall k v w s t, related k v w -> alike s t ->
      related k (f k v s).1 (g k w t).1 ∧ alike (f k v s).2 (g k w t).2)
    {ds : List (key × value)} {es : List (key × value')}
    (h : List.Forall₂ (RelatedEntries related) ds es) {s : state} {t : state'}
    (hst : alike s t) :
    List.Forall₂ (RelatedEntries related) (visitEntries f ds s).1
        (visitEntries g es t).1 ∧
      alike (visitEntries f ds s).2 (visitEntries g es t).2 := by
  induction h generalizing s t with
  | nil => exact ⟨List.Forall₂.nil, hst⟩
  | @cons d e ds es hd _ ih =>
      rcases d with ⟨k, v⟩
      rcases e with ⟨j, w⟩
      rcases hd with ⟨hkj, hvw⟩
      have hkey : k = j := hkj
      subst hkey
      rcases hstep k v w s t hvw hst with ⟨hhere, hafter⟩
      rcases ih hafter with ⟨hrest, hlast⟩
      exact ⟨List.Forall₂.cons ⟨rfl, hhere⟩ hrest, hlast⟩

omit [DecidableEq key] in
theorem Related.visit {t : Table key value} {u : Table key value'}
    (h : Related related t u) (alike : state -> state' -> Prop)
    {f : key -> value -> state -> value × state}
    {g : key -> value' -> state' -> value' × state'}
    (hstep : forall k v w s s', related k v w -> alike s s' ->
      related k (f k v s).1 (g k w s').1 ∧ alike (f k v s).2 (g k w s').2)
    {s : state} {s' : state'} (hs : alike s s') :
    Related related (t.visit f s).1 (u.visit g s').1 ∧
      alike (t.visit f s).2 (u.visit g s').2 :=
  related_visitEntries hstep h hs

end Table

end Foundation
end VirtualFactory
