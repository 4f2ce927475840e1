import Mathlib.Data.List.Basic
import Mathlib.Tactic.Common

/-!
# Association lists

Looking a key up in a list of entries, as the ordered maps and the tables do it.
-/

namespace VirtualFactory
namespace Foundation
namespace Association

variable {key value : Type} [DecidableEq key]

theorem lookup_cons_eq_ite (e : key × value) (es : List (key × value))
    (j : key) :
    (e :: es).lookup j = if j = e.1 then some e.2 else es.lookup j := by
  cases e with
  | mk k v =>
      by_cases hjk : j = k
      · simp [hjk]
      · rw [if_neg hjk, List.lookup_cons, beq_false_of_ne hjk]

theorem lookup_isSome_iff (k : key) (es : List (key × value)) :
    (es.lookup k).isSome <-> k ∈ es.map Prod.fst := by
  induction es with
  | nil => simp
  | cons e rest ih =>
      rw [lookup_cons_eq_ite, List.map_cons, List.mem_cons, ← ih]
      by_cases hk : k = e.1 <;> simp [hk]

theorem zipWith_eq_map_lookup {item result : Type} (f : item -> value -> result)
    (name : item -> key) (missing : value) {xs : List item} {ys : List value}
    (hnames : (xs.map name).Nodup) (hlength : ys.length = xs.length) :
    List.zipWith f xs ys =
      xs.map (fun x => f x ((((xs.map name).zip ys).lookup (name x)).getD missing)) := by
  induction xs generalizing ys with
  | nil => rfl
  | cons x rest ih =>
      cases ys with
      | nil => cases hlength
      | cons y ys =>
          rw [List.map_cons] at hnames
          rcases List.nodup_cons.mp hnames with ⟨hnew, hrest⟩
          rw [List.zipWith_cons_cons, List.map_cons, List.map_cons, List.zip_cons_cons,
            ih hrest (Nat.succ.inj hlength), lookup_cons_eq_ite, if_pos rfl]
          congr 1
          apply List.map_congr_left
          intro z hz
          have hne : name z ≠ name x := by
            intro heq
            exact hnew (heq ▸ List.mem_map_of_mem hz)
          rw [lookup_cons_eq_ite, if_neg hne]

end Association
end Foundation
end VirtualFactory
