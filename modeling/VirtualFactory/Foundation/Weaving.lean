import Mathlib.Data.List.Nodup
import Mathlib.Logic.Function.Conjugate

/-!
# Weaving

A loop visits keys one after the other while actions happen in between.  An action that
touches a key has to do with the visit of that key only, so the loop can be thought of as
run in one piece: an action that touches a visited key comes behind it, and every other
action before it.
-/

namespace VirtualFactory
namespace Foundation

variable {state key tool action : Type}

theorem commute_foldl {item : Type} {f : state -> state} {g : item -> state -> state}
    {xs : List item} (h : forall x, x ∈ xs -> Function.Commute f (g x)) :
    Function.Commute f (fun s => xs.foldl (fun s x => g x s) s) := by
  induction xs with
  | nil => exact fun s => rfl
  | cons x xs ih =>
      intro s
      have hrest := ih (fun y hy => h y (List.mem_cons_of_mem x hy)) (g x s)
      refine hrest.trans ?_
      dsimp only
      rw [h x List.mem_cons_self s, List.foldl_cons]

/-- A loop over keys, with a tool for every visit, and the actions that may happen while
it runs. -/
structure Loom (state key tool action : Type) where
  visit : key -> tool -> state -> state
  perform : action -> state -> state
  touches : action -> Option key
  visit_perform : forall k t x, touches x ≠ some k ->
    Function.Commute (visit k t) (perform x)
  perform_perform : forall k x y, touches x = some k -> touches y ≠ some k ->
    Function.Commute (perform x) (perform y)

namespace Loom

variable {loom : Loom state key tool action}

def visits (loom : Loom state key tool action) (done : List (key × tool)) (s : state) :
    state :=
  done.foldl (fun s p => loom.visit p.1 p.2 s) s

def performAll (loom : Loom state key tool action) (xs : List action) (s : state) :
    state :=
  xs.foldl (fun s x => loom.perform x s) s

@[simp] theorem visits_concat (done : List (key × tool)) (p : key × tool) (s : state) :
    loom.visits (done ++ [p]) s = loom.visit p.1 p.2 (loom.visits done s) :=
  List.foldl_concat _ _ p done

@[simp] theorem performAll_append (xs ys : List action) (s : state) :
    loom.performAll (xs ++ ys) s = loom.performAll ys (loom.performAll xs s) :=
  List.foldl_append

/-- A state in which a loop has done some visits while some actions have happened: these
are sorted into those that count as earlier than the loop and those that count as
later.  Actions that touch the same key, or none, keep their order. -/
structure Woven [DecidableEq key] (loom : Loom state key tool action) (start : state)
    (done : List (key × tool)) (happened early late : List action) (s : state) :
    Prop where
  state : s = loom.performAll late (loom.visits done (loom.performAll early start))
  behind : forall x, x ∈ late -> exists k, loom.touches x = some k ∧
    k ∈ done.map Prod.fst
  order : forall touched : Option key,
    (early ++ late).filter (fun x => decide (loom.touches x = touched)) =
      happened.filter (fun x => decide (loom.touches x = touched))

variable [DecidableEq key]

theorem woven_nil (loom : Loom state key tool action) (start : state) :
    loom.Woven start [] [] [] [] start where
  state := rfl
  behind := by
    intro x hx
    cases hx
  order := fun _ => rfl

namespace Woven

variable {start s : state} {done : List (key × tool)}
  {happened early late : List action}

theorem visit (h : loom.Woven start done happened early late s) {k : key}
    (hk : k ∉ done.map Prod.fst) (t : tool) :
    loom.Woven start (done ++ [(k, t)]) happened early late (loom.visit k t s) where
  state := by
    -- what counts as later touches other keys
    have hlate : Function.Commute (loom.visit k t) (loom.performAll late) := by
      apply commute_foldl
      intro x hx
      rcases h.behind x hx with ⟨j, hj, hmem⟩
      apply loom.visit_perform
      intro htouch
      rw [hj] at htouch
      cases htouch
      exact hk hmem
    rw [h.state, visits_concat]
    exact hlate _
  behind := by
    intro x hx
    rcases h.behind x hx with ⟨j, hj, hmem⟩
    refine ⟨j, hj, ?_⟩
    rw [List.map_append]
    exact List.mem_append_left _ hmem
  order := h.order

/-- An action that touches no visited key counts as earlier. -/
theorem happen_early (h : loom.Woven start done happened early late s) {x : action}
    (hx : forall k, k ∈ done.map Prod.fst -> loom.touches x ≠ some k) :
    loom.Woven start done (happened ++ [x]) (early ++ [x]) late (loom.perform x s) where
  state := by
    have hlate : Function.Commute (loom.perform x) (loom.performAll late) := by
      apply commute_foldl
      intro y hy
      rcases h.behind y hy with ⟨k, hk, hmem⟩
      exact (loom.perform_perform k y x hk (hx k hmem)).symm
    have hvisits : Function.Commute (loom.perform x) (loom.visits done) := by
      apply commute_foldl
      intro p hp
      exact (loom.visit_perform p.1 p.2 x
        (hx p.1 (List.mem_map_of_mem hp))).symm
    rw [h.state, performAll_append]
    exact (hlate _).trans (congrArg _ (hvisits _))
  behind := h.behind
  order := by
    intro touched
    have hold := h.order touched
    rw [List.filter_append] at hold
    rw [List.append_assoc, List.filter_append, List.filter_append, List.filter_append,
      ← hold]
    by_cases hxt : loom.touches x = touched
    · have hnone : late.filter (fun y => decide (loom.touches y = touched)) = [] := by
        rw [List.filter_eq_nil_iff]
        intro y hy
        rcases h.behind y hy with ⟨k, hk, hmem⟩
        intro hyt
        exact hx k hmem (hxt.trans ((of_decide_eq_true hyt).symm.trans hk))
      rw [hnone, List.append_nil, List.append_nil]
    · have hnone : [x].filter (fun y => decide (loom.touches y = touched)) = [] := by
        rw [List.filter_eq_nil_iff]
        intro y hy
        rw [List.mem_singleton.mp hy]
        exact fun hyt => hxt (of_decide_eq_true hyt)
      rw [hnone, List.nil_append, List.append_nil]

/-- An action that touches a visited key counts as later. -/
theorem happen_late (h : loom.Woven start done happened early late s) {x : action}
    {k : key} (hx : loom.touches x = some k) (hk : k ∈ done.map Prod.fst) :
    loom.Woven start done (happened ++ [x]) early (late ++ [x]) (loom.perform x s) where
  state := by
    rw [performAll_append, ← h.state]
    rfl
  behind := by
    intro y hy
    rcases List.mem_append.mp hy with hold | hnew
    · exact h.behind y hold
    · rw [List.mem_singleton.mp hnew]
      exact ⟨k, hx, hk⟩
  order := by
    intro touched
    rw [← List.append_assoc, List.filter_append, h.order, List.filter_append]

theorem happen (h : loom.Woven start done happened early late s) (x : action) :
    exists before after,
      loom.Woven start done (happened ++ [x]) before after (loom.perform x s) := by
  by_cases hx : exists k, loom.touches x = some k ∧ k ∈ done.map Prod.fst
  · rcases hx with ⟨k, hk, hmem⟩
    exact ⟨early, late ++ [x], h.happen_late hk hmem⟩
  · refine ⟨early ++ [x], late, h.happen_early ?_⟩
    intro k hmem hk
    exact hx ⟨k, hk, hmem⟩

end Woven

theorem exists_tools [Inhabited tool] {done : List (key × tool)}
    (h : (done.map Prod.fst).Nodup) :
    exists tools : key -> tool,
      done = (done.map Prod.fst).map (fun k => (k, tools k)) := by
  induction done with
  | nil => exact ⟨fun _ => default, rfl⟩
  | cons p done ih =>
      rcases p with ⟨k, t⟩
      rcases List.nodup_cons.mp h with ⟨hk, hrest⟩
      rcases ih hrest with ⟨tools, htools⟩
      refine ⟨Function.update tools k t, ?_⟩
      rw [List.map_cons, List.map_cons, Function.update_self]
      have hsame : (done.map Prod.fst).map (fun j => (j, Function.update tools k t j)) =
          (done.map Prod.fst).map (fun j => (j, tools j)) := by
        apply List.map_congr_left
        intro j hj
        rw [Function.update_of_ne]
        rintro rfl
        exact hk hj
      rw [hsame, ← htools]

end Loom

end Foundation
end VirtualFactory
