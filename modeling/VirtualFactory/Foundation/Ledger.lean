import Mathlib.Data.List.Nodup
import Mathlib.Data.List.Perm.Basic

/-!
# Ledgers of handles

What a history of acquiring, using and releasing handles leaves in use, and when it
releases every handle once and uses none that is not in use.
-/

namespace VirtualFactory
namespace Foundation

variable {handle : Type} [DecidableEq handle]

inductive HandleEvent (handle : Type) where
  | acquire (h : handle)
  | release (hs : List handle)
  | use (h : handle)
  | idle

/-- A history, the newest event first. -/
abbrev Ledger (handle : Type) :=
  List (HandleEvent handle)

namespace Ledger

def live : Ledger handle -> List handle
  | [] => []
  | .acquire h :: earlier => h :: live earlier
  | .release hs :: earlier => (live earlier).filter (fun h => h ∉ hs)
  | .use _ :: earlier => live earlier
  | .idle :: earlier => live earlier

def acquired : Ledger handle -> List handle
  | [] => []
  | .acquire h :: earlier => h :: acquired earlier
  | .release _ :: earlier => acquired earlier
  | .use _ :: earlier => acquired earlier
  | .idle :: earlier => acquired earlier

def released : Ledger handle -> List handle
  | [] => []
  | .acquire _ :: earlier => released earlier
  | .release hs :: earlier => hs ++ released earlier
  | .use _ :: earlier => released earlier
  | .idle :: earlier => released earlier

/-- Only handles in use are used and released, each once, and only others are
acquired. -/
def Sound : Ledger handle -> Prop
  | [] => True
  | .acquire h :: earlier => h ∉ live earlier ∧ Sound earlier
  | .release hs :: earlier => (hs.Nodup ∧ forall h, h ∈ hs -> h ∈ live earlier) ∧ Sound earlier
  | .use h :: earlier => h ∈ live earlier ∧ Sound earlier
  | .idle :: earlier => Sound earlier

theorem Sound.nodup_live : forall {ledger : Ledger handle}, Sound ledger ->
    (live ledger).Nodup
  | [], _ => List.nodup_nil
  | .acquire _ :: _, h => List.nodup_cons.mpr ⟨h.left, h.right.nodup_live⟩
  | .release _ :: _, h => h.right.nodup_live.filter _
  | .use _ :: earlier, h => by
      have hearlier : Sound earlier := h.right
      exact hearlier.nodup_live
  | .idle :: earlier, h => by
      have hearlier : Sound earlier := h
      exact hearlier.nodup_live

theorem perm_release {hs live : List handle} (hlive : live.Nodup) (hnodup : hs.Nodup)
    (hmem : forall h, h ∈ hs -> h ∈ live) :
    live.Perm (hs ++ live.filter (fun h => h ∉ hs)) := by
  have hdisjoint : (hs ++ live.filter (fun h => h ∉ hs)).Nodup := by
    refine List.nodup_append.mpr ⟨hnodup, hlive.filter _, ?_⟩
    intro h hh other hother heq
    rw [heq] at hh
    exact of_decide_eq_true (List.mem_filter.mp hother).right hh
  rw [List.perm_ext_iff_of_nodup hlive hdisjoint]
  intro h
  rw [List.mem_append, List.mem_filter, decide_eq_true_iff]
  constructor
  · intro hh
    by_cases hreleased : h ∈ hs
    · exact Or.inl hreleased
    · exact Or.inr ⟨hh, hreleased⟩
  · intro hh
    rcases hh with hreleased | hkept
    · exact hmem h hreleased
    · exact hkept.left

theorem live_release_acquire {earlier : Ledger handle} {h : handle} (hnew : h ∉ live earlier) :
    live (.release [h] :: .use h :: .acquire h :: earlier) = live earlier := by
  show (h :: live earlier).filter (fun other => other ∉ [h]) = live earlier
  rw [List.filter_cons_of_neg (by simp), List.filter_eq_self]
  intro other hother
  apply decide_eq_true
  intro hmem
  rw [List.mem_singleton.mp hmem] at hother
  exact hnew hother

theorem live_release_all {earlier : Ledger handle} {hs : List handle}
    (h : (live earlier).Perm hs) : live (.release hs :: earlier) = [] := by
  show (live earlier).filter (fun other => other ∉ hs) = []
  rw [List.filter_eq_nil_iff]
  intro other hother hkept
  exact of_decide_eq_true hkept (h.mem_iff.mp hother)

/-- Every handle that has been acquired has been released once for it or is in use. -/
theorem Sound.perm_acquired : forall {ledger : Ledger handle}, Sound ledger ->
    (acquired ledger).Perm (released ledger ++ live ledger)
  | [], _ => List.Perm.refl _
  | .acquire h :: earlier, hsound => by
      have hearlier := hsound.right.perm_acquired
      exact (hearlier.cons h).trans List.perm_middle.symm
  | .release hs :: earlier, hsound => by
      have hearlier := hsound.right.perm_acquired
      have hsplit := perm_release hsound.right.nodup_live hsound.left.left hsound.left.right
      have hswap : (released earlier ++ hs).Perm (hs ++ released earlier) :=
        List.perm_append_comm
      have hrest := hswap.append_right ((live earlier).filter (fun h => h ∉ hs))
      rw [List.append_assoc] at hrest
      exact hearlier.trans ((hsplit.append_left (released earlier)).trans hrest)
  | .use _ :: earlier, hsound => by
      have hearlier : Sound earlier := hsound.right
      exact hearlier.perm_acquired
  | .idle :: earlier, hsound => by
      have hearlier : Sound earlier := hsound
      exact hearlier.perm_acquired

theorem live_append_uses {earlier : Ledger handle} :
    forall {later : Ledger handle},
      (forall event, event ∈ later -> exists h, event = .use h ∧ h ∈ live earlier) ->
        live (later ++ earlier) = live earlier ∧ (Sound earlier -> Sound (later ++ earlier))
  | [], _ => ⟨rfl, fun h => h⟩
  | event :: later, huses => by
      rcases huses event List.mem_cons_self with ⟨h, rfl, hlive⟩
      rcases live_append_uses (fun event hevent =>
        huses event (List.mem_cons_of_mem _ hevent)) with ⟨hsame, hsound⟩
      refine ⟨hsame, fun hearlier => ⟨?_, hsound hearlier⟩⟩
      show h ∈ live (later ++ earlier)
      rw [hsame]
      exact hlive

end Ledger

end Foundation
end VirtualFactory
