import VirtualFactory.Icp.Deployment

/-!
# What happens outside the mutex

A loop of the manager and what happens beside it only meet in the claims of the client
identifiers, which both only give back, and in an adapter that a message arrives for.
-/

namespace VirtualFactory
namespace Icp

open Foundation IndustrialAdapter

variable {adapter device stimulus : Type}
  [IndustrialAdapter adapter device stimulus]

namespace Runtime

def dropClaims (dropped : Finset String) (r : Runtime adapter) : Runtime adapter :=
  { r with clientIds :=
      { r.clientIds with claimed := r.clientIds.claimed \ dropped } }

theorem dropClaims_empty (r : Runtime adapter) : r.dropClaims ∅ = r := by
  unfold dropClaims
  rw [Finset.sdiff_empty]

def stimulated (key : String) (st : stimulus) (r : Runtime adapter) : Runtime adapter :=
  { r with manager := r.manager.stimulate st key }

theorem stimulated_comm {key key' : String} (h : key ≠ key') (st st' : stimulus) :
    Function.Commute (stimulated key st : Runtime adapter -> Runtime adapter)
      (stimulated key' st') := by
  intro r
  apply visited_injective
  show (_, _, _) = (_, _, _)
  congr 1
  exact Table.modify_comm r.manager.adapters h _ _

end Runtime

namespace Sweep

theorem visit_local [LawfulPoll adapter] [LawfulDisconnect adapter] (w : Sweep)
    (d : device) (a : adapter) (cache : LiveStateCache) :
    exists (b : adapter) (left : LiveStateCache) (dropped : Finset String),
      forall ids : ClientIds, w.visit d a (cache, ids) =
        (b, left, { ids with claimed := ids.claimed \ dropped }) := by
  cases w with
  | disconnectAll =>
      have hlocal : exists (b : adapter) (dropped : Finset String),
          forall ids : ClientIds, disconnect d a ids =
            (b, { ids with claimed := ids.claimed \ dropped }) :=
        LawfulDisconnect.disconnect_local d a
      rcases hlocal with ⟨b, dropped, hresult⟩
      refine ⟨b, cache, dropped, fun ids => ?_⟩
      unfold visit
      dsimp only
      rw [hresult]
  | pollOnce =>
      show exists (b : adapter) (left : LiveStateCache) (dropped : Finset String),
        forall ids : ClientIds, pollAdapterLocked d a (cache, ids) = _
      unfold pollAdapterLocked
      cases hstate : connectionState a with
      | disconnected =>
          refine ⟨a, cache.removeAdapterEquipment (adapterId a), ∅, fun ids => ?_⟩
          rw [Finset.sdiff_empty]
      | faulted =>
          refine ⟨a, (if (equipment a).isEmpty then cache
            else cache.updateFromAdapter a).markAdapterCommunication (adapterId a)
              .faulted (lastError a), ∅, fun ids => ?_⟩
          rw [Finset.sdiff_empty]
      | connected =>
          rcases LawfulPoll.poll_local d a hstate with ⟨b, dropped, hresult⟩
          exact ⟨b, cache.updateFromAdapter b, dropped, fun ids => by rw [hresult]⟩

theorem visited_next_of_local {w : Sweep} {d : device} {key : String}
    {r : Runtime adapter} {a b : adapter} {left : LiveStateCache}
    {own : Finset String} (hfind : r.manager.find? key = some a)
    (hvisit : forall ids : ClientIds, w.visit d a (r.cache, ids) =
      (b, left, { ids with claimed := ids.claimed \ own })) :
    visited (w.next key d r) =
      (r.manager.adapters.modify key (fun _ => b), left,
        { r.clientIds with claimed := r.clientIds.claimed \ own }) := by
  rw [w.next_of_some hfind]
  have hmodify : r.manager.adapters.modify key
        (fun b => (w.visit d b (r.cache, r.clientIds)).1) =
      r.manager.adapters.modify key (fun _ => b) := by
    apply Table.modify_congr hfind
    rw [hvisit]
  show (r.manager.adapters.modify key (fun b => (w.visit d b (r.cache, r.clientIds)).1),
    (w.visit d a (r.cache, r.clientIds)).2) = _
  rw [hmodify, hvisit]

theorem next_dropClaims [LawfulPoll adapter] [LawfulDisconnect adapter] (w : Sweep)
    (key : String) (d : device) (dropped : Finset String) :
    Function.Commute (w.next key d : Runtime adapter -> Runtime adapter)
      (Runtime.dropClaims dropped) := by
  intro r
  cases hfind : r.manager.find? key with
  | none =>
      rw [w.next_of_none hfind, w.next_of_none (r := r.dropClaims dropped) hfind]
  | some a =>
      rcases w.visit_local d a r.cache with ⟨b, left, own, hvisit⟩
      have hbefore := visited_next_of_local hfind hvisit
      have hafter := visited_next_of_local (r := r.dropClaims dropped) hfind hvisit
      apply visited_injective
      rw [hafter]
      show _ = ((visited (w.next key d r)).1, (visited (w.next key d r)).2.1,
        ({ (visited (w.next key d r)).2.2 with
            claimed := (visited (w.next key d r)).2.2.claimed \ dropped } : ClientIds))
      rw [hbefore]
      dsimp only
      rw [sdiff_sdiff_comm]
      rfl

theorem next_stimulated (w : Sweep) {key other : String} (h : other ≠ key) (d : device)
    (st : stimulus) :
    Function.Commute (w.next key d : Runtime adapter -> Runtime adapter)
      (Runtime.stimulated other st) := by
  intro r
  have hfind : (r.stimulated other st).manager.find? key = r.manager.find? key := by
    have hmodify := r.manager.find?_modify other (IndustrialAdapter.stimulate st)
      (id_stimulate st) key
    rw [if_neg (Ne.symm h)] at hmodify
    exact hmodify
  cases hold : r.manager.find? key with
  | none => rw [w.next_of_none hold, w.next_of_none (hfind.trans hold)]
  | some a =>
      rw [w.next_of_some hold, w.next_of_some (hfind.trans hold)]
      apply visited_injective
      show (_, _) = (_, _)
      congr 1
      exact Table.modify_comm r.manager.adapters (Ne.symm h)
        (fun b => (w.visit d b (r.cache, r.clientIds)).1) (IndustrialAdapter.stimulate st)

end Sweep

/-!
# The loom of a deployment
-/

namespace Deployment

/-- A loop of the manager at work on the adapters of a deployment. -/
def next (w : Sweep) (key : String) (d : device) (s : Deployment adapter) :
    Deployment adapter :=
  { s with runtime := w.next key d s.runtime }

/-- The adapter a message from outside arrives for, if it is registered. -/
def touches : OutsideAction device stimulus -> Option String
  | .stimulate key _ => some key
  | _ => none

/-- What an adapter that is not registered does leaves a registered one alone, and the
other way round. -/
theorem stimulate_perform (key : String) (st : stimulus)
    {x : OutsideAction device stimulus} (hx : touches x ≠ some key) :
    Function.Commute (stimulate key st : Deployment adapter -> Deployment adapter)
      (fun s => s.perform x) := by
  intro s
  cases x with
  | refuse client => rfl
  | stimulateDoomed client st' => rfl
  | stimulate other st' =>
      have hne : key ≠ other := fun h => hx (congrArg some h.symm)
      show ({ s with runtime := _ } : Deployment adapter) = { s with runtime := _ }
      congr 1
      exact Runtime.stimulated_comm hne st st' s.runtime
  | disconnectDoomed client d =>
      show stimulate key st (s.disconnectDoomed client d) =
        (stimulate key st s).disconnectDoomed client d
      have hdoomed : (stimulate key st s).doomed client = s.doomed client := rfl
      unfold disconnectDoomed
      rw [hdoomed]
      cases s.doomed client with
      | none => rfl
      | some a =>
          dsimp only
          split <;> rfl
  | destroyDoomed client d =>
      show stimulate key st (s.destroyDoomed client d) =
        (stimulate key st s).destroyDoomed client d
      have hdoomed : (stimulate key st s).doomed client = s.doomed client := rfl
      unfold destroyDoomed
      rw [hdoomed]
      cases s.doomed client <;> rfl

theorem perform_local [LawfulDisconnect adapter] {x : OutsideAction device stimulus}
    (hx : touches x = none) (doomed : Nat -> Option adapter) :
    exists (left : Nat -> Option adapter) (dropped : Finset String),
      forall r : Runtime adapter,
        perform ⟨r, doomed⟩ x = ⟨r.dropClaims dropped, left⟩ := by
  have hquiet : forall left : Nat -> Option adapter,
      (forall r : Runtime adapter, perform ⟨r, doomed⟩ x = ⟨r, left⟩) ->
        exists (left : Nat -> Option adapter) (dropped : Finset String),
          forall r : Runtime adapter,
            perform ⟨r, doomed⟩ x = ⟨r.dropClaims dropped, left⟩ := by
    intro left h
    exact ⟨left, ∅, fun r => by rw [h, Runtime.dropClaims_empty]⟩
  have hleaves : forall (d : device) (a : adapter),
      exists (b : adapter) (dropped : Finset String), forall ids : ClientIds,
        disconnect d a ids = (b, { ids with claimed := ids.claimed \ dropped }) :=
    LawfulDisconnect.disconnect_local
  cases x with
  | refuse client => exact hquiet doomed (fun r => rfl)
  | stimulate key st => cases hx
  | stimulateDoomed client st =>
      exact hquiet (Function.update doomed client
        ((doomed client).map (IndustrialAdapter.stimulate st))) (fun r => rfl)
  | disconnectDoomed client d =>
      cases hdoomed : doomed client with
      | none =>
          exact hquiet doomed
            (fun r => disconnectDoomed_of_none (s := ⟨r, doomed⟩) hdoomed d)
      | some a =>
          have hresult := fun r : Runtime adapter =>
            disconnectDoomed_of_some (s := ⟨r, doomed⟩) hdoomed d
          by_cases hstate : connectionState a = .disconnected
          · exact hquiet doomed (fun r => (hresult r).trans (if_pos hstate))
          · rcases hleaves d a with ⟨b, dropped, hleft⟩
            refine ⟨Function.update doomed client (some b), dropped, fun r => ?_⟩
            refine ((hresult r).trans (if_neg hstate)).trans ?_
            rw [hleft]
            rfl
  | destroyDoomed client d =>
      cases hdoomed : doomed client with
      | none =>
          exact hquiet doomed
            (fun r => destroyDoomed_of_none (s := ⟨r, doomed⟩) hdoomed d)
      | some a =>
          rcases hleaves d a with ⟨b, dropped, hleft⟩
          refine ⟨Function.update doomed client none, dropped, fun r => ?_⟩
          refine (destroyDoomed_of_some (s := ⟨r, doomed⟩) hdoomed d).trans ?_
          unfold AdapterManager.destroy
          rw [hleft]
          rfl

theorem next_perform [LawfulPoll adapter] [LawfulDisconnect adapter] (w : Sweep)
    (key : String) (d : device) {x : OutsideAction device stimulus}
    (hx : touches x ≠ some key) :
    Function.Commute (next w key d : Deployment adapter -> Deployment adapter)
      (fun s => s.perform x) := by
  intro s
  rcases s with ⟨r, doomed⟩
  cases htouch : touches x with
  | none =>
      rcases perform_local htouch doomed with ⟨left, dropped, hperform⟩
      have hafter : perform (next w key d ⟨r, doomed⟩) x = _ :=
        hperform (w.next key d r)
      dsimp only
      rw [hafter, hperform]
      show (⟨w.next key d (r.dropClaims dropped), left⟩ : Deployment adapter) = _
      rw [w.next_dropClaims key d dropped r]
  | some other =>
      cases x with
      | stimulate key' st =>
          cases htouch
          have hne : other ≠ key := fun h => hx (congrArg some h)
          show (⟨w.next key d (r.stimulated other st), doomed⟩ : Deployment adapter) = _
          rw [w.next_stimulated hne d st r]
          rfl
      | refuse client => cases htouch
      | disconnectDoomed client d => cases htouch
      | destroyDoomed client d => cases htouch
      | stimulateDoomed client st => cases htouch

/-- A loop of the manager as a loop over keys with actions beside it. -/
def loom (w : Sweep) [LawfulPoll adapter] [LawfulDisconnect adapter] :
    Loom (Deployment adapter) String device (OutsideAction device stimulus) where
  visit := next w
  perform x s := s.perform x
  touches := touches
  visit_perform key d _ hx := next_perform w key d hx
  perform_perform key x y hx hy := by
    cases x with
    | stimulate other st =>
        cases hx
        exact stimulate_perform key st hy
    | refuse client => cases hx
    | disconnectDoomed client d => cases hx
    | destroyDoomed client d => cases hx
    | stimulateDoomed client st => cases hx

end Deployment

end Icp
end VirtualFactory
