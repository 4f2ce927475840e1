import VirtualFactory.Foundation.Machine
import VirtualFactory.Icp.PollScheduler
import VirtualFactory.Industrial.Operations

/-!
# The runtime

A manager, a cache and a scheduler over them, as one machine.  An event is an
operation together with the devices that answer during it.
-/

namespace VirtualFactory
namespace Icp

open Foundation IndustrialAdapter

structure Runtime (adapter : Type) {device stimulus : Type}
    [IndustrialAdapter adapter device stimulus] where
  manager : AdapterManager adapter
  cache : LiveStateCache
  clientIds : ClientIds

/-- The operations on a runtime.  `stimulate` is something that happens to one adapter
from outside, and `rehash` a new iteration order of the manager. -/
inductive Operation (adapter stimulus : Type) where
  | addAdapter (newAdapter : Option adapter)
  | removeAdapter (key : String)
  | connectAdapter (key : String)
  | disconnectAdapter (key : String)
  | disconnectAll
  | pollOnce
  | execute (equipmentId command : String) (parameter : Double)
  | stimulate (key : String) (s : stimulus)
  | rehash (order : List String)

structure Event (adapter device stimulus : Type) where
  operation : Operation adapter stimulus
  devices : String -> device

/-- What an operation returns: the result of an operation on an adapter, or that of a
command with the adapter that has run it. -/
inductive Answer where
  | nothing
  | managed (key : String) (result : AdapterManagerResult)
  | executed (key : String) (result : CommandResult)
  deriving DecidableEq

namespace Runtime

variable {adapter device stimulus : Type}
  [IndustrialAdapter adapter device stimulus]

def empty : Runtime adapter where
  manager := AdapterManager.empty
  cache := LiveStateCache.empty
  clientIds := {}

def manage (key : String) (s : Runtime adapter)
    (r : AdapterManagerResult × AdapterManager adapter × ClientIds) :
    Answer × Runtime adapter :=
  (.managed key r.1, { s with manager := r.2.1, clientIds := r.2.2 })

def step (event : Event adapter device stimulus) (s : Runtime adapter) :
    Answer × Runtime adapter :=
  let devices := event.devices
  match event.operation with
  | .addAdapter newAdapter =>
      let key := (newAdapter.map adapterId).getD ""
      s.manage key (s.manager.addAdapter (devices key) newAdapter s.clientIds)
  | .removeAdapter key =>
      s.manage key (s.manager.removeAdapter (devices key) key s.clientIds)
  | .connectAdapter key =>
      s.manage key (s.manager.connectAdapter (devices key) key s.clientIds)
  | .disconnectAdapter key =>
      s.manage key (s.manager.disconnectAdapter (devices key) key s.clientIds)
  | .disconnectAll =>
      let r := s.manager.disconnectAll devices s.clientIds
      (.nothing, { s with manager := r.1, clientIds := r.2 })
  | .pollOnce =>
      let r := Icp.pollOnce devices s.manager (s.cache, s.clientIds)
      (.nothing, { manager := r.1, cache := r.2.1, clientIds := r.2.2 })
  | .execute equipmentId command parameter =>
      let r := s.manager.execute devices equipmentId command parameter s.clientIds
      ((r.1.map (fun p => .executed p.1 p.2)).getD .nothing,
        { s with manager := r.2.1, clientIds := r.2.2 })
  | .stimulate key st =>
      (.nothing, { s with manager := s.manager.stimulate st key })
  | .rehash order => (.nothing, { s with manager := s.manager.rehash order })

end Runtime

def runtime (adapter : Type) {device stimulus : Type}
    [IndustrialAdapter adapter device stimulus] :
    Machine (Runtime adapter) (Event adapter device stimulus) Answer where
  step := Runtime.step

namespace Runtime

variable {adapter device stimulus : Type}
  [IndustrialAdapter adapter device stimulus]

/-!
# What a step does to an adapter
-/

/-- What a step makes of the adapter under a key: it connects it through the manager,
it runs one other operation of it, or it leaves it alone. -/
inductive Moved (event : Event adapter device stimulus) (s : Runtime adapter)
    (key : String) (a : adapter) : adapter -> Prop
  | same : Moved event s key a a
  | operated (own : AdapterEvent device stimulus) (ids : ClientIds)
      (hown : own.operation ≠ .connect)
      (hevent : forall k, event.operation ≠ .connectAdapter k) :
      Moved event s key a (operate own (a, ids)).2.1
  | connected (hevent : event.operation = .connectAdapter key) :
      Moved event s key a
        (AdapterManager.connectChecked (event.devices key) key s.manager a
          s.clientIds).2.1

theorem moved_disconnect {event : Event adapter device stimulus}
    (hevent : forall k, event.operation ≠ .connectAdapter k) (s : Runtime adapter)
    (key : String) (d : device) (a : adapter) (ids : ClientIds) :
    Moved event s key a (disconnect d a ids).1 :=
  Moved.operated ⟨.disconnect, d⟩ ids (by simp) hevent

theorem moved_executeOn {event : Event adapter device stimulus}
    (hevent : forall k, event.operation ≠ .connectAdapter k) (s : Runtime adapter)
    (key : String) (d : device) (equipmentId command : String) (parameter : Double)
    (a : adapter) (ids : ClientIds) :
    Moved event s key a
      (AdapterManager.executeOn d equipmentId command parameter ids a) := by
  have hoperated : Moved event s key a
      (operate ⟨.execute equipmentId command parameter, d⟩ (a, ids)).2.1 :=
    Moved.operated _ ids (by simp) hevent
  unfold AdapterManager.executeOn
  cases hr : execute d a equipmentId command parameter ids with
  | none => exact Moved.same
  | some r =>
      rw [operate_execute_of_some hr] at hoperated
      exact hoperated

theorem moved_pollAdapterLocked {event : Event adapter device stimulus}
    (hevent : forall k, event.operation ≠ .connectAdapter k) (s : Runtime adapter)
    (key : String) (d : device) (a : adapter) (shared : Shared) :
    Moved event s key a (pollAdapterLocked d a shared).1 := by
  unfold pollAdapterLocked
  cases connectionState a with
  | disconnected => exact Moved.same
  | faulted => exact Moved.same
  | connected =>
      exact Moved.operated ⟨.poll, d⟩ shared.2 (by simp)
        hevent

theorem step_find? {event : Event adapter device stimulus} {s : Runtime adapter}
    {key : String} {b : adapter}
    (h : (step event s).2.manager.find? key = some b) :
    (exists a, s.manager.find? key = some a ∧ Moved event s key a b) ∨
      (event.operation = .addAdapter (some b) ∧ adapterId b = key ∧
        s.manager.find? key = none) := by
  rcases event with ⟨operation, devices⟩
  cases operation with
  | addAdapter newAdapter =>
      rcases AdapterManager.find?_addAdapter h with hold | ⟨hnew, hkey, hfree⟩
      · exact Or.inl ⟨b, hold, Moved.same⟩
      · exact Or.inr ⟨by rw [hnew], hkey, hfree⟩
  | removeAdapter removed =>
      have hfind := AdapterManager.find?_removeAdapter (devices removed) removed
        s.manager s.clientIds key
      by_cases hk : key = removed
      · rw [if_pos hk] at hfind
        cases hfind.symm.trans h
      · rw [if_neg hk] at hfind
        exact Or.inl ⟨b, hfind.symm.trans h, Moved.same⟩
  | connectAdapter connected =>
      have hfind := AdapterManager.find?_connectAdapter (devices connected) connected
        s.manager s.clientIds key
      by_cases hk : key = connected
      · rw [if_pos hk] at hfind
        rcases Option.map_eq_some_iff.mp (hfind.symm.trans h) with ⟨a, ha, hb⟩
        subst hk
        exact Or.inl ⟨a, ha, hb ▸ Moved.connected rfl⟩
      · rw [if_neg hk] at hfind
        exact Or.inl ⟨b, hfind.symm.trans h, Moved.same⟩
  | disconnectAdapter disconnected =>
      have hfind := AdapterManager.find?_disconnectAdapter (devices disconnected)
        disconnected s.manager s.clientIds key
      by_cases hk : key = disconnected
      · rw [if_pos hk] at hfind
        rcases Option.map_eq_some_iff.mp (hfind.symm.trans h) with ⟨a, ha, hb⟩
        exact Or.inl ⟨a, ha, hb ▸ moved_disconnect (by simp) s key _ a _⟩
      · rw [if_neg hk] at hfind
        exact Or.inl ⟨b, hfind.symm.trans h, Moved.same⟩
  | disconnectAll =>
      rcases AdapterManager.find?_disconnectAll h with ⟨a, ids, ha, hb⟩
      exact Or.inl ⟨a, ha, hb ▸ moved_disconnect (by simp) s key _ a ids⟩
  | pollOnce =>
      rcases Table.find?_visit h with ⟨a, shared, ha, hb⟩
      exact Or.inl ⟨a, ha, hb ▸ moved_pollAdapterLocked (by simp) s key _ a shared⟩
  | execute equipmentId command parameter =>
      rcases AdapterManager.find?_execute devices equipmentId command parameter
        s.manager s.clientIds key with hfind | hfind
      · exact Or.inl ⟨b, hfind.symm.trans h, Moved.same⟩
      · rcases Option.map_eq_some_iff.mp (hfind.symm.trans h) with ⟨a, ha, hb⟩
        exact Or.inl ⟨a, ha, hb ▸ moved_executeOn (by simp) s key _ _ _ _ a _⟩
  | stimulate stimulated st =>
      have hfind := s.manager.find?_modify stimulated
        (IndustrialAdapter.stimulate st) (id_stimulate st) key
      by_cases hk : key = stimulated
      · rw [if_pos hk] at hfind
        rcases Option.map_eq_some_iff.mp (hfind.symm.trans h) with ⟨a, ha, hb⟩
        exact Or.inl ⟨a, ha, hb ▸ Moved.operated ⟨.stimulate st, devices key⟩
          s.clientIds (by simp) (by simp)⟩
      · rw [if_neg hk] at hfind
        exact Or.inl ⟨b, hfind.symm.trans h, Moved.same⟩
  | rehash order =>
      exact Or.inl ⟨b, (s.manager.find?_rehash order key).symm.trans h, Moved.same⟩

/-!
# Properties of all registered adapters
-/

/-- Every adapter that an event adds is allowed. -/
def Adds (allowed : adapter -> Prop) (event : Event adapter device stimulus) :
    Prop :=
  forall a : adapter, event.operation = .addAdapter (some a) -> allowed a

theorem kept_connectChecked {kept : adapter -> Prop} (hkept : Stable kept)
    (d : device) (key : String) (m : AdapterManager adapter) {a : adapter}
    (ids : ClientIds) (ha : kept a) :
    kept (AdapterManager.connectChecked d key m a ids).2.1 := by
  have hafter := hkept ⟨.connect, d⟩ a ids ha
  have hchecked := AdapterManager.checked_connectChecked d key m a ids
  generalize AdapterManager.connectChecked d key m a ids = result at hchecked ⊢
  cases hchecked with
  | already => exact ha
  | refused _ hconnect =>
      simp only [operate, hconnect] at hafter
      exact hafter
  | collided _ hconnect =>
      simp only [operate, hconnect] at hafter
      exact hkept ⟨.disconnect, d⟩ _ _ hafter
  | connected _ hconnect =>
      simp only [operate, hconnect] at hafter
      exact hafter

theorem Moved.kept {kept : adapter -> Prop} (hkept : Stable kept)
    {event : Event adapter device stimulus} {s : Runtime adapter} {key : String}
    {a b : adapter} (h : Moved event s key a b) (ha : kept a) : kept b := by
  cases h with
  | same => exact ha
  | operated own ids => exact hkept own a ids ha
  | connected => exact kept_connectChecked hkept _ key s.manager _ ha

theorem registered_kept {kept : adapter -> Prop} (hkept : Stable kept)
    {es : List (Event adapter device stimulus)}
    (hes : forall event, event ∈ es -> Adds kept event) {key : String} {a : adapter}
    (ha : ((runtime adapter).run es empty).manager.find? key = some a) : kept a := by
  have hstep : forall (event : Event adapter device stimulus) (s : Runtime adapter),
      Adds kept event ->
        (forall key a, s.manager.find? key = some a -> kept a) ->
          forall key b,
            ((runtime adapter).step event s).2.manager.find? key = some b ->
              kept b := by
    intro event s hadds hs key b hb
    rcases step_find? hb with ⟨a, ha, hmoved⟩ | ⟨hnew, _, _⟩
    · exact hmoved.kept hkept (hs key a ha)
    · exact hadds b hnew
  have hempty : forall key a,
      (empty : Runtime adapter).manager.find? key = some a -> kept a := by
    intro key a ha
    cases ha
  exact Machine.run_invariant hstep hempty (Machine.admissible_of_forall empty hes)
    key a ha

end Runtime

end Icp
end VirtualFactory
