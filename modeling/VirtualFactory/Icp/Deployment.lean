import VirtualFactory.Foundation.Weaving
import VirtualFactory.Icp.SchedulerCycles
import VirtualFactory.Industrial.LawfulDisconnect

/-!
# The calls of a deployment

Any number of clients call the manager of a runtime.  An adapter that leaves the manager
is disconnected and destroyed by the client that took it out, which no longer holds the
mutex then, and so is an adapter that the manager refuses.  This module has the calls one
after the other.
-/

namespace VirtualFactory
namespace Icp

open Foundation IndustrialAdapter

/-- A call of a client to the manager. -/
inductive ManagerCall (adapter : Type) where
  | addAdapter (newAdapter : Option adapter)
  | removeAdapter (key : String)
  | connectAdapter (key : String)
  | disconnectAdapter (key : String)
  | disconnectAll
  | equipmentById (equipmentId : String)
  | allEquipment
  | adapterIds
  | adapterCount

inductive ManagerAnswer where
  | nothing
  | result (r : AdapterManagerResult)
  | found (e : Option EquipmentView)
  | listed (es : List EquipmentView)
  | ids (keys : List String)
  | count (n : Nat)

/-- What can be seen of a deployment: a call is served, a poll cycle ends, an adapter that
has left the manager is cleaned up, or a message arrives. -/
inductive Observation (adapter stimulus : Type) where
  | served (client : Nat) (call : ManagerCall adapter) (answer : ManagerAnswer)
  | polled
  | rehashed
  | disconnected (client : Nat)
  | destroyed (client : Nat)
  | stimulated (key : String) (st : stimulus)
  | stimulatedDoomed (client : Nat) (st : stimulus)

/-- The registered adapter that a message arrives for. -/
def Observation.about {adapter stimulus : Type} :
    Observation adapter stimulus -> Option String
  | stimulated key _ => some key
  | _ => none

variable {adapter device stimulus : Type}
  [IndustrialAdapter adapter device stimulus]

/-- What a call does while its client holds the mutex.  The adapter that it takes out of
the manager, or does not let in, is left to the client. -/
def ManagerCall.act (devices : String -> device) (r : Runtime adapter) :
    ManagerCall adapter -> ManagerAnswer × Runtime adapter × Option adapter
  | addAdapter newAdapter =>
      let d := devices ((newAdapter.map adapterId).getD "")
      let added := r.manager.addAdapter d newAdapter r.clientIds
      (.result added.1, { r with manager := added.2.1 },
        if added.1.ok then none else newAdapter)
  | removeAdapter key =>
      let removed := r.manager.removeAdapter (devices key) key r.clientIds
      (.result removed.1, { r with manager := removed.2.1 }, r.manager.find? key)
  | connectAdapter key =>
      let connected := r.manager.connectAdapter (devices key) key r.clientIds
      (.result connected.1,
        { r with manager := connected.2.1, clientIds := connected.2.2 }, none)
  | disconnectAdapter key =>
      let left := r.manager.disconnectAdapter (devices key) key r.clientIds
      (.result left.1, { r with manager := left.2.1, clientIds := left.2.2 }, none)
  | disconnectAll =>
      let left := r.manager.disconnectAll devices r.clientIds
      (.nothing, { r with manager := left.1, clientIds := left.2 }, none)
  | equipmentById equipmentId => (.found (r.manager.equipmentById equipmentId), r, none)
  | allEquipment => (.listed r.manager.allEquipment, r, none)
  | adapterIds => (.ids r.manager.adapters.keys, r, none)
  | adapterCount => (.count r.manager.adapters.entries.length, r, none)

/-- A runtime with the adapters that have left the manager and that their clients have
not destroyed yet. -/
structure Deployment (adapter : Type) {device stimulus : Type}
    [IndustrialAdapter adapter device stimulus] where
  runtime : Runtime adapter
  doomed : Nat -> Option adapter

/-- What happens without the mutex. -/
inductive OutsideAction (device stimulus : Type) where
  | refuse (client : Nat)
  | disconnectDoomed (client : Nat) (d : device)
  | destroyDoomed (client : Nat) (d : device)
  | stimulate (key : String) (s : stimulus)
  | stimulateDoomed (client : Nat) (s : stimulus)

/-- What happens to a deployment, one thing after the other. -/
inductive DeploymentEvent (adapter device stimulus : Type) where
  | pollOnce (devices : String -> device)
  | serve (client : Nat) (call : ManagerCall adapter) (devices : String -> device)
  | rehash (order : List String)
  | outside (x : OutsideAction device stimulus)

namespace Deployment

/-- The client keeps the adapter that a call has left to it. -/
def keep (client : Nat) (left : Option adapter) (doomed : Nat -> Option adapter) :
    Nat -> Option adapter :=
  match left with
  | none => doomed
  | some a => Function.update doomed client (some a)

/-- The end of `removeAdapter`: an adapter that is still linked is disconnected. -/
def disconnectDoomed (client : Nat) (d : device) (s : Deployment adapter) :
    Deployment adapter :=
  match s.doomed client with
  | none => s
  | some a =>
      if connectionState a = .disconnected then s
      else
        { runtime :=
            { s.runtime with clientIds := (disconnect d a s.runtime.clientIds).2 }
          doomed := Function.update s.doomed client
            (some (disconnect d a s.runtime.clientIds).1) }

def destroyDoomed (client : Nat) (d : device) (s : Deployment adapter) :
    Deployment adapter :=
  match s.doomed client with
  | none => s
  | some a =>
      { runtime :=
          { s.runtime with clientIds := AdapterManager.destroy d a s.runtime.clientIds }
        doomed := Function.update s.doomed client none }

theorem disconnectDoomed_of_none {s : Deployment adapter} {client : Nat}
    (h : s.doomed client = none) (d : device) : s.disconnectDoomed client d = s := by
  unfold disconnectDoomed
  rw [h]

theorem disconnectDoomed_of_some {s : Deployment adapter} {client : Nat} {a : adapter}
    (h : s.doomed client = some a) (d : device) :
    s.disconnectDoomed client d =
      if connectionState a = .disconnected then s
      else
        { runtime :=
            { s.runtime with clientIds := (disconnect d a s.runtime.clientIds).2 }
          doomed := Function.update s.doomed client
            (some (disconnect d a s.runtime.clientIds).1) } := by
  unfold disconnectDoomed
  rw [h]

theorem destroyDoomed_of_none {s : Deployment adapter} {client : Nat}
    (h : s.doomed client = none) (d : device) : s.destroyDoomed client d = s := by
  unfold destroyDoomed
  rw [h]

theorem destroyDoomed_of_some {s : Deployment adapter} {client : Nat} {a : adapter}
    (h : s.doomed client = some a) (d : device) :
    s.destroyDoomed client d =
      { runtime :=
          { s.runtime with clientIds := AdapterManager.destroy d a s.runtime.clientIds }
        doomed := Function.update s.doomed client none } := by
  unfold destroyDoomed
  rw [h]

def stimulate (key : String) (st : stimulus) (s : Deployment adapter) :
    Deployment adapter :=
  { s with runtime := { s.runtime with manager := s.runtime.manager.stimulate st key } }

def stimulateDoomed (client : Nat) (st : stimulus) (s : Deployment adapter) :
    Deployment adapter :=
  { s with
    doomed := Function.update s.doomed client
      ((s.doomed client).map (IndustrialAdapter.stimulate st)) }

def perform (s : Deployment adapter) :
    OutsideAction device stimulus -> Deployment adapter
  | .refuse _ => s
  | .disconnectDoomed client d => s.disconnectDoomed client d
  | .destroyDoomed client d => s.destroyDoomed client d
  | .stimulate key st => s.stimulate key st
  | .stimulateDoomed client st => s.stimulateDoomed client st

/-- What can be seen outside the mutex. -/
def observed : OutsideAction device stimulus -> Observation adapter stimulus
  | .refuse client =>
      .served client (.addAdapter none) (.result ⟨false, "adapter is null"⟩)
  | .disconnectDoomed client _ => .disconnected client
  | .destroyDoomed client _ => .destroyed client
  | .stimulate key st => .stimulated key st
  | .stimulateDoomed client st => .stimulatedDoomed client st

def step (event : DeploymentEvent adapter device stimulus) (s : Deployment adapter) :
    Observation adapter stimulus × Deployment adapter :=
  match event with
  | .pollOnce devices =>
      (.polled, { s with runtime := (Runtime.step (cycleEvent devices) s.runtime).2 })
  | .serve client call devices =>
      let r := call.act devices s.runtime
      (.served client call r.1,
        { runtime := r.2.1, doomed := keep client r.2.2 s.doomed })
  | .rehash order =>
      (.rehashed,
        { s with
          runtime := { s.runtime with manager := s.runtime.manager.rehash order } })
  | .outside x => (observed x, s.perform x)

end Deployment

/-- A deployment as a machine: it puts out what can be seen of it. -/
def deployment (adapter : Type) {device stimulus : Type}
    [IndustrialAdapter adapter device stimulus] :
    Machine (Deployment adapter) (DeploymentEvent adapter device stimulus)
      (Observation adapter stimulus) where
  step := Deployment.step

/-!
# The loops of the manager

A poll cycle and `disconnectAll` visit every adapter while they hold the mutex.
-/

inductive Sweep where
  | pollOnce
  | disconnectAll
  deriving DecidableEq

namespace Sweep

def visit (w : Sweep) (d : device) (a : adapter) (s : Shared) : adapter × Shared :=
  match w with
  | pollOnce => pollAdapterLocked d a s
  | disconnectAll =>
      let r := disconnect d a s.2
      (r.1, s.1, r.2)

theorem adapterId_visit (w : Sweep) (d : device) (a : adapter) (s : Shared) :
    adapterId (w.visit d a s).1 = adapterId a := by
  cases w with
  | pollOnce => exact adapterId_pollAdapterLocked d a s
  | disconnectAll => exact id_disconnect d a s.2

def next (w : Sweep) (key : String) (d : device) (r : Runtime adapter) :
    Runtime adapter :=
  match r.manager.find? key with
  | none => r
  | some a =>
      let shared := (r.cache, r.clientIds)
      let after := (w.visit d a shared).2
      { manager := r.manager.modify key (fun b => (w.visit d b shared).1)
          (fun b => w.adapterId_visit d b shared)
        cache := after.1
        clientIds := after.2 }

theorem next_of_none {r : Runtime adapter} {key : String}
    (h : r.manager.find? key = none) (w : Sweep) (d : device) :
    w.next key d r = r := by
  unfold next
  rw [h]

theorem next_of_some {r : Runtime adapter} {key : String} {a : adapter}
    (h : r.manager.find? key = some a) (w : Sweep) (d : device) :
    w.next key d r =
      { manager := r.manager.modify key (fun b => (w.visit d b (r.cache, r.clientIds)).1)
          (fun b => w.adapterId_visit d b (r.cache, r.clientIds))
        cache := (w.visit d a (r.cache, r.clientIds)).2.1
        clientIds := (w.visit d a (r.cache, r.clientIds)).2.2 } := by
  unfold next
  rw [h]

def whole (w : Sweep) (devices : String -> device) (r : Runtime adapter) :
    Runtime adapter :=
  match w with
  | pollOnce => (Runtime.step (cycleEvent devices) r).2
  | disconnectAll =>
      let left := r.manager.disconnectAll devices r.clientIds
      { r with manager := left.1, clientIds := left.2 }

theorem visited_next (w : Sweep) (devices : String -> device) (key : String)
    (r : Runtime adapter) :
    visited (w.next key (devices key) r) =
      Table.visitAt (fun k a s => w.visit (devices k) a s) (visited r) key := by
  unfold next Table.visitAt
  cases hfind : r.manager.find? key with
  | none =>
      have hfind' : (visited r).1.find? key = none := hfind
      rw [hfind']
  | some a =>
      have hfind' : (visited r).1.find? key = some a := hfind
      rw [hfind']
      rfl

theorem visited_foldl_next (w : Sweep) (devices : String -> device)
    (keys : List String) (r : Runtime adapter) :
    visited (keys.foldl (fun r key => w.next key (devices key) r) r) =
      keys.foldl (Table.visitAt (fun k a s => w.visit (devices k) a s)) (visited r) := by
  induction keys generalizing r with
  | nil => rfl
  | cons key keys ih =>
      rw [List.foldl_cons, List.foldl_cons, ← w.visited_next]
      exact ih _

theorem foldl_next_keys (w : Sweep) (devices : String -> device) (r : Runtime adapter) :
    r.manager.adapters.keys.foldl (fun r key => w.next key (devices key) r) r =
      w.whole devices r := by
  apply visited_injective
  rw [w.visited_foldl_next]
  refine (Table.visit_eq_foldl r.manager.adapters _ (r.cache, r.clientIds)).trans ?_
  have hsame : forall e, e ∈ r.manager.adapters.entries -> forall s,
      w.visit (devices e.1) e.2 s = w.visit (devices (adapterId e.2)) e.2 s := by
    intro e he s
    rw [r.manager.keyed e he]
  have hcongr := Table.visitEntries_congr
    (f := fun k a s => w.visit (devices k) a s)
    (g := fun (_ : String) a s => w.visit (devices (adapterId a)) a s)
    hsame (r.cache, r.clientIds)
  unfold Table.visit
  simp only [hcongr]
  cases w with
  | pollOnce => rfl
  | disconnectAll =>
      -- the loop hands the cache through
      have hpassed := Table.visitEntries_beside
        (fun (_ : String) a ids => disconnect (devices (adapterId a)) a ids)
        r.manager.adapters.entries r.cache r.clientIds
      simp only [visit, hpassed]
      rfl

end Sweep

end Icp
end VirtualFactory
