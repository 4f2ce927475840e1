import VirtualFactory.Icp.OutsideActions

/-!
# The threads of the clients

Any number of client threads call the manager while a scheduler polls its adapters.  A
call waits for the mutex of the manager, does its work and gives the mutex back; what a
removal leaves to do comes afterwards.  Messages may arrive for an adapter at any time.
-/

namespace VirtualFactory
namespace Icp

open Foundation IndustrialAdapter

/-- Where a client is in a call of the manager. -/
inductive ClientPoint (adapter : Type) where
  | idle
  | called (call : ManagerCall adapter)
  | entered (call : ManagerCall adapter)
  | disconnecting (todo : List String)
  | answered (call : ManagerCall adapter) (answer : ManagerAnswer)
  | leaving (answer : ManagerAnswer)
  | dropping (answer : ManagerAnswer)
  | returning (answer : ManagerAnswer)

namespace ClientPoint

def holds {adapter : Type} : ClientPoint adapter -> Bool
  | entered _ => true
  | disconnecting _ => true
  | answered _ _ => true
  | _ => false

/-- The adapters that a client in `disconnectAll` has still to visit. -/
def todo {adapter : Type} : ClientPoint adapter -> Option (List String)
  | disconnecting todo => some todo
  | _ => none

end ClientPoint

/-- Where a client goes on behind the mutex: a removal still has to disconnect the
adapter. -/
def ManagerCall.behind {adapter : Type} (answer : ManagerAnswer) :
    ManagerCall adapter -> ClientPoint adapter
  | removeAdapter _ => .leaving answer
  | _ => .dropping answer

variable {adapter device stimulus : Type}
  [IndustrialAdapter adapter device stimulus]

/-- A scheduler with the clients of its manager.  The mutex of the manager is with a
thread of the scheduler, or with a client, or free. -/
structure Site (adapter : Type) {device stimulus : Type}
    [IndustrialAdapter adapter device stimulus] where
  scheduler : Scheduler adapter
  holder : Option Nat := none
  clients : Nat -> ClientPoint adapter := fun _ => .idle
  doomed : Nat -> Option adapter := fun _ => none

/-- What a step of a site shows: a call begins or returns, something can be seen of the
deployment, or a thread goes on. -/
inductive SiteLabel (adapter stimulus : Type) where
  | called (client : Nat) (call : ManagerCall adapter)
  | observed (o : Observation adapter stimulus)
  | returned (client : Nat) (answer : ManagerAnswer)
  | client (n : Nat)
  | scheduler (l : SchedulerLabel)

def SiteLabel.observation {adapter stimulus : Type} :
    SiteLabel adapter stimulus -> Option (Observation adapter stimulus)
  | observed o => some o
  | _ => none

namespace Site

def new (runtime : Runtime adapter) (interval : Int) : Site adapter where
  scheduler := Scheduler.new runtime interval

def Free (s : Site adapter) : Prop :=
  s.scheduler.mutex = none ∧ s.holder = none

/-- What the manager, its scheduler and its clients work on. -/
def deployment (s : Site adapter) : Deployment adapter :=
  ⟨s.scheduler.runtime, s.doomed⟩

def put (s : Site adapter) (d : Deployment adapter) : Site adapter :=
  { s with
    scheduler := { s.scheduler with runtime := d.runtime }
    doomed := d.doomed }

def moveClient (s : Site adapter) (n : Nat) (point : ClientPoint adapter) :
    Site adapter :=
  { s with clients := Function.update s.clients n point }

@[simp] theorem clients_moveClient_self (s : Site adapter) (n : Nat)
    (point : ClientPoint adapter) : (s.moveClient n point).clients n = point := by
  show Function.update s.clients n point n = point
  rw [Function.update_self]

end Site

/-- One step of a thread, or of the world outside. -/
inductive SiteStep :
    Site adapter -> SiteLabel adapter stimulus -> Site adapter -> Prop
  | scheduler {s : Site adapter} {l : SchedulerLabel} {t : Scheduler adapter}
      (hstep : SchedulerStep s.scheduler l t)
      (hfree : s.scheduler.mutex = none -> t.mutex ≠ none -> s.holder = none)
      (hheld : s.scheduler.mutex ≠ none -> t.mutex ≠ none) :
      SiteStep s (.scheduler l) { s with scheduler := t }
  | polled {s : Site adapter} {l : SchedulerLabel} {t : Scheduler adapter}
      (hstep : SchedulerStep s.scheduler l t) (hheld : s.scheduler.mutex ≠ none)
      (hfree : t.mutex = none) :
      SiteStep s (.observed .polled) { s with scheduler := t }
  | called {s : Site adapter} (n : Nat) (call : ManagerCall adapter)
      (hat : s.clients n = .idle) :
      SiteStep s (.called n call) (s.moveClient n (.called call))
  | refuse {s : Site adapter} (n : Nat) (hat : s.clients n = .called (.addAdapter none)) :
      -- a null adapter is refused in front of the mutex
      SiteStep s
        (.observed (.served n (.addAdapter none) (.result ⟨false, "adapter is null"⟩)))
        (s.moveClient n (.returning (.result ⟨false, "adapter is null"⟩)))
  | lock {s : Site adapter} (n : Nat) (call : ManagerCall adapter)
      (hat : s.clients n = .called call) (hcall : call ≠ .addAdapter none)
      (hfree : s.Free) :
      SiteStep s (.client n) { s.moveClient n (.entered call) with holder := some n }
  | act {s : Site adapter} (n : Nat) (call : ManagerCall adapter)
      (devices : String -> device) (hat : s.clients n = .entered call)
      (hcall : call ≠ .disconnectAll) :
      SiteStep s (.observed (.served n call (call.act devices s.scheduler.runtime).1))
        ((s.put (Deployment.step (.serve n call devices) s.deployment).2).moveClient n
          (.answered call (call.act devices s.scheduler.runtime).1))
  | disconnectAll {s : Site adapter} (n : Nat)
      (hat : s.clients n = .entered .disconnectAll) :
      SiteStep s (.client n)
        (s.moveClient n (.disconnecting s.scheduler.runtime.manager.adapters.keys))
  | disconnectNext {s : Site adapter} (n : Nat) (key : String) (todo : List String)
      (d : device) (hat : s.clients n = .disconnecting (key :: todo)) :
      SiteStep s (.client n)
        ((s.put (s.deployment.next .disconnectAll key d)).moveClient n
          (.disconnecting todo))
  | disconnected {s : Site adapter} (n : Nat) (hat : s.clients n = .disconnecting []) :
      SiteStep s (.observed (.served n .disconnectAll .nothing))
        (s.moveClient n (.answered .disconnectAll .nothing))
  | rehash {s : Site adapter} (n : Nat) (newAdapter : Option adapter)
      (answer : ManagerAnswer) (order : List String)
      (hat : s.clients n = .answered (.addAdapter newAdapter) answer) :
      -- an adapter that is added may change the order of iteration
      SiteStep s (.observed .rehashed) (s.put (Deployment.step (.rehash order) s.deployment).2)
  | unlock {s : Site adapter} (n : Nat) (call : ManagerCall adapter)
      (answer : ManagerAnswer) (hat : s.clients n = .answered call answer) :
      SiteStep s (.client n) { s.moveClient n (call.behind answer) with holder := none }
  | leave {s : Site adapter} (n : Nat) (answer : ManagerAnswer) (d : device)
      (hat : s.clients n = .leaving answer) :
      SiteStep s (.observed (.disconnected n))
        ((s.put (s.deployment.disconnectDoomed n d)).moveClient n (.dropping answer))
  | destroy {s : Site adapter} (n : Nat) (answer : ManagerAnswer) (d : device)
      (hat : s.clients n = .dropping answer) :
      SiteStep s (.observed (.destroyed n))
        ((s.put (s.deployment.destroyDoomed n d)).moveClient n (.returning answer))
  | returned {s : Site adapter} (n : Nat) (answer : ManagerAnswer)
      (hat : s.clients n = .returning answer) :
      SiteStep s (.returned n answer) (s.moveClient n .idle)
  | stimulate {s : Site adapter} (key : String) (st : stimulus) :
      SiteStep s (.observed (.stimulated key st)) (s.put (s.deployment.stimulate key st))
  | stimulateDoomed {s : Site adapter} (n : Nat) (st : stimulus) :
      SiteStep s (.observed (.stimulatedDoomed n st))
        (s.put (s.deployment.stimulateDoomed n st))

end Icp
end VirtualFactory
