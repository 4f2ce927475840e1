import VirtualFactory.Foundation.Transitions
import VirtualFactory.Icp.Runtime

/-!
# The thread of the scheduler

One controlling thread starts, stops and destroys a scheduler, and runs poll cycles
itself.  The worker it starts runs its loop in between, one step at a time.
-/

namespace VirtualFactory
namespace Icp

open Foundation IndustrialAdapter

inductive SchedulerCall where
  | start
  | stop
  | pollOnce
  | setInterval (interval : Int)
  | destroy
  deriving DecidableEq

/-- Where the controlling thread is.  A stop that belongs to the destructor is the
last one. -/
inductive ControllerPoint where
  | idle
  | start
  | spawn
  | assign (worker : Nat)
  | stop (last : Bool)
  | notify (last : Bool)
  | join (last : Bool)
  | joinWait (last : Bool) (worker : Nat)
  | pollOnce
  | visiting (todo : List String)
  | setInterval (interval : Int)
  | destroyed
  | terminated
  deriving DecidableEq

inductive WorkerPoint where
  | loopTest
  | pollOnce
  | visiting (todo : List String)
  | interval
  | predicate (wait : Int)
  | blocked (wait : Int)
  | exited
  deriving DecidableEq

inductive MutexHolder where
  | controller
  | worker (n : Nat)
  deriving DecidableEq

structure Worker where
  point : WorkerPoint
  joined : Bool
  deriving DecidableEq

variable {adapter device stimulus : Type}
  [IndustrialAdapter adapter device stimulus]

/-- A scheduler with its flag, its thread handle and every worker it ever started.  The
mutex is the one of the manager. -/
structure Scheduler (adapter : Type) {device stimulus : Type}
    [IndustrialAdapter adapter device stimulus] where
  runtime : Runtime adapter
  interval : Int
  mutex : Option MutexHolder := none
  running : Bool := false
  thread : Option Nat := none
  workers : List Worker := []
  controller : ControllerPoint := .idle

/-- What a step of the scheduler shows: a call of the controlling thread begins or
returns, or one of the threads goes on. -/
inductive SchedulerLabel where
  | called (call : SchedulerCall)
  | returned (call : SchedulerCall)
  | controller
  | worker (n : Nat)
  deriving DecidableEq

def visitNext (d : device) (key : String) (r : Runtime adapter) : Runtime adapter :=
  match r.manager.find? key with
  | none => r
  | some a =>
      let shared := (r.cache, r.clientIds)
      let after := (pollAdapterLocked d a shared).2
      { manager := r.manager.modify key (fun b => (pollAdapterLocked d b shared).1)
          (fun b => adapterId_pollAdapterLocked d b shared)
        cache := after.1
        clientIds := after.2 }

/-- A notification lets a blocked worker test the flag again. -/
def WorkerPoint.notified : WorkerPoint -> WorkerPoint
  | blocked wait => predicate wait
  | point => point

/-- The steps of a worker that touch neither the manager nor the cache. -/
inductive WorkerMove (running : Bool) (interval : Int) :
    WorkerPoint -> WorkerPoint -> Prop
  | enter (h : running = true) : WorkerMove running interval .loopTest .pollOnce
  | exit (h : running = false) : WorkerMove running interval .loopTest .exited
  | readInterval : WorkerMove running interval .interval (.predicate interval)
  | stopped (wait : Int) (h : running = false) :
      WorkerMove running interval (.predicate wait) .loopTest
  | block (wait : Int) (h : running = true) :
      WorkerMove running interval (.predicate wait) (.blocked wait)
  | spurious (wait : Int) :
      WorkerMove running interval (.blocked wait) (.predicate wait)
  | timeout (wait : Int) : WorkerMove running interval (.blocked wait) .loopTest

theorem WorkerMove.not_exited {running : Bool} {interval : Int}
    {before after : WorkerPoint} (h : WorkerMove running interval before after) :
    before ≠ .exited := by
  cases h <;> intro h <;> cases h

namespace Scheduler

def new (runtime : Runtime adapter) (interval : Int) : Scheduler adapter where
  runtime := runtime
  interval := interval

def entry : SchedulerCall -> ControllerPoint
  | .start => .start
  | .stop => .stop false
  | .pollOnce => .pollOnce
  | .setInterval interval => .setInterval interval
  | .destroy => .stop true

def stopped (last : Bool) : ControllerPoint :=
  if last then .destroyed else .idle

def stopCall (last : Bool) : SchedulerCall :=
  if last then .destroy else .stop

def pointOf (s : Scheduler adapter) (n : Nat) : Option WorkerPoint :=
  (s.workers[n]?).map Worker.point

def joinedOf (s : Scheduler adapter) (n : Nat) : Option Bool :=
  (s.workers[n]?).map Worker.joined

def moveWorker (s : Scheduler adapter) (n : Nat) (point : WorkerPoint) :
    Scheduler adapter :=
  { s with workers := s.workers.modify n (fun w => { w with point := point }) }

def notifyAll (s : Scheduler adapter) : Scheduler adapter :=
  { s with workers := s.workers.map (fun w => { w with point := w.point.notified }) }

def spawnWorker (s : Scheduler adapter) : Scheduler adapter :=
  { s with workers := s.workers ++ [⟨.loopTest, false⟩] }

/-- The handle gives up the worker it has joined. -/
def release (s : Scheduler adapter) (n : Nat) : Scheduler adapter :=
  { s with
    thread := none
    workers := s.workers.modify n (fun w => { w with joined := true }) }

theorem pointOf_moveWorker (s : Scheduler adapter) (n : Nat) (point : WorkerPoint)
    (m : Nat) :
    (s.moveWorker n point).pointOf m =
      if n = m then (s.pointOf m).map (fun _ => point) else s.pointOf m := by
  show ((s.workers.modify n _)[m]?).map Worker.point = _
  unfold pointOf
  rw [List.getElem?_modify]
  by_cases hm : n = m <;> cases s.workers[m]? <;> simp [hm]

theorem joinedOf_moveWorker (s : Scheduler adapter) (n : Nat) (point : WorkerPoint)
    (m : Nat) : (s.moveWorker n point).joinedOf m = s.joinedOf m := by
  show ((s.workers.modify n _)[m]?).map Worker.joined = _
  unfold joinedOf
  rw [List.getElem?_modify]
  by_cases hm : n = m <;> cases s.workers[m]? <;> simp [hm]

theorem pointOf_notifyAll (s : Scheduler adapter) (m : Nat) :
    s.notifyAll.pointOf m = (s.pointOf m).map WorkerPoint.notified := by
  show ((s.workers.map _)[m]?).map Worker.point = _
  unfold pointOf
  rw [List.getElem?_map]
  cases s.workers[m]? <;> rfl

theorem joinedOf_notifyAll (s : Scheduler adapter) (m : Nat) :
    s.notifyAll.joinedOf m = s.joinedOf m := by
  show ((s.workers.map _)[m]?).map Worker.joined = _
  unfold joinedOf
  rw [List.getElem?_map]
  cases s.workers[m]? <;> rfl

theorem pointOf_release (s : Scheduler adapter) (n m : Nat) :
    (s.release n).pointOf m = s.pointOf m := by
  show ((s.workers.modify n _)[m]?).map Worker.point = _
  unfold pointOf
  rw [List.getElem?_modify]
  by_cases hm : n = m <;> cases s.workers[m]? <;> simp [hm]

theorem joinedOf_release (s : Scheduler adapter) (n m : Nat) :
    (s.release n).joinedOf m =
      if n = m then (s.joinedOf m).map (fun _ => true) else s.joinedOf m := by
  show ((s.workers.modify n _)[m]?).map Worker.joined = _
  unfold joinedOf
  rw [List.getElem?_modify]
  by_cases hm : n = m <;> cases s.workers[m]? <;> simp [hm]

theorem getElem?_spawnWorker (s : Scheduler adapter) (m : Nat) :
    s.spawnWorker.workers[m]? =
      if m = s.workers.length then some ⟨.loopTest, false⟩ else s.workers[m]? := by
  show (s.workers ++ [⟨.loopTest, false⟩])[m]? = _
  rcases Nat.lt_trichotomy m s.workers.length with hlt | heq | hgt
  · rw [List.getElem?_append_left hlt, if_neg (Nat.ne_of_lt hlt)]
  · simp [heq]
  · rw [if_neg (Nat.ne_of_gt hgt), List.getElem?_eq_none (Nat.le_of_lt hgt)]
    apply List.getElem?_eq_none
    rw [List.length_append]
    exact hgt

end Scheduler

/-- One step of the controlling thread or of a worker. -/
inductive SchedulerStep :
    Scheduler adapter -> SchedulerLabel -> Scheduler adapter -> Prop
  | called {s : Scheduler adapter} (call : SchedulerCall)
      (hat : s.controller = .idle) :
      SchedulerStep s (.called call) { s with controller := Scheduler.entry call }
  | startAgain {s : Scheduler adapter} (hat : s.controller = .start)
      (hrunning : s.running = true) :
      SchedulerStep s (.returned .start) { s with controller := .idle }
  | startFirst {s : Scheduler adapter} (hat : s.controller = .start)
      (hrunning : s.running = false) :
      SchedulerStep s .controller { s with running := true, controller := .spawn }
  | spawn {s : Scheduler adapter} (hat : s.controller = .spawn) :
      SchedulerStep s .controller
        { s.spawnWorker with controller := .assign s.workers.length }
  | assign {s : Scheduler adapter} (n : Nat) (hat : s.controller = .assign n)
      (hthread : s.thread = none) :
      SchedulerStep s (.returned .start)
        { s with thread := some n, controller := .idle }
  | assignOver {s : Scheduler adapter} (n m : Nat) (hat : s.controller = .assign n)
      (hthread : s.thread = some m) :
      -- the assignment of a thread over a joinable one calls std::terminate
      SchedulerStep s .controller { s with controller := .terminated }
  | stopIdle {s : Scheduler adapter} (last : Bool) (hat : s.controller = .stop last)
      (hrunning : s.running = false) :
      SchedulerStep s .controller { s with controller := .join last }
  | stopRunning {s : Scheduler adapter} (last : Bool)
      (hat : s.controller = .stop last) (hrunning : s.running = true) :
      SchedulerStep s .controller
        { s with running := false, controller := .notify last }
  | notify {s : Scheduler adapter} (last : Bool)
      (hat : s.controller = .notify last) :
      SchedulerStep s .controller { s.notifyAll with controller := .join last }
  | joinNone {s : Scheduler adapter} (last : Bool) (hat : s.controller = .join last)
      (hthread : s.thread = none) :
      SchedulerStep s (.returned (Scheduler.stopCall last))
        { s with controller := Scheduler.stopped last }
  | joinSome {s : Scheduler adapter} (last : Bool) (n : Nat)
      (hat : s.controller = .join last) (hthread : s.thread = some n) :
      SchedulerStep s .controller { s with controller := .joinWait last n }
  | joined {s : Scheduler adapter} (last : Bool) (n : Nat)
      (hat : s.controller = .joinWait last n) (hexited : s.pointOf n = some .exited) :
      SchedulerStep s (.returned (Scheduler.stopCall last))
        { s.release n with controller := Scheduler.stopped last }
  | pollLock {s : Scheduler adapter} (hat : s.controller = .pollOnce)
      (hfree : s.mutex = none) :
      SchedulerStep s .controller
        { s with
          mutex := some .controller
          controller := .visiting s.runtime.manager.adapters.keys }
  | pollVisit {s : Scheduler adapter} (key : String) (todo : List String)
      (d : device) (hat : s.controller = .visiting (key :: todo)) :
      SchedulerStep s .controller
        { s with
          runtime := visitNext d key s.runtime
          controller := .visiting todo }
  | pollUnlock {s : Scheduler adapter} (hat : s.controller = .visiting []) :
      SchedulerStep s (.returned .pollOnce)
        { s with mutex := none, controller := .idle }
  | setInterval {s : Scheduler adapter} (interval : Int)
      (hat : s.controller = .setInterval interval) :
      SchedulerStep s (.returned (.setInterval interval))
        { s.notifyAll with interval := interval, controller := .idle }
  | move {s : Scheduler adapter} (n : Nat) (before after : WorkerPoint)
      (hat : s.pointOf n = some before)
      (hmove : WorkerMove s.running s.interval before after) :
      SchedulerStep s (.worker n) (s.moveWorker n after)
  | lock {s : Scheduler adapter} (n : Nat) (hat : s.pointOf n = some .pollOnce)
      (hfree : s.mutex = none) :
      SchedulerStep s (.worker n)
        { s.moveWorker n (.visiting s.runtime.manager.adapters.keys) with
          mutex := some (.worker n) }
  | visit {s : Scheduler adapter} (n : Nat) (key : String) (todo : List String)
      (d : device) (hat : s.pointOf n = some (.visiting (key :: todo))) :
      SchedulerStep s (.worker n)
        { s.moveWorker n (.visiting todo) with
          runtime := visitNext d key s.runtime }
  | unlock {s : Scheduler adapter} (n : Nat) (hat : s.pointOf n = some (.visiting [])) :
      SchedulerStep s (.worker n)
        { s.moveWorker n .interval with mutex := none }

end Icp
end VirtualFactory
