import VirtualFactory.Icp.PollCycle
import VirtualFactory.Icp.SchedulerThread

/-!
# The cycles of two threads

A poll cycle holds the mutex of the manager from its first visit to its last, so the
cycles of the controlling thread and of the workers come one after the other, and the
runtime only ever shows whole cycles to the others.
-/

namespace VirtualFactory
namespace Icp

open Foundation IndustrialAdapter

variable {adapter device stimulus : Type}
  [IndustrialAdapter adapter device stimulus]

/-!
# The visits of a cycle
-/

def visitAll (devices : String -> device) (keys : List String)
    (r : Runtime adapter) : Runtime adapter :=
  keys.foldl (fun r key => visitNext (devices key) key r) r

def cycleEvent (devices : String -> device) :
    Event adapter device stimulus where
  operation := .pollOnce
  devices := devices

def visited (r : Runtime adapter) : Table String adapter × Shared :=
  (r.manager.adapters, r.cache, r.clientIds)

theorem visited_injective {r t : Runtime adapter} (h : visited r = visited t) :
    r = t := by
  rcases r with ⟨⟨entries, hentries⟩, cache, ids⟩
  rcases t with ⟨⟨entries', hentries'⟩, cache', ids'⟩
  unfold visited at h
  cases h
  rfl

theorem visited_visitNext (devices : String -> device) (key : String)
    (r : Runtime adapter) :
    visited (visitNext (devices key) key r) =
      Table.visitAt (fun k a s => pollAdapterLocked (devices k) a s) (visited r)
        key := by
  unfold visitNext Table.visitAt
  cases hfind : r.manager.find? key with
  | none =>
      have hfind' : (visited r).1.find? key = none := hfind
      rw [hfind']
  | some a =>
      have hfind' : (visited r).1.find? key = some a := hfind
      rw [hfind']
      rfl

theorem visited_visitAll (devices : String -> device) (keys : List String)
    (r : Runtime adapter) :
    visited (visitAll devices keys r) =
      keys.foldl (Table.visitAt (fun k a s => pollAdapterLocked (devices k) a s))
        (visited r) := by
  induction keys generalizing r with
  | nil => rfl
  | cons key keys ih =>
      rw [List.foldl_cons, ← visited_visitNext]
      exact ih (visitNext (devices key) key r)

theorem visitAll_keys (devices : String -> device) (r : Runtime adapter) :
    visitAll devices r.manager.adapters.keys r =
      (Runtime.step (cycleEvent devices) r).2 := by
  apply visited_injective
  rw [visited_visitAll]
  refine (Table.visit_eq_foldl r.manager.adapters _ (r.cache, r.clientIds)).trans ?_
  have hsame : forall e, e ∈ r.manager.adapters.entries -> forall s,
      pollAdapterLocked (devices e.1) e.2 s =
        pollAdapterLocked (devices (adapterId e.2)) e.2 s := by
    intro e he s
    rw [r.manager.keyed e he]
  have hcongr := Table.visitEntries_congr
    (f := fun k a s => pollAdapterLocked (devices k) a s)
    (g := fun (_ : String) a s => pollAdapterLocked (devices (adapterId a)) a s)
    hsame (r.cache, r.clientIds)
  unfold Table.visit
  simp only [hcongr]
  rfl

theorem visitAll_congr {devices devices' : String -> device} {keys : List String}
    (h : forall key, key ∈ keys -> devices key = devices' key)
    (r : Runtime adapter) : visitAll devices keys r = visitAll devices' keys r := by
  induction keys generalizing r with
  | nil => rfl
  | cons key keys ih =>
      show visitAll devices keys (visitNext (devices key) key r) =
        visitAll devices' keys (visitNext (devices' key) key r)
      rw [h key List.mem_cons_self]
      exact ih (fun k hk => h k (List.mem_cons_of_mem key hk)) _

theorem visitAll_append (devices : String -> device) (before after : List String)
    (r : Runtime adapter) :
    visitAll devices (before ++ after) r =
      visitAll devices after (visitAll devices before r) :=
  List.foldl_append

/-!
# The mutex
-/

def ControllerPoint.todo : ControllerPoint -> Option (List String)
  | visiting todo => some todo
  | _ => none

def WorkerPoint.todo : WorkerPoint -> Option (List String)
  | visiting todo => some todo
  | _ => none

theorem WorkerPoint.todo_notified (point : WorkerPoint) :
    point.notified.todo = point.todo := by
  cases point <;> rfl

theorem WorkerMove.todo {running : Bool} {interval : Int}
    {before after : WorkerPoint} (h : WorkerMove running interval before after) :
    before.todo = none ∧ after.todo = none := by
  cases h <;> exact ⟨rfl, rfl⟩

namespace Scheduler

/-- The adapters that a thread in a poll cycle has still to visit. -/
def todoOf (s : Scheduler adapter) : MutexHolder -> Option (List String)
  | .controller => s.controller.todo
  | .worker n => (s.pointOf n).bind WorkerPoint.todo

/-- What a step does to the cycles. -/
inductive CycleMove (s t : Scheduler adapter) : Prop
  | quiet (hmutex : t.mutex = s.mutex) (hruntime : t.runtime = s.runtime)
      (htodo : forall h, t.todoOf h = s.todoOf h)
  | lock (holder : MutexHolder) (hfree : s.mutex = none)
      (hmutex : t.mutex = some holder) (hruntime : t.runtime = s.runtime)
      (htodo : forall h, t.todoOf h =
        if h = holder then some s.runtime.manager.adapters.keys else s.todoOf h)
  | visit (holder : MutexHolder) (key : String) (todo : List String) (d : device)
      (hat : s.todoOf holder = some (key :: todo)) (hmutex : t.mutex = s.mutex)
      (hruntime : t.runtime = visitNext d key s.runtime)
      (htodo : forall h, t.todoOf h =
        if h = holder then some todo else s.todoOf h)
  | unlock (holder : MutexHolder) (hat : s.todoOf holder = some [])
      (hmutex : t.mutex = none) (hruntime : t.runtime = s.runtime)
      (htodo : forall h, t.todoOf h = if h = holder then none else s.todoOf h)

theorem todoOf_controller {s t : Scheduler adapter} (hworkers : t.workers = s.workers)
    (h : MutexHolder) :
    t.todoOf h = if h = .controller then t.controller.todo else s.todoOf h := by
  cases h with
  | controller => rfl
  | worker n =>
      show (t.pointOf n).bind WorkerPoint.todo = (s.pointOf n).bind WorkerPoint.todo
      unfold pointOf
      rw [hworkers]

theorem todoOf_moveWorker {s t : Scheduler adapter} {n : Nat}
    {before after : WorkerPoint} (hat : s.pointOf n = some before)
    (hworkers : t.workers = (s.moveWorker n after).workers)
    (hcontroller : t.controller = s.controller) (h : MutexHolder) :
    t.todoOf h = if h = .worker n then after.todo else s.todoOf h := by
  cases h with
  | controller =>
      show t.controller.todo = s.controller.todo
      rw [hcontroller]
  | worker m =>
      have hmoved := s.pointOf_moveWorker n after m
      have hpoint : t.pointOf m = (s.moveWorker n after).pointOf m := by
        unfold pointOf
        rw [hworkers]
      show (t.pointOf m).bind WorkerPoint.todo = _
      rw [hpoint, hmoved]
      by_cases hm : n = m
      · subst hm
        simp [hat]
      · have hne : m ≠ n := Ne.symm hm
        simp [hm, hne, todoOf]

theorem todoOf_notifyAll {s t : Scheduler adapter}
    (hworkers : t.workers = s.notifyAll.workers) (n : Nat) :
    t.todoOf (.worker n) = s.todoOf (.worker n) := by
  have hpoint : t.pointOf n = s.notifyAll.pointOf n := by
    unfold pointOf
    rw [hworkers]
  show (t.pointOf n).bind WorkerPoint.todo = (s.pointOf n).bind WorkerPoint.todo
  rw [hpoint, pointOf_notifyAll]
  cases s.pointOf n with
  | none => rfl
  | some point => exact point.todo_notified

theorem quiet_controller {s t : Scheduler adapter} (hmutex : t.mutex = s.mutex)
    (hruntime : t.runtime = s.runtime)
    (hworkers : forall n, t.todoOf (.worker n) = s.todoOf (.worker n))
    (hbefore : s.controller.todo = none) (hafter : t.controller.todo = none) :
    CycleMove s t := by
  refine CycleMove.quiet hmutex hruntime ?_
  intro h
  cases h with
  | controller => exact hafter.trans hbefore.symm
  | worker n => exact hworkers n

theorem todoOf_spawnWorker (s : Scheduler adapter) (n : Nat) :
    s.spawnWorker.todoOf (.worker n) = s.todoOf (.worker n) := by
  show ((s.spawnWorker.workers[n]?).map Worker.point).bind WorkerPoint.todo =
    ((s.workers[n]?).map Worker.point).bind WorkerPoint.todo
  rw [getElem?_spawnWorker]
  split
  · rename_i hn
    rw [List.getElem?_eq_none (Nat.le_of_eq hn.symm)]
    rfl
  · rfl

theorem cycleMove_of_step {s t : Scheduler adapter} {l : SchedulerLabel}
    (hstep : SchedulerStep s l t) : CycleMove s t := by
  cases hstep with
  | called call hat =>
      exact quiet_controller rfl rfl (fun n => rfl) (by rw [hat]; rfl)
        (by cases call <;> rfl)
  | startAgain hat hrunning =>
      exact quiet_controller rfl rfl (fun n => rfl) (by rw [hat]; rfl) rfl
  | startFirst hat hrunning =>
      exact quiet_controller rfl rfl (fun n => rfl) (by rw [hat]; rfl) rfl
  | spawn hat =>
      exact quiet_controller rfl rfl s.todoOf_spawnWorker (by rw [hat]; rfl) rfl
  | assign n hat hthread =>
      exact quiet_controller rfl rfl (fun n => rfl) (by rw [hat]; rfl) rfl
  | assignOver n m hat hthread =>
      exact quiet_controller rfl rfl (fun n => rfl) (by rw [hat]; rfl) rfl
  | stopIdle last hat hrunning =>
      exact quiet_controller rfl rfl (fun n => rfl) (by rw [hat]; rfl) rfl
  | stopRunning last hat hrunning =>
      exact quiet_controller rfl rfl (fun n => rfl) (by rw [hat]; rfl) rfl
  | notify last hat =>
      exact quiet_controller rfl rfl (todoOf_notifyAll rfl) (by rw [hat]; rfl) rfl
  | joinNone last hat hthread =>
      exact quiet_controller rfl rfl (fun n => rfl) (by rw [hat]; rfl)
        (by cases last <;> rfl)
  | joinSome last n hat hthread =>
      exact quiet_controller rfl rfl (fun n => rfl) (by rw [hat]; rfl) rfl
  | joined last n hat hexited =>
      refine quiet_controller rfl rfl ?_ (by rw [hat]; rfl) (by cases last <;> rfl)
      intro m
      show ((s.release n).pointOf m).bind WorkerPoint.todo = _
      rw [pointOf_release]
      rfl
  | pollLock hat hfree =>
      exact CycleMove.lock .controller hfree rfl rfl (todoOf_controller rfl)
  | pollVisit key todo d hat =>
      exact CycleMove.visit .controller key todo d (by rw [todoOf, hat]; rfl) rfl rfl
        (todoOf_controller rfl)
  | pollUnlock hat =>
      exact CycleMove.unlock .controller (by rw [todoOf, hat]; rfl) rfl rfl
        (todoOf_controller rfl)
  | setInterval interval hat =>
      exact quiet_controller rfl rfl (todoOf_notifyAll rfl) (by rw [hat]; rfl) rfl
  | move n before after hat hmove =>
      refine CycleMove.quiet rfl rfl ?_
      intro h
      rw [todoOf_moveWorker hat rfl rfl]
      split
      · rename_i hn
        rw [hn, hmove.todo.2, todoOf, hat]
        exact hmove.todo.1.symm
      · rfl
  | lock n hat hfree =>
      exact CycleMove.lock (.worker n) hfree rfl rfl (todoOf_moveWorker hat rfl rfl)
  | visit n key todo d hat =>
      exact CycleMove.visit (.worker n) key todo d (by rw [todoOf, hat]; rfl) rfl rfl
        (todoOf_moveWorker hat rfl rfl)
  | unlock n hat =>
      exact CycleMove.unlock (.worker n) (by rw [todoOf, hat]; rfl) rfl rfl
        (todoOf_moveWorker hat rfl rfl)

/-!
# Whole cycles
-/

def afterCycles (start : Runtime adapter) (cycles : List (String -> device)) :
    Runtime adapter :=
  (Icp.runtime adapter).run (cycles.map cycleEvent) start

/-- The mutex is free between two cycles, or its holder is in the middle of one. -/
structure Cycling (start : Runtime adapter) (s : Scheduler adapter) : Prop where
  exclusive : forall h, s.todoOf h ≠ none -> s.mutex = some h
  free : s.mutex = none -> exists cycles, s.runtime = afterCycles start cycles
  held : forall h, s.mutex = some h -> exists cycles devices before todo,
    s.todoOf h = some todo ∧
      (afterCycles start cycles).manager.adapters.keys = before ++ todo ∧
      s.runtime = visitAll devices before (afterCycles start cycles)

theorem cycling_new (start : Runtime adapter) (interval : Int) :
    (new start interval).Cycling start where
  exclusive := by
    intro h hh
    cases h <;> exact absurd rfl hh
  free := fun _ => ⟨[], rfl⟩
  held := by
    intro h hh
    cases hh

theorem afterCycles_append (start : Runtime adapter)
    (cycles : List (String -> device)) (devices : String -> device) :
    afterCycles start (cycles ++ [devices]) =
      visitAll devices (afterCycles start cycles).manager.adapters.keys
        (afterCycles start cycles) := by
  rw [visitAll_keys]
  unfold afterCycles
  rw [List.map_append, Machine.run_append]
  rfl

theorem Cycling.lock [Inhabited device] {start : Runtime adapter}
    {s t : Scheduler adapter} (h : s.Cycling start) {holder : MutexHolder}
    (hfree : s.mutex = none) (hmutex : t.mutex = some holder)
    (hruntime : t.runtime = s.runtime)
    (htodo : forall k, t.todoOf k =
      if k = holder then some s.runtime.manager.adapters.keys else s.todoOf k) :
    t.Cycling start where
  exclusive := by
    intro k hk
    rw [htodo] at hk
    split at hk
    · rename_i heq
      rw [heq]
      exact hmutex
    · cases hfree.symm.trans (h.exclusive k hk)
  free := by
    intro hnone
    cases hmutex.symm.trans hnone
  held := by
    intro k hk
    rcases h.free hfree with ⟨cycles, hcycles⟩
    have hholder : k = holder := by
      rw [hmutex] at hk
      exact (Option.some.inj hk).symm
    refine ⟨cycles, fun _ => default, [], s.runtime.manager.adapters.keys, ?_, ?_,
      hruntime.trans hcycles⟩
    · rw [htodo, if_pos hholder]
    · rw [hcycles]
      rfl

theorem Cycling.visit {start : Runtime adapter} {s t : Scheduler adapter}
    (h : s.Cycling start) {holder : MutexHolder} {key : String}
    {todo : List String} {d : device} (hat : s.todoOf holder = some (key :: todo))
    (hmutex : t.mutex = s.mutex) (hruntime : t.runtime = visitNext d key s.runtime)
    (htodo : forall k, t.todoOf k = if k = holder then some todo else s.todoOf k) :
    t.Cycling start where
  exclusive := by
    intro k hk
    rw [hmutex]
    rw [htodo] at hk
    split at hk
    · rename_i heq
      rw [heq]
      exact h.exclusive holder (by simp [hat])
    · exact h.exclusive k hk
  free := by
    intro hnone
    cases (h.exclusive holder (by simp [hat])).symm.trans (hmutex.symm.trans hnone)
  held := by
    intro k hk
    have hholder := h.exclusive holder (by simp [hat])
    have hk' : k = holder := by
      rw [hmutex, hholder] at hk
      exact (Option.some.inj hk).symm
    rcases h.held holder hholder with ⟨cycles, devices, before, left, hleft, hkeys, hr⟩
    cases hat.symm.trans hleft
    have hnodup := (afterCycles start cycles).manager.adapters.nodupKeys
    change List.Nodup (afterCycles start cycles).manager.adapters.keys at hnodup
    rw [hkeys] at hnodup
    have hkey : key ∉ before := fun hmem =>
      (List.nodup_append.mp hnodup).2.2 key hmem key List.mem_cons_self rfl
    -- the devices of the earlier visits stay what they were
    refine ⟨cycles, Function.update devices key d, before ++ [key], todo, ?_, ?_, ?_⟩
    · rw [htodo, if_pos hk']
    · rw [hkeys, List.append_assoc]
      rfl
    · rw [visitAll_append, hruntime, hr]
      have hbefore : visitAll devices before (afterCycles start cycles) =
          visitAll (Function.update devices key d) before
            (afterCycles start cycles) := by
        apply visitAll_congr
        intro j hj
        rw [Function.update_of_ne]
        rintro rfl
        exact hkey hj
      rw [hbefore]
      show _ = visitNext (Function.update devices key d key) key _
      rw [Function.update_self]

theorem Cycling.unlock {start : Runtime adapter} {s t : Scheduler adapter}
    (h : s.Cycling start) {holder : MutexHolder} (hat : s.todoOf holder = some [])
    (hmutex : t.mutex = none) (hruntime : t.runtime = s.runtime)
    (htodo : forall k, t.todoOf k = if k = holder then none else s.todoOf k) :
    t.Cycling start where
  exclusive := by
    intro k hk
    rw [htodo] at hk
    split at hk
    · exact absurd rfl hk
    · rename_i hne
      have hholder := h.exclusive holder (by simp [hat])
      exact absurd (Option.some.inj ((h.exclusive k hk).symm.trans hholder)) hne
  free := by
    intro _
    have hholder := h.exclusive holder (by simp [hat])
    rcases h.held holder hholder with ⟨cycles, devices, before, left, hleft, hkeys, hr⟩
    cases hat.symm.trans hleft
    refine ⟨cycles ++ [devices], ?_⟩
    rw [hruntime, hr, afterCycles_append, hkeys, List.append_nil]
  held := by
    intro k hk
    cases hmutex.symm.trans hk

theorem Cycling.step [Inhabited device] {start : Runtime adapter}
    {s t : Scheduler adapter} {l : SchedulerLabel} (hstep : SchedulerStep s l t)
    (h : s.Cycling start) : t.Cycling start := by
  cases cycleMove_of_step hstep with
  | quiet hmutex hruntime htodo =>
      constructor
      · intro k hk
        rw [hmutex]
        exact h.exclusive k (by rw [← htodo]; exact hk)
      · intro hnone
        rw [hruntime]
        exact h.free (hmutex.symm.trans hnone)
      · intro k hk
        rw [hruntime, htodo]
        exact h.held k (hmutex.symm.trans hk)
  | lock holder hfree hmutex hruntime htodo =>
      exact h.lock hfree hmutex hruntime htodo
  | visit holder key todo d hat hmutex hruntime htodo =>
      exact h.visit hat hmutex hruntime htodo
  | unlock holder hat hmutex hruntime htodo =>
      exact h.unlock hat hmutex hruntime htodo

end Scheduler

theorem scheduler_cycles [Inhabited device] {start : Runtime adapter} {interval : Int}
    {ls : List SchedulerLabel} {s : Scheduler adapter}
    (hpath : Path SchedulerStep (Scheduler.new start interval) ls s)
    (hfree : s.mutex = none) :
    exists cycles : List (String -> device),
      s.runtime = (runtime adapter).run (cycles.map cycleEvent) start :=
  (hpath.invariant (fun _ _ _ => Scheduler.Cycling.step)
    (Scheduler.cycling_new start interval)).free hfree

end Icp
end VirtualFactory
