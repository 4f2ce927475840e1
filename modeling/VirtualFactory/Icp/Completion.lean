import VirtualFactory.Icp.Linearization
import VirtualFactory.Icp.SchedulerLifecycle

/-!
# Calls that return

No thread of a site is ever stuck: whatever the others are doing, a call that has begun
can be carried on to its return without any new call.
-/

namespace VirtualFactory
namespace Icp

open Foundation IndustrialAdapter

variable {adapter device stimulus : Type}
  [IndustrialAdapter adapter device stimulus]

/-- A step that is not the beginning of a call. -/
def SiteLabel.Onward : SiteLabel adapter stimulus -> Prop
  | called _ _ => False
  | scheduler (.called _) => False
  | _ => True

namespace Site

/-!
# The holder of the mutex
-/

/-- Whoever holds the mutex is inside it. -/
structure Held (s : Site adapter) : Prop where
  scheduler : forall h, s.scheduler.mutex = some h ->
    exists todo, s.scheduler.todoOf h = some todo
  client : forall n, s.holder = some n -> (s.clients n).holds = true

theorem held_new (runtime : Runtime adapter) (interval : Int) :
    (new runtime interval).Held where
  scheduler := by
    intro h hh
    cases hh
  client := by
    intro n hn
    cases hn

theorem Held.put {s : Site adapter} (h : s.Held) (d : Deployment adapter) :
    (s.put d).Held where
  scheduler := by
    intro k hk
    cases k <;> exact h.scheduler _ hk
  client := h.client

theorem Held.moveClient {s : Site adapter} (h : s.Held) {n : Nat}
    {point : ClientPoint adapter}
    (hpoint : (s.clients n).holds = true -> point.holds = true) :
    (s.moveClient n point).Held where
  scheduler := h.scheduler
  client := by
    intro m hm
    show (Function.update s.clients n point m).holds = true
    by_cases hmn : m = n
    · subst hmn
      rw [Function.update_self]
      exact hpoint (h.client m hm)
    · rw [Function.update_of_ne hmn]
      exact h.client m hm

theorem Held.schedule {s : Site adapter} (h : s.Held) (hs : s.Exclusive)
    {l : SchedulerLabel} {t : Scheduler adapter}
    (hstep : SchedulerStep s.scheduler l t) :
    ({ s with scheduler := t } : Site adapter).Held := by
  refine ⟨?_, h.client⟩
  intro k hk
  change t.mutex = some k at hk
  show exists todo, t.todoOf k = some todo
  cases Scheduler.cycleMove_of_step hstep with
  | quiet hmutex hruntime htodo =>
      rw [htodo]
      exact h.scheduler k (hmutex.symm.trans hk)
  | lock holder hunlocked hmutex hruntime htodo =>
      cases hmutex.symm.trans hk
      exact ⟨_, (htodo k).trans (if_pos rfl)⟩
  | visit holder key todo d hat hmutex hruntime htodo =>
      have hholder := hs.scheduler holder (by simp [hat])
      cases hholder.symm.trans (hmutex.symm.trans hk)
      exact ⟨todo, (htodo _).trans (if_pos rfl)⟩
  | unlock holder hat hmutex hruntime htodo => cases hmutex.symm.trans hk

theorem Held.step {s t : Site adapter} {l : SiteLabel adapter stimulus}
    (h : s.Held) (hs : s.Exclusive) (hstep : SiteStep s l t) : t.Held := by
  cases hstep with
  | scheduler hstep hfree hheld => exact h.schedule hs hstep
  | polled hstep hheld hfree => exact h.schedule hs hstep
  | called n call hat => exact h.moveClient (fun hholds => by rw [hat] at hholds; cases hholds)
  | refuse n hat => exact h.moveClient (fun hholds => by rw [hat] at hholds; cases hholds)
  | lock n call hat hcall hfree =>
      refine ⟨h.scheduler, ?_⟩
      intro m hm
      cases hm
      show ((s.moveClient n (.entered call)).clients n).holds = true
      rw [clients_moveClient_self]
      rfl
  | act n call devices hat hcall => exact (h.put _).moveClient (fun _ => rfl)
  | disconnectAll n hat => exact h.moveClient (fun _ => rfl)
  | disconnectNext n key todo d hat => exact (h.put _).moveClient (fun _ => rfl)
  | disconnected n hat => exact h.moveClient (fun _ => rfl)
  | rehash n newAdapter answer order hat => exact h.put _
  | unlock n call answer hat =>
      refine ⟨h.scheduler, ?_⟩
      intro m hm
      cases hm
  | leave n answer d hat =>
      exact (h.put _).moveClient (fun hholds => by
        change (s.clients n).holds = true at hholds
        rw [hat] at hholds
        cases hholds)
  | destroy n answer d hat =>
      exact (h.put _).moveClient (fun hholds => by
        change (s.clients n).holds = true at hholds
        rw [hat] at hholds
        cases hholds)
  | returned n answer hat => exact h.moveClient (fun hholds => by rw [hat] at hholds; cases hholds)
  | stimulate key st => exact h.put _
  | stimulateDoomed n st => exact h.put _

/-- What holds at every point of a site. -/
structure Ready (s : Site adapter) : Prop where
  exclusive : s.Exclusive
  held : s.Held
  sound : s.scheduler.Sound

theorem ready_new (runtime : Runtime adapter) (interval : Int) :
    (new runtime interval).Ready where
  exclusive := exclusive_new runtime interval
  held := held_new runtime interval
  sound := Scheduler.sound_new runtime interval

theorem Ready.step {s t : Site adapter} {l : SiteLabel adapter stimulus}
    (hstep : SiteStep s l t) (h : s.Ready) : t.Ready where
  exclusive := h.exclusive.step hstep
  held := h.held.step h.exclusive hstep
  sound := by
    have hsame : ({ s.scheduler with runtime := t.scheduler.runtime } :
        Scheduler adapter).Sound := ⟨h.sound.exited, h.sound.owned, h.sound.flag⟩
    cases hstep with
    | scheduler hstep hfree hheld => exact Scheduler.sound_step hstep h.sound
    | polled hstep hheld hfree => exact Scheduler.sound_step hstep h.sound
    | _ => exact hsame

/-!
# The mutex becomes free
-/

/-- What the holder of the mutex leaves alone: the clients that wait for it, and the
threads of the scheduler that are in no poll cycle. -/
structure Kept (s t : Site adapter) : Prop where
  clients : forall n, (s.clients n).holds = false -> t.clients n = s.clients n
  controller : s.scheduler.controller.todo = none ->
    t.scheduler.controller = s.scheduler.controller
  points : forall n point, s.scheduler.pointOf n = some point -> point.todo = none ->
    t.scheduler.pointOf n = some point
  running : t.scheduler.running = s.scheduler.running
  thread : t.scheduler.thread = s.scheduler.thread

theorem Kept.refl (s : Site adapter) : s.Kept s where
  clients := fun _ _ => rfl
  controller := fun _ => rfl
  points := fun _ _ h _ => h
  running := rfl
  thread := rfl

theorem Kept.trans {s t u : Site adapter} (h : s.Kept t) (h' : t.Kept u) : s.Kept u where
  clients := by
    intro n hn
    rw [h'.clients n (by rw [h.clients n hn]; exact hn), h.clients n hn]
  controller := by
    intro hn
    rw [h'.controller (by rw [h.controller hn]; exact hn), h.controller hn]
  points := fun n point hat hpoint =>
    h'.points n point (h.points n point hat hpoint) hpoint
  running := h'.running.trans h.running
  thread := h'.thread.trans h.thread

theorem kept_moveClient {s t : Site adapter} {n : Nat} {point : ClientPoint adapter}
    (hat : (s.clients n).holds = true)
    (hclients : t.clients = Function.update s.clients n point)
    (hscheduler : t.scheduler = { s.scheduler with runtime := t.scheduler.runtime }) :
    s.Kept t where
  clients := by
    intro m hm
    have hmn : m ≠ n := by
      rintro rfl
      rw [hat] at hm
      cases hm
    rw [hclients, Function.update_of_ne hmn]
  controller := fun _ => by rw [hscheduler]
  points := fun m point hm _ => by
    rw [hscheduler]
    exact hm
  running := by rw [hscheduler]
  thread := by rw [hscheduler]

theorem kept_controller {s : Site adapter} {t : Scheduler adapter} {todo : List String}
    (hat : s.scheduler.controller = .visiting todo)
    (hworkers : t.workers = s.scheduler.workers)
    (hrunning : t.running = s.scheduler.running)
    (hthread : t.thread = s.scheduler.thread) : s.Kept { s with scheduler := t } where
  clients := fun _ _ => rfl
  controller := by
    intro hnone
    rw [hat] at hnone
    cases hnone
  points := by
    intro n point hn _
    show (t.workers[n]?).map Worker.point = some point
    rw [hworkers]
    exact hn
  running := hrunning
  thread := hthread

theorem kept_worker {s : Site adapter} {t : Scheduler adapter} {n : Nat}
    {todo : List String} {point : WorkerPoint}
    (hat : s.scheduler.pointOf n = some (.visiting todo))
    (hworkers : t.workers = (s.scheduler.moveWorker n point).workers)
    (hcontroller : t.controller = s.scheduler.controller)
    (hrunning : t.running = s.scheduler.running)
    (hthread : t.thread = s.scheduler.thread) : s.Kept { s with scheduler := t } where
  clients := fun _ _ => rfl
  controller := fun _ => hcontroller
  points := by
    intro m before hm hbefore
    have hmn : n ≠ m := by
      rintro rfl
      cases hat.symm.trans hm
      cases hbefore
    show (t.workers[m]?).map Worker.point = some before
    rw [hworkers]
    have hmoved := s.scheduler.pointOf_moveWorker n point m
    rw [if_neg hmn, hm] at hmoved
    exact hmoved
  running := hrunning
  thread := hthread

abbrev Onwards (s : Site adapter) (goal : Site adapter -> Prop) : Prop :=
  Attains SiteStep SiteLabel.Onward s goal

theorem Ready.locked {s : Site adapter} (h : s.Ready) {k : MutexHolder}
    {todo : List String} (hat : s.scheduler.todoOf k = some todo) :
    s.scheduler.mutex ≠ none ∧ s.holder = none := by
  have hmutex := h.exclusive.scheduler k (by rw [hat]; exact Option.some_ne_none _)
  refine ⟨by rw [hmutex]; exact Option.some_ne_none _, ?_⟩
  rcases h.exclusive.apart with hnone | hnone
  · cases hnone.symm.trans hmutex
  · exact hnone

variable [Inhabited device]

theorem onwards_visiting {s : Site adapter} {todo : List String}
    (h : s.Ready) (hat : s.scheduler.controller = .visiting todo) :
    s.Onwards (fun t => t.Free ∧ s.Kept t ∧ t.scheduler.controller = .idle) := by
  induction todo generalizing s with
  | nil =>
      rcases h.locked (k := .controller) (by rw [Scheduler.todoOf, hat]; rfl) with
        ⟨hlocked, hholder⟩
      refine Attains.step (SiteStep.polled (SchedulerStep.pollUnlock hat) hlocked rfl)
        trivial ?_
      exact Attains.here ⟨⟨rfl, hholder⟩, kept_controller hat rfl rfl rfl, rfl⟩
  | cons key todo ih =>
      have hstep : SiteStep s (.scheduler .controller : SiteLabel adapter stimulus) _ :=
        SiteStep.scheduler (SchedulerStep.pollVisit key todo default hat)
          (fun hfree hheld => absurd hfree hheld) (fun hheld => hheld)
      refine Attains.step hstep trivial ((ih (h.step hstep) rfl).mono ?_)
      intro u hu
      refine ⟨hu.1, Kept.trans ?_ hu.2.1, hu.2.2⟩
      exact kept_controller hat rfl rfl rfl

theorem onwards_worker {s : Site adapter} {n : Nat} {todo : List String}
    (h : s.Ready) (hat : s.scheduler.pointOf n = some (.visiting todo)) :
    s.Onwards (fun t => t.Free ∧ s.Kept t ∧ t.scheduler.pointOf n = some .interval) := by
  induction todo generalizing s with
  | nil =>
      rcases h.locked (k := .worker n) (by rw [Scheduler.todoOf, hat]; rfl) with
        ⟨hlocked, hholder⟩
      refine Attains.step (SiteStep.polled (SchedulerStep.unlock n hat) hlocked rfl)
        trivial ?_
      refine Attains.here ⟨⟨rfl, hholder⟩, kept_worker hat rfl rfl rfl rfl, ?_⟩
      exact (s.scheduler.pointOf_moveWorker n .interval n).trans (by rw [if_pos rfl, hat]; rfl)
  | cons key todo ih =>
      have hstep : SiteStep s (.scheduler (.worker n) : SiteLabel adapter stimulus) _ :=
        SiteStep.scheduler (SchedulerStep.visit n key todo default hat)
          (fun hfree hheld => absurd hfree hheld) (fun hheld => hheld)
      have hnext : (s.scheduler.moveWorker n (.visiting todo)).pointOf n =
          some (.visiting todo) :=
        (s.scheduler.pointOf_moveWorker n (.visiting todo) n).trans
          (by rw [if_pos rfl, hat]; rfl)
      refine Attains.step hstep trivial ((ih (h.step hstep) hnext).mono ?_)
      intro u hu
      refine ⟨hu.1, Kept.trans ?_ hu.2.1, hu.2.2⟩
      exact kept_worker hat rfl rfl rfl rfl

omit [Inhabited device] in
theorem onwards_answered {s : Site adapter} {n : Nat} {call : ManagerCall adapter}
    {answer : ManagerAnswer} (h : s.Ready) (hat : s.clients n = .answered call answer) :
    s.Onwards (fun t => t.Free ∧ s.Kept t ∧ t.clients n = call.behind answer) := by
  have hholds := holds_of_at hat rfl
  have hholder := h.exclusive.client n hholds
  have hmutex : s.scheduler.mutex = none := by
    rcases h.exclusive.apart with hnone | hnone
    · exact hnone
    · cases hnone.symm.trans hholder
  refine Attains.step (SiteStep.unlock n call answer hat) trivial ?_
  exact Attains.here ⟨⟨hmutex, rfl⟩, kept_moveClient hholds rfl rfl,
    s.clients_moveClient_self n (call.behind answer)⟩

theorem onwards_disconnecting {s : Site adapter} {n : Nat} {todo : List String}
    (h : s.Ready) (hat : s.clients n = .disconnecting todo) :
    s.Onwards (fun t => t.Free ∧ s.Kept t ∧ t.clients n = .dropping .nothing) := by
  induction todo generalizing s with
  | nil =>
      have hstep : SiteStep s
          (.observed (.served n .disconnectAll .nothing) : SiteLabel adapter stimulus) _ :=
        SiteStep.disconnected n hat
      refine Attains.step hstep trivial
        ((onwards_answered (h.step hstep) (s.clients_moveClient_self n _)).mono ?_)
      intro u hu
      refine ⟨hu.1, Kept.trans ?_ hu.2.1, hu.2.2⟩
      exact kept_moveClient (holds_of_at hat rfl) rfl rfl
  | cons key todo ih =>
      have hstep : SiteStep s (.client n : SiteLabel adapter stimulus) _ :=
        SiteStep.disconnectNext n key todo default hat
      refine Attains.step hstep trivial
        ((ih (h.step hstep) (clients_moveClient_self _ n _)).mono ?_)
      intro u hu
      refine ⟨hu.1, Kept.trans ?_ hu.2.1, hu.2.2⟩
      exact kept_moveClient (holds_of_at hat rfl) rfl rfl

def Behind (point : ClientPoint adapter) : Prop :=
  exists answer, point = .leaving answer ∨ point = .dropping answer

theorem behind_behind (call : ManagerCall adapter) (answer : ManagerAnswer) :
    Behind (call.behind answer) := by
  cases call <;> first
    | exact ⟨answer, Or.inl rfl⟩
    | exact ⟨answer, Or.inr rfl⟩

theorem onwards_holds {s : Site adapter} {n : Nat} (h : s.Ready)
    (hat : (s.clients n).holds = true) :
    s.Onwards (fun t => t.Free ∧ s.Kept t ∧ Behind (t.clients n)) := by
  cases hpoint : s.clients n with
  | answered call answer =>
      exact (onwards_answered h hpoint).mono
        (fun u hu => ⟨hu.1, hu.2.1, hu.2.2 ▸ behind_behind call answer⟩)
  | disconnecting todo =>
      exact (onwards_disconnecting h hpoint).mono
        (fun u hu => ⟨hu.1, hu.2.1, ⟨.nothing, Or.inr hu.2.2⟩⟩)
  | entered call =>
      by_cases hcall : call = .disconnectAll
      · subst hcall
        have hstep : SiteStep s (.client n : SiteLabel adapter stimulus) _ :=
          SiteStep.disconnectAll n hpoint
        refine Attains.step hstep trivial
          ((onwards_disconnecting (h.step hstep) (s.clients_moveClient_self n _)).mono ?_)
        intro u hu
        refine ⟨hu.1, Kept.trans ?_ hu.2.1, ⟨.nothing, Or.inr hu.2.2⟩⟩
        exact kept_moveClient hat rfl rfl
      · have hstep : SiteStep s _ _ :=
          SiteStep.act n call (fun _ => (default : device)) hpoint hcall
        refine Attains.step hstep trivial
          ((onwards_answered (h.step hstep) (clients_moveClient_self _ n _)).mono ?_)
        intro u hu
        refine ⟨hu.1, Kept.trans ?_ hu.2.1, hu.2.2 ▸ behind_behind call _⟩
        exact kept_moveClient hat rfl rfl
  | _ =>
      rw [hpoint] at hat
      cases hat

/-- The mutex can always become free, and whoever waits for it still waits then. -/
theorem onwards_free {s : Site adapter} (h : s.Ready) :
    s.Onwards (fun t => t.Free ∧ s.Kept t) := by
  cases hmutex : s.scheduler.mutex with
  | some k =>
      rcases h.held.scheduler k hmutex with ⟨todo, htodo⟩
      cases k with
      | controller =>
          cases hat : s.scheduler.controller with
          | visiting left =>
              exact (onwards_visiting h hat).mono (fun u hu => ⟨hu.1, hu.2.1⟩)
          | _ =>
              rw [Scheduler.todoOf, hat] at htodo
              cases htodo
      | worker n =>
          cases hat : s.scheduler.pointOf n with
          | none =>
              rw [Scheduler.todoOf, hat] at htodo
              cases htodo
          | some point =>
              cases point with
              | visiting left =>
                  exact (onwards_worker h hat).mono (fun u hu => ⟨hu.1, hu.2.1⟩)
              | _ =>
                  rw [Scheduler.todoOf, hat] at htodo
                  cases htodo
  | none =>
      cases hholder : s.holder with
      | none => exact Attains.here ⟨⟨hmutex, hholder⟩, Kept.refl s⟩
      | some n =>
          exact (onwards_holds h (h.held.client n hholder)).mono
            (fun u hu => ⟨hu.1, hu.2.1⟩)

/-!
# The calls of the clients
-/

theorem onwards_behind {s : Site adapter} {n : Nat} (hat : Behind (s.clients n)) :
    s.Onwards (fun t => t.clients n = .idle) := by
  have hdropping : forall {u : Site adapter} {answer : ManagerAnswer},
      u.clients n = .dropping answer -> u.Onwards (fun t => t.clients n = .idle) := by
    intro u answer hu
    refine Attains.step (SiteStep.destroy n answer default hu) trivial ?_
    refine Attains.step (SiteStep.returned n answer (clients_moveClient_self _ n _))
      trivial ?_
    exact Attains.here (clients_moveClient_self _ n _)
  rcases hat with ⟨answer, hleaving | hdrop⟩
  · refine Attains.step (SiteStep.leave n answer default hleaving) trivial ?_
    exact hdropping (clients_moveClient_self _ n _)
  · exact hdropping hdrop

theorem onwards_client {s : Site adapter} (h : s.Ready) (n : Nat) :
    s.Onwards (fun t => t.clients n = .idle) := by
  have hbehind : forall {u : Site adapter}, u.Ready -> (u.clients n).holds = true ->
      u.Onwards (fun t => t.clients n = .idle) := by
    intro u hu hholds
    exact (onwards_holds hu hholds).bind (fun _ _ _ => Ready.step) hu
      (fun v _ hv => onwards_behind hv.2.2)
  cases hpoint : s.clients n with
  | idle => exact Attains.here hpoint
  | entered call => exact hbehind h (holds_of_at hpoint rfl)
  | disconnecting todo => exact hbehind h (holds_of_at hpoint rfl)
  | answered call answer => exact hbehind h (holds_of_at hpoint rfl)
  | leaving answer => exact onwards_behind ⟨answer, Or.inl hpoint⟩
  | dropping answer => exact onwards_behind ⟨answer, Or.inr hpoint⟩
  | returning answer =>
      refine Attains.step (SiteStep.returned n answer hpoint) trivial ?_
      exact Attains.here (clients_moveClient_self _ n _)
  | called call =>
      by_cases hcall : call = .addAdapter none
      · subst hcall
        refine Attains.step (SiteStep.refuse n hpoint) trivial ?_
        refine Attains.step (SiteStep.returned n _ (clients_moveClient_self _ n _))
          trivial ?_
        exact Attains.here (clients_moveClient_self _ n _)
      · -- the client waits for the mutex, which becomes free
        refine (onwards_free h).bind (fun _ _ _ => Ready.step) h ?_
        rintro u hu ⟨hfree, hkept⟩
        have hat : u.clients n = .called call := by
          rw [hkept.clients n (by rw [hpoint]; rfl), hpoint]
        have hstep : SiteStep u (.client n : SiteLabel adapter stimulus) _ :=
          SiteStep.lock n call hat hcall hfree
        refine Attains.step hstep trivial (hbehind (hu.step hstep) ?_)
        exact holds_of_at (u.clients_moveClient_self n (.entered call)) rfl

/-!
# The calls of the controlling thread
-/

def Rested (s : Site adapter) : Prop :=
  s.scheduler.controller = .idle ∨ s.scheduler.controller = .destroyed

omit [Inhabited device] in
theorem rested_stopped {s : Site adapter} {last : Bool}
    (h : s.scheduler.controller = Scheduler.stopped last) : s.Rested := by
  cases last with
  | false => exact Or.inl h
  | true => exact Or.inr h

omit [Inhabited device] in
theorem step_beside {s : Site adapter} {l : SchedulerLabel} {t : Scheduler adapter}
    (hstep : SchedulerStep s.scheduler l t) (hmutex : t.mutex = s.scheduler.mutex) :
    SiteStep s (.scheduler l : SiteLabel adapter stimulus) { s with scheduler := t } :=
  SiteStep.scheduler hstep (fun hfree hheld => absurd (hmutex.trans hfree) hheld)
    (fun hheld hfree => hheld (hmutex.symm.trans hfree))

/-- The controlling thread waits for a worker that has been told to stop. -/
structure Awaits (last : Bool) (n : Nat) (point : WorkerPoint) (s : Site adapter) :
    Prop where
  ready : s.Ready
  controller : s.scheduler.controller = .joinWait last n
  point : s.scheduler.pointOf n = some point

omit [Inhabited device] in
theorem Awaits.stopped {last : Bool} {n : Nat} {point : WorkerPoint} {s : Site adapter}
    (h : s.Awaits last n point) : s.scheduler.running = false := by
  have hflag := h.ready.sound.flag
  unfold Scheduler.FlagFits at hflag
  rw [h.controller] at hflag
  exact hflag.1

omit [Inhabited device] in
theorem Awaits.pointOf_moved {last : Bool} {n : Nat} {point after : WorkerPoint}
    {s : Site adapter} (h : s.Awaits last n point) :
    (s.scheduler.moveWorker n after).pointOf n = some after :=
  (s.scheduler.pointOf_moveWorker n after n).trans (by rw [if_pos rfl, h.point]; rfl)

omit [Inhabited device] in
theorem Awaits.onward {last : Bool} {n : Nat} {point after : WorkerPoint}
    {s : Site adapter} (h : s.Awaits last n point)
    (hmove : WorkerMove s.scheduler.running s.scheduler.interval point after)
    {goal : Site adapter -> Prop}
    (hnext : forall t : Site adapter, t.Awaits last n after -> t.Onwards goal) :
    s.Onwards goal := by
  have hstep : SiteStep s (.scheduler (.worker n) : SiteLabel adapter stimulus) _ :=
    step_beside (SchedulerStep.move n point after h.point hmove) rfl
  exact Attains.step hstep trivial
    (hnext _ ⟨h.ready.step hstep, h.controller, h.pointOf_moved⟩)

omit [Inhabited device] in
theorem Awaits.onward_exited {last : Bool} {n : Nat} {s : Site adapter}
    (h : s.Awaits last n .exited) : s.Onwards Rested := by
  refine Attains.step (step_beside (SchedulerStep.joined last n h.controller h.point) rfl)
    trivial ?_
  exact Attains.here (rested_stopped rfl)

omit [Inhabited device] in
theorem Awaits.onward_loopTest {last : Bool} {n : Nat} {s : Site adapter}
    (h : s.Awaits last n .loopTest) : s.Onwards Rested :=
  h.onward (.exit h.stopped) (fun _ ht => ht.onward_exited)

omit [Inhabited device] in
theorem Awaits.onward_predicate {last : Bool} {n : Nat} {wait : Int} {s : Site adapter}
    (h : s.Awaits last n (.predicate wait)) : s.Onwards Rested :=
  h.onward (.stopped wait h.stopped) (fun _ ht => ht.onward_loopTest)

omit [Inhabited device] in
theorem Awaits.onward_interval {last : Bool} {n : Nat} {s : Site adapter}
    (h : s.Awaits last n .interval) : s.Onwards Rested :=
  h.onward .readInterval (fun _ ht => ht.onward_predicate)

theorem Awaits.onward_visiting {last : Bool} {n : Nat} {todo : List String}
    {s : Site adapter} (h : s.Awaits last n (.visiting todo)) : s.Onwards Rested := by
  refine (onwards_worker h.ready h.point).bind (fun _ _ _ => Ready.step) h.ready ?_
  rintro u hu ⟨_, hkept, hpoint⟩
  have hcontroller : u.scheduler.controller = .joinWait last n :=
    (hkept.controller (by rw [h.controller]; rfl)).trans h.controller
  exact Awaits.onward_interval ⟨hu, hcontroller, hpoint⟩

/-- A stop returns when its worker has, which may have to wait for the mutex first. -/
theorem Awaits.rested {last : Bool} {n : Nat} {point : WorkerPoint} {s : Site adapter}
    (h : s.Awaits last n point) : s.Onwards Rested := by
  cases point with
  | exited => exact h.onward_exited
  | loopTest => exact h.onward_loopTest
  | predicate wait => exact h.onward_predicate
  | interval => exact h.onward_interval
  | visiting todo => exact h.onward_visiting
  | blocked wait => exact h.onward (.timeout wait) (fun _ ht => ht.onward_loopTest)
  | pollOnce =>
      refine (onwards_free h.ready).bind (fun _ _ _ => Ready.step) h.ready ?_
      rintro u hu ⟨hfree, hkept⟩
      have hcontroller : u.scheduler.controller = .joinWait last n :=
        (hkept.controller (by rw [h.controller]; rfl)).trans h.controller
      have hu' : u.Awaits last n .pollOnce :=
        ⟨hu, hcontroller, hkept.points n .pollOnce h.point rfl⟩
      have hstep : SiteStep u (.scheduler (.worker n) : SiteLabel adapter stimulus) _ :=
        SiteStep.scheduler (SchedulerStep.lock n hu'.point hfree.1)
          (fun _ _ => hfree.2) (fun hheld => absurd hfree.1 hheld)
      refine Attains.step hstep trivial ?_
      exact Awaits.onward_visiting ⟨hu.step hstep, hcontroller, hu'.pointOf_moved⟩

omit [Inhabited device] in
theorem Ready.point_of_thread {s : Site adapter} (h : s.Ready) {n : Nat}
    (hthread : s.scheduler.thread = some n) :
    exists point, s.scheduler.pointOf n = some point := by
  have hjoined : s.scheduler.joinedOf n = some false :=
    (h.sound.owned n).mpr (Or.inl hthread)
  rcases Option.map_eq_some_iff.mp hjoined with ⟨w, hw, _⟩
  refine ⟨w.point, ?_⟩
  unfold Scheduler.pointOf
  rw [hw]
  rfl

theorem onwards_join {last : Bool} {s : Site adapter} (h : s.Ready)
    (hat : s.scheduler.controller = .join last) : s.Onwards Rested := by
  cases hthread : s.scheduler.thread with
  | none =>
      refine Attains.step (step_beside (SchedulerStep.joinNone last hat hthread) rfl)
        trivial ?_
      exact Attains.here (rested_stopped rfl)
  | some n =>
      have hstep : SiteStep s (.scheduler .controller : SiteLabel adapter stimulus) _ :=
        step_beside (SchedulerStep.joinSome last n hat hthread) rfl
      rcases h.point_of_thread hthread with ⟨point, hpoint⟩
      exact Attains.step hstep trivial (Awaits.rested ⟨h.step hstep, rfl, hpoint⟩)

omit [Inhabited device] in
theorem onwards_assign {n : Nat} {s : Site adapter} (h : s.Ready)
    (hat : s.scheduler.controller = .assign n) : s.Onwards Rested := by
  refine Attains.step
    (step_beside (SchedulerStep.assign n hat (h.sound.handle.2.1 n hat)) rfl) trivial ?_
  exact Attains.here (Or.inl rfl)

omit [Inhabited device] in
theorem onwards_spawn {s : Site adapter} (h : s.Ready)
    (hat : s.scheduler.controller = .spawn) : s.Onwards Rested := by
  have hstep : SiteStep s (.scheduler .controller : SiteLabel adapter stimulus) _ :=
    step_beside (SchedulerStep.spawn hat) rfl
  exact Attains.step hstep trivial (onwards_assign (h.step hstep) rfl)

omit [Inhabited device] in
theorem onwards_start {s : Site adapter} (h : s.Ready)
    (hat : s.scheduler.controller = .start) : s.Onwards Rested := by
  cases hrunning : s.scheduler.running with
  | true =>
      refine Attains.step (step_beside (SchedulerStep.startAgain hat hrunning) rfl)
        trivial ?_
      exact Attains.here (Or.inl rfl)
  | false =>
      have hstep : SiteStep s (.scheduler .controller : SiteLabel adapter stimulus) _ :=
        step_beside (SchedulerStep.startFirst hat hrunning) rfl
      exact Attains.step hstep trivial (onwards_spawn (h.step hstep) rfl)

theorem onwards_notify {last : Bool} {s : Site adapter} (h : s.Ready)
    (hat : s.scheduler.controller = .notify last) : s.Onwards Rested := by
  have hstep : SiteStep s (.scheduler .controller : SiteLabel adapter stimulus) _ :=
    step_beside (SchedulerStep.notify last hat) rfl
  exact Attains.step hstep trivial (onwards_join (h.step hstep) rfl)

theorem onwards_stop {last : Bool} {s : Site adapter} (h : s.Ready)
    (hat : s.scheduler.controller = .stop last) : s.Onwards Rested := by
  cases hrunning : s.scheduler.running with
  | true =>
      have hstep : SiteStep s (.scheduler .controller : SiteLabel adapter stimulus) _ :=
        step_beside (SchedulerStep.stopRunning last hat hrunning) rfl
      exact Attains.step hstep trivial (onwards_notify (h.step hstep) rfl)
  | false =>
      have hstep : SiteStep s (.scheduler .controller : SiteLabel adapter stimulus) _ :=
        step_beside (SchedulerStep.stopIdle last hat hrunning) rfl
      exact Attains.step hstep trivial (onwards_join (h.step hstep) rfl)

theorem onwards_pollOnce {s : Site adapter} (h : s.Ready)
    (hat : s.scheduler.controller = .pollOnce) : s.Onwards Rested := by
  refine (onwards_free h).bind (fun _ _ _ => Ready.step) h ?_
  rintro u hu ⟨hfree, hkept⟩
  have hcontroller : u.scheduler.controller = .pollOnce :=
    (hkept.controller (by rw [hat]; rfl)).trans hat
  have hstep : SiteStep u (.scheduler .controller : SiteLabel adapter stimulus) _ :=
    SiteStep.scheduler (SchedulerStep.pollLock hcontroller hfree.1)
      (fun _ _ => hfree.2) (fun hheld => absurd hfree.1 hheld)
  exact Attains.step hstep trivial
    ((onwards_visiting (hu.step hstep) rfl).mono (fun v hv => Or.inl hv.2.2))

theorem onwards_controller {s : Site adapter} (h : s.Ready) : s.Onwards Rested := by
  cases hat : s.scheduler.controller with
  | idle => exact Attains.here (Or.inl hat)
  | destroyed => exact Attains.here (Or.inr hat)
  | terminated => exact absurd hat h.sound.handle.1
  | start => exact onwards_start h hat
  | spawn => exact onwards_spawn h hat
  | assign n => exact onwards_assign h hat
  | stop last => exact onwards_stop h hat
  | notify last => exact onwards_notify h hat
  | join last => exact onwards_join h hat
  | pollOnce => exact onwards_pollOnce h hat
  | visiting todo =>
      exact (onwards_visiting h hat).mono (fun v hv => Or.inl hv.2.2)
  | setInterval interval =>
      refine Attains.step (step_beside (SchedulerStep.setInterval interval hat) rfl)
        trivial ?_
      exact Attains.here (Or.inl rfl)
  | joinWait last n =>
      have hflag := h.sound.flag
      unfold Scheduler.FlagFits at hflag
      rw [hat] at hflag
      rcases h.point_of_thread hflag.2 with ⟨point, hpoint⟩
      exact Awaits.rested ⟨h, hat, hpoint⟩

end Site

theorem Site.ready_of_path {runtime : Runtime adapter} {interval : Int}
    {ls : List (SiteLabel adapter stimulus)} {s : Site adapter}
    (hpath : Path SiteStep (Site.new runtime interval) ls s) : s.Ready :=
  hpath.invariant (fun _ _ _ => Site.Ready.step) (Site.ready_new runtime interval)

/-- Nothing deadlocks: wherever the threads of a site have got to, every call of a
client, and the call of the controlling thread, can be carried on to its return without
any new call. -/
theorem calls_return [Inhabited device] {runtime : Runtime adapter} {interval : Int}
    {ls : List (SiteLabel adapter stimulus)} {s : Site adapter}
    (hpath : Path SiteStep (Site.new runtime interval) ls s) :
    (forall n, Attains SiteStep SiteLabel.Onward s (fun t => t.clients n = .idle)) ∧
      Attains SiteStep SiteLabel.Onward s
        (fun t => t.scheduler.controller = .idle ∨
          t.scheduler.controller = .destroyed) :=
  ⟨Site.onwards_client (Site.ready_of_path hpath),
    Site.onwards_controller (Site.ready_of_path hpath)⟩

def waitingForPoll : List (SiteLabel Adapter AdapterStimulus) :=
  [.scheduler (.called .pollOnce), .scheduler .controller,
    .called 1 (.connectAdapter "mock-a")]

theorem path_waitingForPoll :
    exists s : Site Adapter,
      Path SiteStep (Site.new Runtime.empty 100) waitingForPoll s ∧
        s.clients 1 = .called (.connectAdapter "mock-a") ∧
        s.scheduler.mutex = some .controller := by
  refine ⟨?last, ?_, ?_⟩
  case refine_1 =>
    refine Path.cons (SiteStep.scheduler (SchedulerStep.called .pollOnce rfl)
      (fun _ _ => rfl) (fun h => h)) ?_
    refine Path.cons (SiteStep.scheduler (SchedulerStep.pollLock rfl rfl)
      (fun _ _ => rfl) (fun h => absurd rfl h)) ?_
    refine Path.cons (SiteStep.called 1 _ rfl) ?_
    exact Path.nil _
  case refine_2 => exact ⟨rfl, rfl⟩

theorem calls_return_waiting :
    exists s : Site Adapter,
      (s.clients 1 = .called (.connectAdapter "mock-a") ∧
        s.scheduler.mutex = some .controller) ∧
      (forall n, Attains SiteStep SiteLabel.Onward s (fun t => t.clients n = .idle)) ∧
        Attains SiteStep SiteLabel.Onward s
          (fun t => t.scheduler.controller = .idle ∨
            t.scheduler.controller = .destroyed) := by
  rcases path_waitingForPoll with ⟨s, hpath, hat⟩
  have : Inhabited AdapterDevice := ⟨idleDevice⟩
  exact ⟨s, hat, calls_return hpath⟩

end Icp
end VirtualFactory
