import VirtualFactory.Icp.SchedulerThread
import VirtualFactory.Industrial.Mock

/-!
# Starting and stopping the scheduler

The flag, the handle and the workers fit together at every point of the controlling
thread, whatever the workers do in between.
-/

namespace VirtualFactory
namespace Icp

open Foundation IndustrialAdapter

variable {adapter device stimulus : Type}
  [IndustrialAdapter adapter device stimulus]

namespace Scheduler

/-- A worker that was started and not joined. -/
def Unjoined (s : Scheduler adapter) (n : Nat) : Prop :=
  s.joinedOf n = some false

def Alive (s : Scheduler adapter) (n : Nat) : Prop :=
  exists point, s.pointOf n = some point ∧ point ≠ .exited

/-- The worker the controlling thread answers for. -/
def Owned (s : Scheduler adapter) (n : Nat) : Prop :=
  s.thread = some n ∨ s.controller = .assign n

/-- How the flag and the handle fit the point of the controlling thread. -/
def FlagFits (s : Scheduler adapter) : Prop :=
  match s.controller with
  | .spawn => s.running = true ∧ s.thread = none
  | .assign _ => s.running = true ∧ s.thread = none
  | .notify _ => s.running = false
  | .join _ => s.running = false
  | .joinWait _ n => s.running = false ∧ s.thread = some n
  | .destroyed => s.running = false ∧ s.thread = none
  | .terminated => False
  | _ => s.running = s.thread.isSome

structure Sound (s : Scheduler adapter) : Prop where
  exited : forall n, s.joinedOf n = some true -> s.pointOf n = some .exited
  owned : forall n, s.Unjoined n <-> s.Owned n
  flag : s.FlagFits

theorem sound_new (runtime : Runtime adapter) (interval : Int) :
    (new runtime interval).Sound where
  exited := by
    intro n h
    cases h
  owned := by
    intro n
    constructor
    · intro h
      cases h
    · rintro (h | h)
      · cases h
      · cases h
  flag := rfl

theorem Sound.unjoined_of_point {s : Scheduler adapter} (h : s.Sound) {n : Nat}
    {point : WorkerPoint} (hat : s.pointOf n = some point)
    (hpoint : point ≠ .exited) : s.Unjoined n := by
  have hexited := h.exited n
  unfold Unjoined joinedOf
  unfold joinedOf at hexited
  unfold pointOf at hat hexited
  cases hw : s.workers[n]? with
  | none =>
      rw [hw] at hat
      cases hat
  | some w =>
      rw [hw] at hat hexited
      cases hjoined : w.joined with
      | false => simp [hjoined]
      | true =>
          have hpoints := hat.symm.trans (hexited (by simp [hjoined]))
          exact absurd (Option.some.inj hpoints) hpoint

theorem Sound.of_same {s t : Scheduler adapter} (h : s.Sound)
    (hjoined : forall n, t.joinedOf n = s.joinedOf n)
    (hexited : forall n, s.pointOf n = some .exited -> t.pointOf n = some .exited)
    (howned : forall n, t.Owned n <-> s.Owned n) (hflag : t.FlagFits) : t.Sound where
  exited := by
    intro n hn
    exact hexited n (h.exited n (by rw [← hjoined]; exact hn))
  owned := by
    intro n
    unfold Unjoined
    rw [hjoined, howned]
    exact h.owned n
  flag := hflag

theorem Sound.of_controller {s t : Scheduler adapter} (h : s.Sound)
    (hworkers : t.workers = s.workers) (hthread : t.thread = s.thread)
    (hbefore : forall n, s.controller ≠ .assign n)
    (hafter : forall n, t.controller ≠ .assign n) (hflag : t.FlagFits) : t.Sound := by
  have hjoined : forall n, t.joinedOf n = s.joinedOf n := by
    intro n
    unfold joinedOf
    rw [hworkers]
  have hpoint : forall n, t.pointOf n = s.pointOf n := by
    intro n
    unfold pointOf
    rw [hworkers]
  refine h.of_same hjoined (fun n hn => (hpoint n).trans hn) ?_ hflag
  intro n
  unfold Owned
  simp [hthread, hbefore, hafter]

theorem Sound.of_worker {s t : Scheduler adapter} (h : s.Sound) {n : Nat}
    {before after : WorkerPoint} (hat : s.pointOf n = some before)
    (hbefore : before ≠ .exited) (hworkers : t.workers = (s.moveWorker n after).workers)
    (hthread : t.thread = s.thread) (hcontroller : t.controller = s.controller)
    (hrunning : t.running = s.running) : t.Sound := by
  have hjoined : forall m, t.joinedOf m = s.joinedOf m := by
    intro m
    rw [← s.joinedOf_moveWorker n after m]
    unfold joinedOf
    rw [hworkers]
  have hexited : forall m, s.pointOf m = some .exited ->
      t.pointOf m = some .exited := by
    intro m hm
    have hne : n ≠ m := by
      rintro rfl
      exact hbefore (Option.some.inj (hat.symm.trans hm))
    have hmoved := s.pointOf_moveWorker n after m
    rw [if_neg hne, hm] at hmoved
    rw [← hmoved]
    unfold pointOf
    rw [hworkers]
  refine h.of_same hjoined hexited ?_ ?_
  · intro m
    unfold Owned
    rw [hthread, hcontroller]
  · have hflag := h.flag
    unfold FlagFits at hflag ⊢
    rw [hthread, hcontroller, hrunning]
    exact hflag

theorem Sound.of_notifyAll {s t : Scheduler adapter} (h : s.Sound)
    (hworkers : t.workers = s.notifyAll.workers) (hthread : t.thread = s.thread)
    (hbefore : forall n, s.controller ≠ .assign n)
    (hafter : forall n, t.controller ≠ .assign n) (hflag : t.FlagFits) : t.Sound := by
  have hjoined : forall n, t.joinedOf n = s.joinedOf n := by
    intro n
    rw [← s.joinedOf_notifyAll n]
    unfold joinedOf
    rw [hworkers]
  have hexited : forall n, s.pointOf n = some .exited ->
      t.pointOf n = some .exited := by
    intro n hn
    have hnotified := s.pointOf_notifyAll n
    rw [hn] at hnotified
    rw [show t.pointOf n = s.notifyAll.pointOf n by unfold pointOf; rw [hworkers]]
    exact hnotified
  refine h.of_same hjoined hexited ?_ hflag
  intro n
  unfold Owned
  simp [hthread, hbefore, hafter]

theorem Sound.spawn {s : Scheduler adapter} (h : s.Sound)
    (hat : s.controller = .spawn) :
    ({ s.spawnWorker with controller := .assign s.workers.length } :
      Scheduler adapter).Sound := by
  have hflag := h.flag
  unfold FlagFits at hflag
  rw [hat] at hflag
  refine ⟨?_, ?_, hflag⟩
  · intro n hn
    have hget := s.getElem?_spawnWorker n
    unfold joinedOf at hn
    unfold pointOf
    rw [hget] at hn ⊢
    split at hn
    · cases hn
    · rw [if_neg (by assumption)]
      exact h.exited n hn
  · intro n
    have hget := s.getElem?_spawnWorker n
    have hold := h.owned n
    unfold Unjoined Owned at hold ⊢
    unfold joinedOf at hold ⊢
    rw [hget]
    rw [hflag.2, hat] at hold
    by_cases hn : n = s.workers.length
    · simp [hn]
    · rw [if_neg hn]
      constructor
      · intro hunjoined
        rcases hold.mp hunjoined with hthread | hassign
        · cases hthread
        · cases hassign
      · rintro (hthread | hassign)
        · cases hflag.2.symm.trans hthread
        · cases hassign
          exact absurd rfl hn

theorem Sound.assign {s : Scheduler adapter} (h : s.Sound) {n : Nat}
    (hat : s.controller = .assign n) :
    ({ s with thread := some n, controller := .idle } : Scheduler adapter).Sound := by
  have hflag := h.flag
  unfold FlagFits at hflag
  rw [hat] at hflag
  refine ⟨h.exited, ?_, hflag.1⟩
  intro m
  refine (h.owned m).trans ?_
  unfold Owned
  rw [hat, hflag.2]
  constructor
  · rintro (hthread | hassign)
    · cases hthread
    · cases hassign
      exact Or.inl rfl
  · rintro (hthread | hidle)
    · cases hthread
      exact Or.inr rfl
    · cases hidle

theorem Sound.join {s : Scheduler adapter} (h : s.Sound) {last : Bool} {n : Nat}
    (hat : s.controller = .joinWait last n) (hexited : s.pointOf n = some .exited) :
    ({ s.release n with controller := stopped last } : Scheduler adapter).Sound := by
  have hflag := h.flag
  unfold FlagFits at hflag
  rw [hat] at hflag
  have hpoint := s.pointOf_release n
  have hjoined := s.joinedOf_release n
  refine ⟨?_, ?_, ?_⟩
  · intro m hm
    show (s.release n).pointOf m = _
    rw [hpoint]
    have hm' : (s.release n).joinedOf m = some true := hm
    rw [hjoined] at hm'
    split at hm'
    · rename_i hnm
      rw [← hnm]
      exact hexited
    · exact h.exited m hm'
  · intro m
    have hold := h.owned m
    unfold Unjoined Owned at hold ⊢
    rw [hat, hflag.2] at hold
    show (s.release n).joinedOf m = some false <-> _
    rw [hjoined]
    by_cases hnm : n = m
    · rw [if_pos hnm]
      constructor
      · intro hm
        cases hs : s.joinedOf m <;> simp [hs] at hm
      · rintro (hthread | hstopped)
        · cases hthread
        · cases last <;> cases hstopped
    · rw [if_neg hnm]
      constructor
      · intro hm
        rcases hold.mp hm with hthread | hassign
        · exact absurd (Option.some.inj hthread) hnm
        · cases hassign
      · rintro (hthread | hstopped)
        · cases hthread
        · cases last <;> cases hstopped
  · unfold FlagFits
    cases last
    · exact hflag.1
    · exact ⟨hflag.1, rfl⟩

/-!
# The invariant along a path
-/

theorem sound_step {s t : Scheduler adapter} {l : SchedulerLabel}
    (hstep : SchedulerStep s l t) (h : s.Sound) : t.Sound := by
  have hflag := h.flag
  unfold FlagFits at hflag
  cases hstep with
  | called call hat =>
      rw [hat] at hflag
      refine h.of_controller rfl rfl (by simp [hat]) ?_ ?_
      · intro n hn
        cases call <;> cases hn
      · unfold FlagFits
        cases call <;> exact hflag
  | startAgain hat hrunning =>
      rw [hat] at hflag
      exact h.of_controller rfl rfl (by simp [hat]) (by simp) hflag
  | startFirst hat hrunning =>
      rw [hat] at hflag
      have hthread : s.thread = none := by
        cases hs : s.thread with
        | none => rfl
        | some n => simp [hrunning, hs] at hflag
      exact h.of_controller rfl rfl (by simp [hat]) (by simp) ⟨rfl, hthread⟩
  | spawn hat => exact h.spawn hat
  | assign n hat hthread => exact h.assign hat
  | assignOver n m hat hthread =>
      rw [hat] at hflag
      cases hflag.2.symm.trans hthread
  | stopIdle last hat hrunning =>
      exact h.of_controller rfl rfl (by simp [hat]) (by simp) hrunning
  | stopRunning last hat hrunning =>
      exact h.of_controller rfl rfl (by simp [hat]) (by simp) rfl
  | notify last hat =>
      rw [hat] at hflag
      exact h.of_notifyAll rfl rfl (by simp [hat]) (by simp) hflag
  | joinNone last hat hthread =>
      rw [hat] at hflag
      refine h.of_controller rfl rfl (by simp [hat]) ?_ ?_
      · intro n hn
        cases last <;> cases hn
      · unfold FlagFits
        cases last
        · show s.running = s.thread.isSome
          rw [hflag, hthread]
          rfl
        · exact ⟨hflag, hthread⟩
  | joinSome last n hat hthread =>
      rw [hat] at hflag
      exact h.of_controller rfl rfl (by simp [hat]) (by simp) ⟨hflag, hthread⟩
  | joined last n hat hexited => exact h.join hat hexited
  | pollLock hat hfree =>
      rw [hat] at hflag
      exact h.of_controller rfl rfl (by simp [hat]) (by simp) hflag
  | pollVisit key todo d hat =>
      rw [hat] at hflag
      exact h.of_controller rfl rfl (by simp [hat]) (by simp) hflag
  | pollUnlock hat =>
      rw [hat] at hflag
      exact h.of_controller rfl rfl (by simp [hat]) (by simp) hflag
  | setInterval interval hat =>
      rw [hat] at hflag
      exact h.of_notifyAll rfl rfl (by simp [hat]) (by simp) hflag
  | move n before after hat hmove =>
      exact h.of_worker hat hmove.not_exited rfl rfl rfl rfl
  | lock n hat hfree => exact h.of_worker hat (by simp) rfl rfl rfl rfl
  | visit n key todo d hat => exact h.of_worker hat (by simp) rfl rfl rfl rfl
  | unlock n hat => exact h.of_worker hat (by simp) rfl rfl rfl rfl

theorem sound_of_path {runtime : Runtime adapter} {interval : Int}
    {ls : List SchedulerLabel} {s : Scheduler adapter}
    (h : Path SchedulerStep (new runtime interval) ls s) : s.Sound :=
  h.invariant (fun _ _ _ => sound_step) (sound_new runtime interval)

/-!
# After a stop
-/

/-- No start is under way, and none has come since the last stop. -/
structure Resting (s : Scheduler adapter) : Prop where
  running : s.running = false
  thread : s.thread = none
  start : s.controller ≠ .start
  spawn : s.controller ≠ .spawn
  assign : forall n, s.controller ≠ .assign n

theorem Resting.of_controller {s t : Scheduler adapter} (h : s.Resting)
    (hrunning : t.running = s.running) (hthread : t.thread = s.thread)
    (hstart : t.controller ≠ .start) (hspawn : t.controller ≠ .spawn)
    (hassign : forall n, t.controller ≠ .assign n) : t.Resting where
  running := hrunning.trans h.running
  thread := hthread.trans h.thread
  start := hstart
  spawn := hspawn
  assign := hassign

theorem resting_stopped {s : Scheduler adapter} (hrunning : s.running = false)
    (hthread : s.thread = none) (last : Bool) (hat : s.controller = stopped last) :
    s.Resting := by
  refine ⟨hrunning, hthread, ?_, ?_, ?_⟩
  · rw [hat]
    cases last <;> simp [stopped]
  · rw [hat]
    cases last <;> simp [stopped]
  · intro n
    rw [hat]
    cases last <;> simp [stopped]

theorem Sound.resting_of_returned {s t : Scheduler adapter} {l : SchedulerLabel}
    (h : s.Sound) (hstep : SchedulerStep s l t)
    (hl : l = .returned .stop ∨ l = .returned .destroy) : t.Resting := by
  have hflag := h.flag
  unfold FlagFits at hflag
  cases hstep with
  | joinNone last hat hthread =>
      rw [hat] at hflag
      exact resting_stopped hflag hthread last rfl
  | joined last n hat hexited =>
      rw [hat] at hflag
      exact resting_stopped hflag.1 rfl last rfl
  | _ => rcases hl with hl | hl <;> cases hl

/-- Every worker of a resting scheduler has exited. -/
theorem Resting.point_exited {s : Scheduler adapter} (h : s.Resting) (hs : s.Sound)
    {n : Nat} {point : WorkerPoint} (hat : s.pointOf n = some point) :
    point = .exited := by
  by_contra hpoint
  rcases (hs.owned n).mp (hs.unjoined_of_point hat hpoint) with hthread | hassign
  · cases h.thread.symm.trans hthread
  · exact h.assign n hassign

theorem Resting.step {s t : Scheduler adapter} {l : SchedulerLabel}
    (h : s.Resting) (hs : s.Sound) (hstep : SchedulerStep s l t)
    (hl : l ≠ .called .start) : t.Resting ∧ forall n, l ≠ .worker n := by
  cases hstep with
  | called call hat =>
      refine ⟨h.of_controller rfl rfl ?_ ?_ ?_, fun n => by simp⟩
      · cases call with
        | start => exact absurd rfl hl
        | stop => simp [entry]
        | pollOnce => simp [entry]
        | setInterval interval => simp [entry]
        | destroy => simp [entry]
      · cases call <;> simp [entry]
      · intro n
        cases call <;> simp [entry]
  | startAgain hat hrunning => exact absurd hat h.start
  | startFirst hat hrunning => exact absurd hat h.start
  | spawn hat => exact absurd hat h.spawn
  | assign n hat hthread => exact absurd hat (h.assign n)
  | assignOver n m hat hthread => exact absurd hat (h.assign n)
  | stopIdle last hat hrunning =>
      exact ⟨h.of_controller rfl rfl (by simp) (by simp) (by simp), by simp⟩
  | stopRunning last hat hrunning => cases h.running.symm.trans hrunning
  | notify last hat =>
      exact ⟨h.of_controller rfl rfl (by simp) (by simp) (by simp), by simp⟩
  | joinNone last hat hthread =>
      exact ⟨resting_stopped h.running h.thread last rfl, by simp⟩
  | joinSome last n hat hthread => cases h.thread.symm.trans hthread
  | joined last n hat hexited =>
      exact ⟨resting_stopped h.running rfl last rfl, by simp⟩
  | pollLock hat hfree =>
      exact ⟨h.of_controller rfl rfl (by simp) (by simp) (by simp), by simp⟩
  | pollVisit key todo d hat =>
      exact ⟨h.of_controller rfl rfl (by simp) (by simp) (by simp), by simp⟩
  | pollUnlock hat =>
      exact ⟨h.of_controller rfl rfl (by simp) (by simp) (by simp), by simp⟩
  | setInterval interval hat =>
      exact ⟨h.of_controller rfl rfl (by simp) (by simp) (by simp), by simp⟩
  | move n before after hat hmove =>
      exact absurd (h.point_exited hs hat) hmove.not_exited
  | lock n hat hfree => cases h.point_exited hs hat
  | visit n key todo d hat => cases h.point_exited hs hat
  | unlock n hat => cases h.point_exited hs hat

theorem Resting.path {s t : Scheduler adapter} {ls : List SchedulerLabel}
    (h : s.Resting) (hs : s.Sound) (hpath : Path SchedulerStep s ls t)
    (hls : SchedulerLabel.called .start ∉ ls) :
    forall n, SchedulerLabel.worker n ∉ ls := by
  induction hpath with
  | nil s =>
      intro n hmem
      cases hmem
  | cons hstep hrest ih =>
      intro n hmem
      have hhead : _ ≠ SchedulerLabel.called .start := fun heq =>
        hls (List.mem_cons.mpr (Or.inl heq.symm))
      rcases h.step hs hstep hhead with ⟨hresting, hworker⟩
      rcases List.mem_cons.mp hmem with heq | htail
      · exact hworker n heq.symm
      · exact ih hresting (sound_step hstep hs)
          (fun hstart => hls (List.mem_cons_of_mem _ hstart)) n htail

/-!
# The lifecycle
-/

/-- No start assigns a new thread over one that can be joined, and no destroyed
scheduler leaves one behind. -/
theorem Sound.handle {s : Scheduler adapter} (h : s.Sound) :
    s.controller ≠ .terminated ∧
      (forall n, s.controller = .assign n -> s.thread = none) ∧
      (s.controller = .destroyed -> s.thread = none) := by
  have hflag := h.flag
  unfold FlagFits at hflag
  refine ⟨?_, ?_, ?_⟩
  · intro hat
    rw [hat] at hflag
    exact hflag
  · intro n hat
    rw [hat] at hflag
    exact hflag.2
  · intro hat
    rw [hat] at hflag
    exact hflag.2

theorem Sound.unjoined_unique {s : Scheduler adapter} (h : s.Sound) {n m : Nat}
    (hn : s.Unjoined n) (hm : s.Unjoined m) : n = m := by
  have hassign := h.handle.2.1
  rcases (h.owned n).mp hn with hthread | hat
  · rcases (h.owned m).mp hm with hother | hother
    · exact Option.some.inj (hthread.symm.trans hother)
    · cases (hassign m hother).symm.trans hthread
  · rcases (h.owned m).mp hm with hother | hother
    · cases (hassign n hat).symm.trans hother
    · cases hat.symm.trans hother
      rfl

theorem Sound.unjoined_of_alive {s : Scheduler adapter} (h : s.Sound) {n : Nat}
    (hn : s.Alive n) : s.Unjoined n := by
  rcases hn with ⟨point, hat, hpoint⟩
  exact h.unjoined_of_point hat hpoint

theorem Sound.running_iff {s : Scheduler adapter} (h : s.Sound)
    (hat : s.controller = .idle) :
    s.running = true <-> exists n, s.Unjoined n := by
  have hflag := h.flag
  unfold FlagFits at hflag
  rw [hat] at hflag
  have howned : forall n, s.Unjoined n <-> s.thread = some n := by
    intro n
    refine (h.owned n).trans ?_
    unfold Owned
    simp [hat]
  rw [hflag, Option.isSome_iff_exists]
  constructor
  · rintro ⟨n, hn⟩
    exact ⟨n, (howned n).mpr hn⟩
  · rintro ⟨n, hn⟩
    exact ⟨n, (howned n).mp hn⟩

end Scheduler

/-- Whatever one controlling thread calls and however the workers run in between: no
thread is lost, there is one worker at most, the flag tells whether there is one, and
none takes a step between a stop and the next start. -/
theorem scheduler_lifecycle {runtime : Runtime adapter} {interval : Int}
    {ls : List SchedulerLabel} {s : Scheduler adapter}
    (hpath : Path SchedulerStep (Scheduler.new runtime interval) ls s) :
    (s.controller ≠ .terminated ∧
      (forall n, s.controller = .assign n -> s.thread = none) ∧
      (s.controller = .destroyed -> s.thread = none)) ∧
    (forall n m, s.Unjoined n ∨ s.Alive n -> s.Unjoined m ∨ s.Alive m -> n = m) ∧
    (s.controller = .idle -> (s.running = true <-> exists n, s.Unjoined n)) ∧
    (forall before l after, ls = before ++ l :: after ->
      l = .returned .stop ∨ l = .returned .destroy ->
      SchedulerLabel.called .start ∉ after ->
      forall n, SchedulerLabel.worker n ∉ after) := by
  have hsound := Scheduler.sound_of_path hpath
  refine ⟨hsound.handle, ?_, hsound.running_iff, ?_⟩
  · intro n m hn hm
    have hunjoined : forall k, s.Unjoined k ∨ s.Alive k -> s.Unjoined k :=
      fun k hk => hk.elim id hsound.unjoined_of_alive
    exact hsound.unjoined_unique (hunjoined n hn) (hunjoined m hm)
  · intro before l after hls hl hstart
    rw [hls] at hpath
    rcases hpath.of_append with ⟨u, hbefore, hrest⟩
    cases hrest with
    | cons hstep htail =>
        have hu := Scheduler.sound_of_path hbefore
        exact (hu.resting_of_returned hstep hl).path
          (Scheduler.sound_step hstep hu) htail hstart

/-!
# A stop in the middle of a poll
-/

def pumpRuntime : Runtime MockIndustrialAdapter where
  manager :=
    { adapters :=
        { entries :=
            [("mock-a",
              ((MockIndustrialAdapter.new "mock-a").addDevice "PUMP-001"
                "Pump").connect.2)]
          nodupKeys := by decide }
      keyed := by
        intro e he
        rw [List.mem_singleton.mp he]
        rfl }
  cache := LiveStateCache.empty
  clientIds := {}

def stopWhilePolling : List SchedulerLabel :=
  [.called .start, .controller, .controller, .returned .start, .worker 0, .worker 0,
    .called .stop, .controller, .worker 0, .controller, .controller, .worker 0,
    .worker 0, .worker 0, .worker 0, .returned .stop]

/-- The worker has finished its visit and has exited before the stop returns. -/
def stoppedWhilePolling : Scheduler MockIndustrialAdapter where
  runtime := visitNext () "mock-a" pumpRuntime
  interval := 100
  workers := [⟨.exited, true⟩]

theorem path_stopWhilePolling :
    Path SchedulerStep (Scheduler.new pumpRuntime 100) stopWhilePolling
      stoppedWhilePolling := by
  refine Path.cons (SchedulerStep.called .start rfl) ?_
  refine Path.cons (SchedulerStep.startFirst rfl rfl) ?_
  refine Path.cons (SchedulerStep.spawn rfl) ?_
  refine Path.cons (SchedulerStep.assign 0 rfl rfl) ?_
  refine Path.cons (SchedulerStep.move 0 _ _ rfl (.enter rfl)) ?_
  refine Path.cons (SchedulerStep.lock 0 rfl rfl) ?_
  refine Path.cons (SchedulerStep.called .stop rfl) ?_
  refine Path.cons (SchedulerStep.stopRunning false rfl rfl) ?_
  refine Path.cons (SchedulerStep.visit 0 "mock-a" [] () rfl) ?_
  refine Path.cons (SchedulerStep.notify false rfl) ?_
  refine Path.cons (SchedulerStep.joinSome false 0 rfl rfl) ?_
  refine Path.cons (SchedulerStep.unlock 0 rfl) ?_
  refine Path.cons (SchedulerStep.move 0 _ _ rfl .readInterval) ?_
  refine Path.cons (SchedulerStep.move 0 _ _ rfl (.stopped 100 rfl)) ?_
  refine Path.cons (SchedulerStep.move 0 _ _ rfl (.exit rfl)) ?_
  refine Path.cons (SchedulerStep.joined false 0 rfl rfl) ?_
  exact Path.nil stoppedWhilePolling

theorem scheduler_lifecycle_stopWhilePolling :
    (stoppedWhilePolling.running = true <->
      exists n, stoppedWhilePolling.Unjoined n) ∧
    (forall before l after, stopWhilePolling = before ++ l :: after ->
      l = .returned .stop ∨ l = .returned .destroy ->
      SchedulerLabel.called .start ∉ after ->
      forall n, SchedulerLabel.worker n ∉ after) :=
  ⟨(scheduler_lifecycle path_stopWhilePolling).2.2.1 rfl,
    (scheduler_lifecycle path_stopWhilePolling).2.2.2⟩

end Icp
end VirtualFactory
