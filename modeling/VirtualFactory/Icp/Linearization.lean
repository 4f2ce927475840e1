import VirtualFactory.Icp.AdapterFactory
import VirtualFactory.Icp.ClientThreads

/-!
# Calls one after the other

However the threads of a site interleave, the site is where the same calls, poll cycles,
messages and clean-ups lead one after the other.  The calls come in the order in which
they were served, with the answers their clients got.
-/

namespace VirtualFactory
namespace Icp

open Foundation IndustrialAdapter

variable {adapter device stimulus : Type}
  [IndustrialAdapter adapter device stimulus]

/-!
# The mutex
-/

namespace Site

/-- Whoever is inside the mutex holds it, and it has one holder. -/
structure Exclusive (s : Site adapter) : Prop where
  scheduler : forall h, s.scheduler.todoOf h ≠ none -> s.scheduler.mutex = some h
  client : forall n, (s.clients n).holds = true -> s.holder = some n
  apart : s.scheduler.mutex = none ∨ s.holder = none

theorem exclusive_new (runtime : Runtime adapter) (interval : Int) :
    (new runtime interval).Exclusive where
  scheduler := by
    intro h hh
    cases h <;> exact absurd rfl hh
  client := by
    intro n hn
    cases hn
  apart := Or.inl rfl

theorem Exclusive.put {s : Site adapter} (h : s.Exclusive) (d : Deployment adapter) :
    (s.put d).Exclusive where
  scheduler := by
    intro k hk
    cases k <;> exact h.scheduler _ hk
  client := h.client
  apart := h.apart

theorem Exclusive.moveClient {s : Site adapter} (h : s.Exclusive) {n : Nat}
    {point : ClientPoint adapter}
    (hpoint : point.holds = true -> (s.clients n).holds = true) :
    (s.moveClient n point).Exclusive where
  scheduler := h.scheduler
  client := by
    intro m hm
    by_cases hmn : m = n
    · subst hmn
      change (Function.update s.clients m point m).holds = true at hm
      rw [Function.update_self] at hm
      exact h.client m (hpoint hm)
    · change (Function.update s.clients n point m).holds = true at hm
      rw [Function.update_of_ne hmn] at hm
      exact h.client m hm
  apart := h.apart

theorem Exclusive.lock {s : Site adapter} (h : s.Exclusive) (hfree : s.Free) (n : Nat)
    (point : ClientPoint adapter) :
    ({ s.moveClient n point with holder := some n } : Site adapter).Exclusive where
  scheduler := h.scheduler
  client := by
    intro m hm
    by_cases hmn : m = n
    · rw [hmn]
    · change (Function.update s.clients n point m).holds = true at hm
      rw [Function.update_of_ne hmn] at hm
      cases hfree.2.symm.trans (h.client m hm)
  apart := Or.inl hfree.1

theorem Exclusive.unlock {s : Site adapter} (h : s.Exclusive) {n : Nat}
    {point : ClientPoint adapter} (hat : (s.clients n).holds = true)
    (hpoint : point.holds = false) :
    ({ s.moveClient n point with holder := none } : Site adapter).Exclusive where
  scheduler := h.scheduler
  client := by
    intro m hm
    by_cases hmn : m = n
    · subst hmn
      change (Function.update s.clients m point m).holds = true at hm
      rw [Function.update_self, hpoint] at hm
      cases hm
    · change (Function.update s.clients n point m).holds = true at hm
      rw [Function.update_of_ne hmn] at hm
      have hholder := (h.client n hat).symm.trans (h.client m hm)
      exact absurd (Option.some.inj hholder).symm hmn
  apart := Or.inr rfl

theorem Exclusive.schedule {s : Site adapter} (h : s.Exclusive) {l : SchedulerLabel}
    {t : Scheduler adapter} (hstep : SchedulerStep s.scheduler l t)
    (hfree : s.scheduler.mutex = none -> t.mutex ≠ none -> s.holder = none) :
    ({ s with scheduler := t } : Site adapter).Exclusive := by
  cases Scheduler.cycleMove_of_step hstep with
  | quiet hmutex hruntime htodo =>
      refine ⟨?_, h.client, ?_⟩
      · intro k hk
        exact hmutex.trans (h.scheduler k (by rw [← htodo]; exact hk))
      · exact h.apart.imp_left hmutex.trans
  | lock holder hunlocked hmutex hruntime htodo =>
      refine ⟨?_, h.client, Or.inr (hfree hunlocked (by rw [hmutex]; simp))⟩
      intro k hk
      change t.todoOf k ≠ none at hk
      rw [htodo] at hk
      split at hk
      · rename_i heq
        rw [heq]
        exact hmutex
      · cases hunlocked.symm.trans (h.scheduler k hk)
  | visit holder key todo d hat hmutex hruntime htodo =>
      refine ⟨?_, h.client, h.apart.imp_left hmutex.trans⟩
      intro k hk
      change t.todoOf k ≠ none at hk
      rw [htodo] at hk
      show t.mutex = some k
      rw [hmutex]
      split at hk
      · rename_i heq
        rw [heq]
        exact h.scheduler holder (by simp [hat])
      · exact h.scheduler k hk
  | unlock holder hat hmutex hruntime htodo =>
      refine ⟨?_, h.client, Or.inl hmutex⟩
      intro k hk
      change t.todoOf k ≠ none at hk
      rw [htodo] at hk
      split at hk
      · exact absurd rfl hk
      · rename_i hne
        have hholder := h.scheduler holder (by simp [hat])
        exact absurd (Option.some.inj ((h.scheduler k hk).symm.trans hholder)) hne

theorem holds_of_at {s : Site adapter} {n : Nat} {point : ClientPoint adapter}
    (h : s.clients n = point) (hpoint : point.holds = true) :
    (s.clients n).holds = true := by
  rw [h]
  exact hpoint

theorem Exclusive.step {s t : Site adapter} {l : SiteLabel adapter stimulus}
    (h : s.Exclusive) (hstep : SiteStep s l t) : t.Exclusive := by
  cases hstep with
  | scheduler hstep hfree hheld => exact h.schedule hstep hfree
  | polled hstep hheld hfree =>
      exact h.schedule hstep (fun hnone => absurd hnone hheld)
  | called n call hat => exact h.moveClient (fun hholds => by cases hholds)
  | refuse n hat => exact h.moveClient (fun hholds => by cases hholds)
  | lock n call hat hcall hfree => exact h.lock hfree n (.entered call)
  | act n call devices hat hcall =>
      exact (h.put _).moveClient (fun _ => holds_of_at hat rfl)
  | disconnectAll n hat => exact h.moveClient (fun _ => holds_of_at hat rfl)
  | disconnectNext n key todo d hat =>
      exact (h.put _).moveClient (fun _ => holds_of_at hat rfl)
  | disconnected n hat => exact h.moveClient (fun _ => holds_of_at hat rfl)
  | rehash n newAdapter answer order hat => exact h.put _
  | unlock n call answer hat =>
      exact h.unlock (holds_of_at hat rfl) (by cases call <;> rfl)
  | leave n answer d hat => exact (h.put _).moveClient (fun hholds => by cases hholds)
  | destroy n answer d hat => exact (h.put _).moveClient (fun hholds => by cases hholds)
  | returned n answer hat => exact h.moveClient (fun hholds => by cases hholds)
  | stimulate key st => exact h.put _
  | stimulateDoomed n st => exact h.put _

end Site

/-!
# The loop in progress
-/

namespace Site

/-- The loop of the manager that a thread is in, with the adapters it has still to
visit. -/
def sweeping (s : Site adapter) : Option (Sweep × List String) :=
  match s.scheduler.mutex, s.holder with
  | some h, _ => (s.scheduler.todoOf h).map (fun todo => (.pollOnce, todo))
  | none, some n => (s.clients n).todo.map (fun todo => (.disconnectAll, todo))
  | none, none => none

theorem sweeping_of_free {s : Site adapter} (h : s.Free) : s.sweeping = none := by
  unfold sweeping
  rw [h.1, h.2]

theorem sweeping_of_scheduler {s : Site adapter} {h : MutexHolder}
    (hmutex : s.scheduler.mutex = some h) :
    s.sweeping = (s.scheduler.todoOf h).map (fun todo => (.pollOnce, todo)) := by
  unfold sweeping
  rw [hmutex]

theorem Exclusive.sweeping_of_client {s : Site adapter} (h : s.Exclusive) {n : Nat}
    (hn : (s.clients n).holds = true) :
    s.sweeping = (s.clients n).todo.map (fun todo => (.disconnectAll, todo)) := by
  have hholder := h.client n hn
  have hmutex : s.scheduler.mutex = none := by
    rcases h.apart with hmutex | hnone
    · exact hmutex
    · cases hnone.symm.trans hholder
  unfold sweeping
  rw [hmutex, hholder]

@[simp] theorem sweeping_put (s : Site adapter) (d : Deployment adapter) :
    (s.put d).sweeping = s.sweeping := by
  have htodo : forall k, (s.put d).scheduler.todoOf k = s.scheduler.todoOf k := by
    intro k
    cases k <;> rfl
  unfold sweeping
  simp only [htodo]
  rfl

theorem sweeping_moveClient (s : Site adapter) {n : Nat} {point : ClientPoint adapter}
    (hbefore : (s.clients n).todo = none) (hafter : point.todo = none) :
    (s.moveClient n point).sweeping = s.sweeping := by
  have htodo : forall m, ((s.moveClient n point).clients m).todo = (s.clients m).todo := by
    intro m
    show (Function.update s.clients n point m).todo = _
    by_cases hmn : m = n
    · rw [hmn, Function.update_self, hbefore, hafter]
    · rw [Function.update_of_ne hmn]
  unfold sweeping
  simp only [htodo]
  rfl

/-- What a step does to the deployment and to the loop in progress. -/
inductive Move (s t : Site adapter) (seen : Option (Observation adapter stimulus)) :
    Prop
  | quiet (hdeployment : t.deployment = s.deployment)
      (hsweeping : t.sweeping = s.sweeping) (hseen : seen = none)
  | enter (w : Sweep) (hat : s.sweeping = none) (hdeployment : t.deployment = s.deployment)
      (hsweeping : t.sweeping = some (w, s.deployment.runtime.manager.adapters.keys))
      (hseen : seen = none)
  | visit (w : Sweep) (key : String) (todo : List String) (d : device)
      (hat : s.sweeping = some (w, key :: todo))
      (hdeployment : t.deployment = s.deployment.next w key d)
      (hsweeping : t.sweeping = some (w, todo)) (hseen : seen = none)
  | finish (w : Sweep)
      (event : (String -> device) -> DeploymentEvent adapter device stimulus)
      (hat : s.sweeping = some (w, [])) (hdeployment : t.deployment = s.deployment)
      (hsweeping : t.sweeping = none)
      (o : Observation adapter stimulus) (hseen : seen = some o) (habout : o.about = none)
      (hevent : forall devices d, Deployment.step (event devices) d =
        (o, { d with runtime := w.whole devices d.runtime }))
  | event (e : DeploymentEvent adapter device stimulus) (hat : s.sweeping = none)
      (hsweeping : t.sweeping = none) (o : Observation adapter stimulus)
      (hseen : seen = some o)
      (hresult : Deployment.step e s.deployment = (o, t.deployment))
  | outside (x : OutsideAction device stimulus) (hsweeping : t.sweeping = s.sweeping)
      (hdeployment : t.deployment = s.deployment.perform x)
      (hseen : seen = some (Deployment.observed x))

theorem Exclusive.move_schedule {s : Site adapter} (h : s.Exclusive)
    {l : SchedulerLabel} {t : Scheduler adapter}
    (hstep : SchedulerStep s.scheduler l t)
    (hfree : s.scheduler.mutex = none -> t.mutex ≠ none -> s.holder = none) :
    Move s { s with scheduler := t }
      (if s.scheduler.mutex ≠ none ∧ t.mutex = none then some .polled else none) := by
  have hheld : forall {k : MutexHolder} {todo : List String},
      s.scheduler.todoOf k = some todo ->
        s.scheduler.mutex = some k ∧ s.holder = none ∧
          s.sweeping = some (.pollOnce, todo) := by
    intro k todo htodo
    have hmutex := h.scheduler k (by simp [htodo])
    refine ⟨hmutex, ?_, ?_⟩
    · rcases h.apart with hnone | hnone
      · cases hnone.symm.trans hmutex
      · exact hnone
    · rw [sweeping_of_scheduler hmutex, htodo]
      rfl
  cases Scheduler.cycleMove_of_step hstep with
  | quiet hmutex hruntime htodo =>
      refine Move.quiet ?_ ?_ (if_neg (fun hboth => hboth.1 (hmutex.symm.trans hboth.2)))
      · show (⟨t.runtime, s.doomed⟩ : Deployment adapter) = ⟨s.scheduler.runtime, s.doomed⟩
        rw [hruntime]
      · unfold sweeping
        simp only [hmutex, htodo]
  | lock holder hunlocked hmutex hruntime htodo =>
      have hnone := hfree hunlocked (by rw [hmutex]; simp)
      refine Move.enter .pollOnce (sweeping_of_free ⟨hunlocked, hnone⟩) ?_ ?_
        (if_neg (fun hboth => hboth.1 hunlocked))
      · show (⟨t.runtime, s.doomed⟩ : Deployment adapter) = ⟨s.scheduler.runtime, s.doomed⟩
        rw [hruntime]
      · refine (sweeping_of_scheduler hmutex).trans ?_
        show (t.todoOf holder).map _ = _
        rw [htodo, if_pos rfl]
        rfl
  | visit holder key todo d hat hmutex hruntime htodo =>
      rcases hheld hat with ⟨hlocked, _, hsweeping⟩
      refine Move.visit .pollOnce key todo d hsweeping ?_ ?_
        (if_neg (fun hboth => hboth.1 (hmutex.symm.trans hboth.2)))
      · show (⟨t.runtime, s.doomed⟩ : Deployment adapter) = _
        rw [hruntime]
        rfl
      · refine (sweeping_of_scheduler (hmutex.trans hlocked)).trans ?_
        show (t.todoOf holder).map _ = _
        rw [htodo, if_pos rfl]
        rfl
  | unlock holder hat hmutex hruntime htodo =>
      rcases hheld hat with ⟨hlocked, hnone, hsweeping⟩
      have hseen : s.scheduler.mutex ≠ none ∧ t.mutex = none :=
        ⟨by rw [hlocked]; simp, hmutex⟩
      refine Move.finish .pollOnce .pollOnce hsweeping ?_
        (sweeping_of_free ⟨hmutex, hnone⟩) .polled (if_pos hseen) rfl (fun devices d => rfl)
      show (⟨t.runtime, s.doomed⟩ : Deployment adapter) = ⟨s.scheduler.runtime, s.doomed⟩
      rw [hruntime]

theorem todo_of_at {s : Site adapter} {n : Nat} {point : ClientPoint adapter}
    (h : s.clients n = point) (hpoint : point.todo = none) :
    (s.clients n).todo = none := by
  rw [h]
  exact hpoint

theorem Exclusive.sweeping_of_at {s : Site adapter} (h : s.Exclusive) {n : Nat}
    {point : ClientPoint adapter} (hat : s.clients n = point)
    (hpoint : point.holds = true) :
    s.sweeping = point.todo.map (fun todo => (.disconnectAll, todo)) := by
  rw [h.sweeping_of_client (holds_of_at hat hpoint), hat]

theorem Exclusive.sweeping_moved {s : Site adapter} (h : s.Exclusive) {n : Nat}
    {point : ClientPoint adapter} (hat : (s.clients n).holds = true)
    (hpoint : point.holds = true) :
    (s.moveClient n point).sweeping =
      point.todo.map (fun todo => (.disconnectAll, todo)) :=
  (h.moveClient (fun _ => hat)).sweeping_of_at (s.clients_moveClient_self n point) hpoint

theorem Exclusive.move {s t : Site adapter} {l : SiteLabel adapter stimulus}
    (h : s.Exclusive) (hstep : SiteStep s l t) : Move s t l.observation := by
  cases hstep with
  | scheduler hstep hfree hheld =>
      have hmove := h.move_schedule hstep hfree
      rw [if_neg (fun hboth => hheld hboth.1 hboth.2)] at hmove
      exact hmove
  | polled hstep hheld hfree =>
      have hmove := h.move_schedule hstep (fun hnone => absurd hnone hheld)
      rw [if_pos ⟨hheld, hfree⟩] at hmove
      exact hmove
  | called n call hat =>
      exact Move.quiet rfl (s.sweeping_moveClient (todo_of_at hat rfl) rfl) rfl
  | refuse n hat =>
      exact Move.outside (.refuse n) (s.sweeping_moveClient (todo_of_at hat rfl) rfl) rfl
        rfl
  | lock n call hat hcall hfree =>
      refine Move.quiet rfl ?_ rfl
      rw [sweeping_of_free hfree]
      exact (h.lock hfree n (.entered call)).sweeping_of_at
        (s.clients_moveClient_self n (.entered call)) rfl
  | act n call devices hat hcall =>
      refine Move.event (.serve n call devices) (h.sweeping_of_at hat rfl) ?_ _ rfl rfl
      exact (h.put _).sweeping_moved (holds_of_at hat rfl) rfl
  | disconnectAll n hat =>
      exact Move.enter .disconnectAll (h.sweeping_of_at hat rfl) rfl
        (h.sweeping_moved (holds_of_at hat rfl) rfl) rfl
  | disconnectNext n key todo d hat =>
      exact Move.visit .disconnectAll key todo d (h.sweeping_of_at hat rfl) rfl
        ((h.put _).sweeping_moved (holds_of_at hat rfl) rfl) rfl
  | disconnected n hat =>
      exact Move.finish .disconnectAll (.serve n .disconnectAll)
        (h.sweeping_of_at hat rfl) rfl (h.sweeping_moved (holds_of_at hat rfl) rfl)
        _ rfl rfl (fun devices d => rfl)
  | rehash n newAdapter answer order hat =>
      exact Move.event (.rehash order) (h.sweeping_of_at hat rfl)
        ((sweeping_put s _).trans (h.sweeping_of_at hat rfl)) _ rfl rfl
  | unlock n call answer hat =>
      have hholder := h.client n (holds_of_at hat rfl)
      have hmutex : s.scheduler.mutex = none := by
        rcases h.apart with hmutex | hnone
        · exact hmutex
        · cases hnone.symm.trans hholder
      refine Move.quiet rfl ?_ rfl
      rw [h.sweeping_of_at hat rfl]
      exact sweeping_of_free ⟨hmutex, rfl⟩
  | leave n answer d hat =>
      exact Move.outside (.disconnectDoomed n d)
        (((s.put _).sweeping_moveClient (todo_of_at hat rfl) rfl).trans
          (sweeping_put s _)) rfl rfl
  | destroy n answer d hat =>
      exact Move.outside (.destroyDoomed n d)
        (((s.put _).sweeping_moveClient (todo_of_at hat rfl) rfl).trans
          (sweeping_put s _)) rfl rfl
  | returned n answer hat =>
      exact Move.quiet rfl (s.sweeping_moveClient (todo_of_at hat rfl) rfl) rfl
  | stimulate key st => exact Move.outside (.stimulate key st) (sweeping_put s _) rfl rfl
  | stimulateDoomed n st =>
      exact Move.outside (.stimulateDoomed n st) (sweeping_put s _) rfl rfl

end Site

/-!
# Observations
-/

/-- The observations that are about one adapter, or those that are about none. -/
def Observation.only (about : Option String) (os : List (Observation adapter stimulus)) :
    List (Observation adapter stimulus) :=
  os.filter (fun o => decide (o.about = about))

@[simp] theorem Observation.only_append (about : Option String)
    (os more : List (Observation adapter stimulus)) :
    only about (os ++ more) = only about os ++ only about more :=
  List.filter_append os more

theorem Observation.only_of_ne {about : Option String}
    {os : List (Observation adapter stimulus)}
    (h : forall o, o ∈ os -> o.about ≠ about) : only about os = [] := by
  unfold only
  rw [List.filter_eq_nil_iff]
  intro o ho hdecide
  exact h o ho (of_decide_eq_true hdecide)

namespace Deployment

def seen (es : List (DeploymentEvent adapter device stimulus)) (s : Deployment adapter) :
    List (Observation adapter stimulus) :=
  (deployment adapter).trace es s

def seenOf (xs : List (OutsideAction device stimulus)) :
    List (Observation adapter stimulus) :=
  xs.map observed

theorem seen_append (es ds : List (DeploymentEvent adapter device stimulus))
    (s : Deployment adapter) :
    seen (es ++ ds) s = seen es s ++ seen ds ((deployment adapter).run es s) :=
  (deployment adapter).trace_append es ds s

theorem seen_singleton (e : DeploymentEvent adapter device stimulus)
    (s : Deployment adapter) : seen [e] s = [(step e s).1] := rfl

theorem seen_outside (xs : List (OutsideAction device stimulus))
    (s : Deployment adapter) :
    seen (xs.map .outside) s = (seenOf xs : List (Observation adapter stimulus)) := by
  induction xs generalizing s with
  | nil => rfl
  | cons x xs ih => exact congrArg (observed x :: ·) (ih (s.perform x))

omit [IndustrialAdapter adapter device stimulus] in
theorem about_observed (x : OutsideAction device stimulus) :
    (observed x : Observation adapter stimulus).about = touches x := by
  cases x <;> rfl

omit [IndustrialAdapter adapter device stimulus] in
theorem only_seenOf (about : Option String) (xs : List (OutsideAction device stimulus)) :
    Observation.only about (seenOf xs : List (Observation adapter stimulus)) =
      (xs.filter (fun x => decide (touches x = about))).map observed := by
  unfold Observation.only seenOf
  rw [List.filter_map]
  congr 2
  funext x
  show decide ((observed x).about = about) = _
  rw [about_observed]

/-- A run shows what has been seen: the calls in their order, and the messages for each
adapter in theirs. -/
def Accounts (start : Deployment adapter)
    (es : List (DeploymentEvent adapter device stimulus))
    (os : List (Observation adapter stimulus)) : Prop :=
  forall about : Option String,
    Observation.only about (seen es start) = Observation.only about os

theorem Accounts.concat {start : Deployment adapter}
    {es : List (DeploymentEvent adapter device stimulus)}
    {os : List (Observation adapter stimulus)} (h : Accounts start es os)
    (e : DeploymentEvent adapter device stimulus) :
    Accounts start (es ++ [e])
      (os ++ [(step e ((deployment adapter).run es start)).1]) := by
  intro about
  rw [seen_append, seen_singleton, Observation.only_append, Observation.only_append,
    h about]

theorem run_outside (xs : List (OutsideAction device stimulus)) (s : Deployment adapter)
    (w : Sweep) [LawfulPoll adapter] [LawfulDisconnect adapter] :
    (deployment adapter).run (xs.map .outside) s = (loom w).performAll xs s := by
  induction xs generalizing s with
  | nil => rfl
  | cons x xs ih => exact ih (s.perform x)

theorem keys_perform (s : Deployment adapter) (x : OutsideAction device stimulus) :
    (s.perform x).runtime.manager.adapters.keys = s.runtime.manager.adapters.keys := by
  cases x with
  | refuse client => rfl
  | stimulateDoomed client st => rfl
  | stimulate key st => exact Table.keys_modify _ key _
  | disconnectDoomed client d =>
      show (s.disconnectDoomed client d).runtime.manager.adapters.keys = _
      unfold disconnectDoomed
      split
      · rfl
      · split <;> rfl
  | destroyDoomed client d =>
      show (s.destroyDoomed client d).runtime.manager.adapters.keys = _
      unfold destroyDoomed
      split <;> rfl

section

variable [LawfulPoll adapter] [LawfulDisconnect adapter] {w : Sweep}
  {start s : Deployment adapter} {done : List (String × device)}
  {happened early late : List (OutsideAction device stimulus)}

theorem keys_performAll (xs : List (OutsideAction device stimulus)) :
    ((loom w).performAll xs s).runtime.manager.adapters.keys =
      s.runtime.manager.adapters.keys := by
  induction xs generalizing s with
  | nil => rfl
  | cons x xs ih => exact ih.trans (s.keys_perform x)

theorem visits_keys (tools : String -> device) (s : Deployment adapter) :
    (loom w).visits (s.runtime.manager.adapters.keys.map (fun k => (k, tools k))) s =
      { s with runtime := w.whole tools s.runtime } := by
  rw [← w.foldl_next_keys]
  generalize s.runtime.manager.adapters.keys = keys
  induction keys generalizing s with
  | nil => rfl
  | cons key keys ih => exact ih (s.next w key (tools key))

theorem only_seenOf_woven (h : (loom w).Woven start done happened early late s)
    (about : Option String) :
    Observation.only about (seenOf (early ++ late) : List (Observation adapter stimulus)) =
      Observation.only about (seenOf happened) := by
  rw [only_seenOf, only_seenOf]
  exact congrArg (List.map observed) (h.order about)

theorem only_seenOf_late (h : (loom w).Woven start done happened early late s) :
    Observation.only none (seenOf late : List (Observation adapter stimulus)) = [] := by
  apply Observation.only_of_ne
  intro o ho
  rcases List.mem_map.mp ho with ⟨x, hx, rfl⟩
  rcases h.behind x hx with ⟨key, hkey, _⟩
  rw [about_observed]
  exact fun hnone => by cases hkey.symm.trans hnone

/-- A loop that has visited every adapter can be run in one piece. -/
theorem woven_whole [Inhabited device]
    (h : (loom w).Woven start done happened early late s)
    (hdone : start.runtime.manager.adapters.keys = done.map Prod.fst) :
    exists devices, s = (loom w).performAll late
      { (loom w).performAll early start with
        runtime := w.whole devices ((loom w).performAll early start).runtime } := by
  have hnodup : (done.map Prod.fst).Nodup := by
    rw [← hdone]
    exact start.runtime.manager.adapters.nodupKeys
  rcases Loom.exists_tools hnodup with ⟨devices, hdevices⟩
  refine ⟨devices, ?_⟩
  rw [h.state, ← visits_keys, keys_performAll, hdone, ← hdevices]

end

end Deployment

/-!
# One after the other
-/

namespace Site

open Deployment

def observations (ls : List (SiteLabel adapter stimulus)) :
    List (Observation adapter stimulus) :=
  ls.filterMap SiteLabel.observation

/-- The site is where a run leads that shows what has been seen.  In the middle of a loop
of the manager, what has happened since it began is sorted around it. -/
structure Serial [LawfulPoll adapter] [LawfulDisconnect adapter]
    (start : Deployment adapter) (os : List (Observation adapter stimulus))
    (s : Site adapter) : Prop where
  exclusive : s.Exclusive
  idle : s.sweeping = none ->
    exists es : List (DeploymentEvent adapter device stimulus), Accounts start es os ∧
      s.deployment = (Icp.deployment adapter).run es start
  swept : forall w todo, s.sweeping = some (w, todo) ->
    exists (es : List (DeploymentEvent adapter device stimulus)) (done : _)
      (happened early late : _),
      Accounts start (es ++ happened.map .outside) os ∧
      ((Icp.deployment adapter).run es start).runtime.manager.adapters.keys =
        done.map Prod.fst ++ todo ∧
      (loom w).Woven ((Icp.deployment adapter).run es start) done happened early late
        s.deployment

variable [LawfulPoll adapter] [LawfulDisconnect adapter] {start : Deployment adapter}
  {os : List (Observation adapter stimulus)} {s t : Site adapter}

theorem serial_new (runtime : Runtime adapter) (interval : Int) :
    (new runtime interval).Serial (new runtime interval).deployment [] where
  exclusive := exclusive_new runtime interval
  idle := fun _ => ⟨[], fun _ => rfl, rfl⟩
  swept := by
    intro w todo h
    cases h

theorem Serial.finish [Inhabited device] {o : Observation adapter stimulus}
    (h : s.Serial start os) {w : Sweep}
    {event : (String -> device) -> DeploymentEvent adapter device stimulus}
    (hat : s.sweeping = some (w, []))
    (hevent : forall devices d, Deployment.step (event devices) d =
      (o, { d with runtime := w.whole devices d.runtime }))
    (habout : o.about = none) :
    exists es : List (DeploymentEvent adapter device stimulus),
      Accounts start es (os ++ [o]) ∧
        s.deployment = (Icp.deployment adapter).run es start := by
  rcases h.swept w [] hat with ⟨es, done, happened, early, late, hes, hkeys, hwoven⟩
  rw [List.append_nil] at hkeys
  rcases woven_whole hwoven hkeys with ⟨devices, hwhole⟩
  refine ⟨es ++ early.map .outside ++ [event devices] ++ late.map .outside, ?_, ?_⟩
  · intro about
    have hstep := hevent devices
      ((Icp.deployment adapter).run (es ++ early.map .outside) start)
    have hold := hes about
    have hsorted := only_seenOf_woven hwoven about
    rw [seen_append, seen_outside, Observation.only_append] at hold
    rw [seen_append, seen_append, seen_append, seen_singleton, hstep, seen_outside,
      seen_outside, Observation.only_append, Observation.only_append,
      Observation.only_append, Observation.only_append, ← hold, ← hsorted]
    unfold seenOf
    rw [List.map_append, Observation.only_append]
    -- the loop itself and what counts as later are not about the same
    cases about with
    | none =>
        have hlate := only_seenOf_late hwoven
        unfold seenOf at hlate
        rw [hlate, List.append_nil, List.append_nil]
    | some key =>
        have hnone : Observation.only (some key) [o] = [] := by
          apply Observation.only_of_ne
          intro x hx
          rw [List.mem_singleton.mp hx, habout]
          exact fun hkey => by cases hkey
        rw [hnone, List.append_nil, List.append_nil]
        exact List.append_assoc _ _ _
  · rw [Machine.run_append, Machine.run_append, Machine.run_append,
      run_outside early _ w, run_outside late _ w]
    refine hwhole.trans (congrArg ((loom w).performAll late) ?_)
    exact (congrArg Prod.snd (hevent devices _)).symm

theorem Serial.step [Inhabited device] {l : SiteLabel adapter stimulus}
    (hstep : SiteStep s l t) (h : s.Serial start os) :
    t.Serial start (os ++ l.observation.toList) := by
  have hexclusive := h.exclusive.step hstep
  cases h.exclusive.move hstep with
  | quiet hdeployment hsweeping hseen =>
      rw [hseen, Option.toList_none, List.append_nil]
      refine ⟨hexclusive, ?_, ?_⟩
      · rw [hsweeping, hdeployment]
        exact h.idle
      · rw [hsweeping, hdeployment]
        exact h.swept
  | enter w hat hdeployment hsweeping hseen =>
      rw [hseen, Option.toList_none, List.append_nil]
      refine ⟨hexclusive, fun hnone => (by cases hsweeping.symm.trans hnone), ?_⟩
      intro w' todo htodo
      cases hsweeping.symm.trans htodo
      rcases h.idle hat with ⟨es, hes, hrun⟩
      refine ⟨es, [], [], [], [], ?_, ?_, ?_⟩
      · rw [List.map_nil, List.append_nil]
        exact hes
      · rw [hrun]
        rfl
      · rw [hdeployment, hrun]
        exact Loom.woven_nil (loom w) _
  | visit w key todo d hat hdeployment hsweeping hseen =>
      rw [hseen, Option.toList_none, List.append_nil]
      refine ⟨hexclusive, fun hnone => (by cases hsweeping.symm.trans hnone), ?_⟩
      intro w' todo' htodo
      cases hsweeping.symm.trans htodo
      rcases h.swept w (key :: todo) hat with
        ⟨es, done, happened, early, late, hes, hkeys, hwoven⟩
      have hnodup := ((Icp.deployment adapter).run es start).runtime.manager.adapters.nodupKeys
      change List.Nodup
        ((Icp.deployment adapter).run es start).runtime.manager.adapters.keys at hnodup
      rw [hkeys] at hnodup
      have hkey : key ∉ done.map Prod.fst := fun hmem =>
        (List.nodup_append.mp hnodup).2.2 key hmem key List.mem_cons_self rfl
      refine ⟨es, done ++ [(key, d)], happened, early, late, hes, ?_, ?_⟩
      · rw [hkeys, List.map_append, List.append_assoc]
        rfl
      · rw [hdeployment]
        exact hwoven.visit hkey d
  | finish w event hat hdeployment hsweeping o hseen habout hevent =>
      rw [hseen]
      refine ⟨hexclusive, ?_, fun w' todo htodo => by cases hsweeping.symm.trans htodo⟩
      intro _
      rw [hdeployment]
      exact h.finish hat hevent habout
  | event e hat hsweeping o hseen hresult =>
      rw [hseen]
      refine ⟨hexclusive, ?_, fun w' todo htodo => by cases hsweeping.symm.trans htodo⟩
      intro _
      rcases h.idle hat with ⟨es, hes, hrun⟩
      have hafter := hes.concat e
      rw [← hrun, hresult] at hafter
      refine ⟨es ++ [e], hafter, ?_⟩
      rw [Machine.run_append, ← hrun]
      exact (congrArg Prod.snd hresult).symm
  | outside x hsweeping hdeployment hseen =>
      refine ⟨hexclusive, ?_, ?_⟩
      · intro hnone
        rcases h.idle (hsweeping.symm.trans hnone) with ⟨es, hes, hrun⟩
        have hafter := hes.concat (.outside x)
        refine ⟨es ++ [.outside x], ?_, ?_⟩
        · rw [hseen]
          exact hafter
        · rw [Machine.run_append, ← hrun, hdeployment]
          rfl
      · intro w todo htodo
        rcases h.swept w todo (hsweeping.symm.trans htodo) with
          ⟨es, done, happened, early, late, hes, hkeys, hwoven⟩
        rcases hwoven.happen x with ⟨before, after, hnext⟩
        have hafter := hes.concat (.outside x)
        refine ⟨es, done, happened ++ [x], before, after, ?_, hkeys, ?_⟩
        · rw [hseen, List.map_append, ← List.append_assoc]
          exact hafter
        · rw [hdeployment]
          exact hnext

end Site

/-!
# The calls of one client
-/

/-- What one client sees of its calls. -/
inductive ClientLabel (adapter : Type) where
  | called (call : ManagerCall adapter)
  | served (call : ManagerCall adapter) (answer : ManagerAnswer)
  | returned (answer : ManagerAnswer)

def SiteLabel.of (n : Nat) : SiteLabel adapter stimulus -> Option (ClientLabel adapter)
  | called m call => if m = n then some (.called call) else none
  | observed (.served m call answer) => if m = n then some (.served call answer) else none
  | returned m answer => if m = n then some (.returned answer) else none
  | _ => none

/-- How far a client has come with its calls: each is served once, between its beginning
and its return, and returns the answer it was served with. -/
inductive Session : List (ClientLabel adapter) -> Option (ManagerCall adapter) ->
    Option ManagerAnswer -> Prop
  | idle : Session [] none none
  | called {hs : List (ClientLabel adapter)} (h : Session hs none none)
      (call : ManagerCall adapter) : Session (hs ++ [.called call]) (some call) none
  | served {hs : List (ClientLabel adapter)} {call : ManagerCall adapter}
      (h : Session hs (some call) none) (answer : ManagerAnswer) :
      Session (hs ++ [.served call answer]) none (some answer)
  | returned {hs : List (ClientLabel adapter)} {answer : ManagerAnswer}
      (h : Session hs none (some answer)) : Session (hs ++ [.returned answer]) none none

def ClientPoint.pending : ClientPoint adapter -> Option (ManagerCall adapter)
  | called call => some call
  | entered call => some call
  | disconnecting _ => some .disconnectAll
  | _ => none

def ClientPoint.answer : ClientPoint adapter -> Option ManagerAnswer
  | answered _ answer => some answer
  | leaving answer => some answer
  | dropping answer => some answer
  | returning answer => some answer
  | _ => none

namespace Site

/-- Every client is as far as its labels say. -/
def Orderly (ls : List (SiteLabel adapter stimulus)) (s : Site adapter) : Prop :=
  forall n, Session (ls.filterMap (SiteLabel.of n)) (s.clients n).pending
    (s.clients n).answer

theorem orderly_new (runtime : Runtime adapter) (interval : Int) :
    (new runtime interval).Orderly ([] : List (SiteLabel adapter stimulus)) :=
  fun _ => Session.idle

theorem Orderly.quiet {ls : List (SiteLabel adapter stimulus)} {s t : Site adapter}
    {l : SiteLabel adapter stimulus} (h : s.Orderly ls)
    (hpoints : forall n, (t.clients n).pending = (s.clients n).pending ∧
      (t.clients n).answer = (s.clients n).answer)
    (hlabel : forall n, l.of n = none) : t.Orderly (ls ++ [l]) := by
  intro n
  rw [List.filterMap_append, (hpoints n).1, (hpoints n).2]
  have hnone : [l].filterMap (SiteLabel.of n) = [] := by
    rw [List.filterMap_cons, hlabel n]
    rfl
  rw [hnone, List.append_nil]
  exact h n

theorem Orderly.move {ls : List (SiteLabel adapter stimulus)} {s t : Site adapter}
    {l : SiteLabel adapter stimulus} (h : s.Orderly ls) {n : Nat}
    {point : ClientPoint adapter} {label : ClientLabel adapter}
    (hclients : t.clients = Function.update s.clients n point)
    (hlabel : forall m, l.of m = if n = m then some label else none)
    (hsession : Session (ls.filterMap (SiteLabel.of n) ++ [label]) point.pending
      point.answer) : t.Orderly (ls ++ [l]) := by
  intro m
  rw [hclients, List.filterMap_append, List.filterMap_cons, hlabel m]
  by_cases hmn : n = m
  · subst hmn
    rw [Function.update_self, if_pos rfl]
    exact hsession
  · rw [Function.update_of_ne (Ne.symm hmn), if_neg hmn]
    dsimp only
    rw [List.filterMap_nil, List.append_nil]
    exact h m

theorem points_moveClient {s t : Site adapter} {n : Nat}
    {before point : ClientPoint adapter} (hat : s.clients n = before)
    (hclients : t.clients = Function.update s.clients n point)
    (hpending : point.pending = before.pending) (hanswer : point.answer = before.answer) :
    forall m, (t.clients m).pending = (s.clients m).pending ∧
      (t.clients m).answer = (s.clients m).answer := by
  intro m
  rw [hclients]
  by_cases hmn : m = n
  · rw [hmn, Function.update_self, hat]
    exact ⟨hpending, hanswer⟩
  · rw [Function.update_of_ne hmn]
    exact ⟨rfl, rfl⟩

theorem Orderly.step {ls : List (SiteLabel adapter stimulus)} {s t : Site adapter}
    {l : SiteLabel adapter stimulus} (hstep : SiteStep s l t) (h : s.Orderly ls) :
    t.Orderly (ls ++ [l]) := by
  cases hstep with
  | scheduler hstep hfree hheld => exact h.quiet (fun _ => ⟨rfl, rfl⟩) (fun _ => rfl)
  | polled hstep hheld hfree => exact h.quiet (fun _ => ⟨rfl, rfl⟩) (fun _ => rfl)
  | called n call hat =>
      have hn := h n
      rw [hat] at hn
      exact h.move rfl (fun _ => rfl) (hn.called call)
  | refuse n hat =>
      have hn := h n
      rw [hat] at hn
      exact h.move rfl (fun _ => rfl) (hn.served _)
  | lock n call hat hcall hfree =>
      exact h.quiet (points_moveClient hat rfl rfl rfl) (fun _ => rfl)
  | act n call devices hat hcall =>
      have hn := h n
      rw [hat] at hn
      exact h.move rfl (fun _ => rfl) (hn.served _)
  | disconnectAll n hat =>
      exact h.quiet (points_moveClient hat rfl rfl rfl) (fun _ => rfl)
  | disconnectNext n key todo d hat =>
      exact h.quiet (points_moveClient hat rfl rfl rfl) (fun _ => rfl)
  | disconnected n hat =>
      have hn := h n
      rw [hat] at hn
      exact h.move rfl (fun _ => rfl) (hn.served _)
  | rehash n newAdapter answer order hat =>
      exact h.quiet (fun _ => ⟨rfl, rfl⟩) (fun _ => rfl)
  | unlock n call answer hat =>
      refine h.quiet (points_moveClient hat rfl ?_ ?_) (fun _ => rfl)
      · cases call <;> rfl
      · cases call <;> rfl
  | leave n answer d hat =>
      exact h.quiet (points_moveClient hat rfl rfl rfl) (fun _ => rfl)
  | destroy n answer d hat =>
      exact h.quiet (points_moveClient hat rfl rfl rfl) (fun _ => rfl)
  | returned n answer hat =>
      have hn := h n
      rw [hat] at hn
      exact h.move rfl (fun _ => rfl) hn.returned
  | stimulate key st => exact h.quiet (fun _ => ⟨rfl, rfl⟩) (fun _ => rfl)
  | stimulateDoomed n st => exact h.quiet (fun _ => ⟨rfl, rfl⟩) (fun _ => rfl)

end Site

/-!
# Every interleaving
-/

theorem Site.serial_of_path [LawfulPoll adapter] [LawfulDisconnect adapter]
    [Inhabited device] {runtime : Runtime adapter} {interval : Int}
    {ls : List (SiteLabel adapter stimulus)} {s : Site adapter}
    (hpath : Path SiteStep (Site.new runtime interval) ls s) :
    s.Serial (Site.new runtime interval).deployment (Site.observations ls) := by
  have hstep : forall (history : List (SiteLabel adapter stimulus)) (s : Site adapter)
      (l : SiteLabel adapter stimulus) (t : Site adapter), SiteStep s l t ->
        s.Serial (Site.new runtime interval).deployment (Site.observations history) ->
          t.Serial (Site.new runtime interval).deployment
            (Site.observations (history ++ [l])) := by
    intro history s l t hstep hs
    have hsplit : Site.observations (history ++ [l]) =
        Site.observations history ++ l.observation.toList := by
      unfold Site.observations
      rw [List.filterMap_append, List.filterMap_cons]
      cases l.observation <;> rfl
    rw [hsplit]
    exact Site.Serial.step hstep hs
  have hstart : (Site.new runtime interval).Serial
      (Site.new runtime interval).deployment
      (Site.observations ([] : List (SiteLabel adapter stimulus))) :=
    Site.serial_new runtime interval
  exact hpath.invariant_labels hstep hstart

theorem Site.session_of_path {runtime : Runtime adapter} {interval : Int}
    {ls : List (SiteLabel adapter stimulus)} {s : Site adapter}
    (hpath : Path SiteStep (Site.new runtime interval) ls s) (n : Nat) :
    Session (ls.filterMap (SiteLabel.of n)) (s.clients n).pending (s.clients n).answer :=
  hpath.invariant_labels (fun _ _ _ _ hstep h => h.step hstep)
    (Site.orderly_new runtime interval) n

/-- However the threads of a scheduler, any number of clients and the messages from
outside interleave: when the mutex of the manager is free, the site is where a run leads
that does one thing after the other, with the same calls, answers, poll cycles and
clean-ups in the same order and the same messages for each adapter.  Each call of a
client takes effect between its beginning and its return. -/
theorem calls_linearize {runtime : Runtime Adapter} {interval : Int}
    {ls : List (SiteLabel Adapter AdapterStimulus)} {s : Site Adapter}
    (hpath : Path SiteStep (Site.new runtime interval) ls s) (hfree : s.Free) :
    (exists es : List (DeploymentEvent Adapter AdapterDevice AdapterStimulus),
      (forall about : Option String,
        Observation.only about
            ((deployment Adapter).trace es (Site.new runtime interval).deployment) =
          Observation.only about (Site.observations ls)) ∧
        s.deployment =
          (deployment Adapter).run es (Site.new runtime interval).deployment) ∧
      forall n, exists pending answer,
        Session (ls.filterMap (SiteLabel.of n)) pending answer :=
  ⟨(Site.serial_of_path hpath).idle (Site.sweeping_of_free hfree),
    fun n => ⟨_, _, Site.session_of_path hpath n⟩⟩

/-!
# A removal while a poll cycle runs
-/

def idleDevice : AdapterDevice :=
  ((), default, default, default, default, default, default, default)

/-- One client adds an adapter.  Another one removes it and has to wait for the poll
cycle that the scheduler has begun. -/
def removedWhilePolling : List (SiteLabel Adapter AdapterStimulus) :=
  [.called 0 (.addAdapter (some (AdapterFactory.createMock "mock-a"))), .client 0,
    .observed (.served 0 (.addAdapter (some (AdapterFactory.createMock "mock-a")))
      (.result ⟨true, "added"⟩)),
    .client 0, .scheduler (.called .pollOnce), .scheduler .controller,
    .called 1 (.removeAdapter "mock-a"), .observed (.destroyed 0),
    .scheduler .controller, .returned 0 (.result ⟨true, "added"⟩), .observed .polled,
    .client 1,
    .observed (.served 1 (.removeAdapter "mock-a") (.result ⟨true, "removed"⟩)),
    .client 1, .observed (.disconnected 1), .observed (.destroyed 1)]

theorem path_removedWhilePolling :
    exists s : Site Adapter,
      Path SiteStep (Site.new Runtime.empty 100) removedWhilePolling s ∧ s.Free := by
  refine ⟨?last, ?_, ?_⟩
  case refine_1 =>
    refine Path.cons (SiteStep.called 0 _ rfl) ?_
    refine Path.cons (SiteStep.lock 0 _ rfl (by simp) ⟨rfl, rfl⟩) ?_
    refine Path.cons (SiteStep.act 0 _ (fun _ => idleDevice) rfl (by simp)) ?_
    refine Path.cons (SiteStep.unlock 0 _ _ rfl) ?_
    refine Path.cons (SiteStep.scheduler (SchedulerStep.called .pollOnce rfl)
      (fun _ _ => rfl) (fun h => h)) ?_
    refine Path.cons (SiteStep.scheduler (SchedulerStep.pollLock rfl rfl)
      (fun _ _ => rfl) (fun h => absurd rfl h)) ?_
    refine Path.cons (SiteStep.called 1 _ rfl) ?_
    refine Path.cons (SiteStep.destroy 0 _ idleDevice rfl) ?_
    refine Path.cons (SiteStep.scheduler
      (SchedulerStep.pollVisit "mock-a" [] idleDevice rfl)
      (fun h => absurd h (Option.some_ne_none MutexHolder.controller)) (fun h => h)) ?_
    refine Path.cons (SiteStep.returned 0 _ rfl) ?_
    refine Path.cons (SiteStep.polled (SchedulerStep.pollUnlock rfl)
      (Option.some_ne_none MutexHolder.controller) rfl) ?_
    refine Path.cons (SiteStep.lock 1 _ rfl (by simp) ⟨rfl, rfl⟩) ?_
    refine Path.cons (SiteStep.act 1 _ (fun _ => idleDevice) rfl (by simp)) ?_
    refine Path.cons (SiteStep.unlock 1 _ _ rfl) ?_
    refine Path.cons (SiteStep.leave 1 _ idleDevice rfl) ?_
    refine Path.cons (SiteStep.destroy 1 _ idleDevice rfl) ?_
    exact Path.nil _
  case refine_2 => exact ⟨rfl, rfl⟩

theorem calls_linearize_removal :
    exists s : Site Adapter,
      (exists es : List (DeploymentEvent Adapter AdapterDevice AdapterStimulus),
        (forall about : Option String,
          Observation.only about
              ((deployment Adapter).trace es (Site.new Runtime.empty 100).deployment) =
            Observation.only about (Site.observations removedWhilePolling)) ∧
          s.deployment =
            (deployment Adapter).run es (Site.new Runtime.empty 100).deployment) ∧
        forall n, exists pending answer,
          Session (removedWhilePolling.filterMap (SiteLabel.of n)) pending answer :=
  path_removedWhilePolling.imp fun _ h => calls_linearize h.1 h.2

end Icp
end VirtualFactory
