import VirtualFactory.Icp.EquipmentIds
import VirtualFactory.Icp.Linearization

/-!
# Invariants of interleaved calls

What every operation of a runtime keeps, whatever is claimed, holds under every
interleaving of the threads whenever the mutex of the manager is free.  The promises of
the manager about its machines are of this kind.
-/

namespace VirtualFactory
namespace Icp

open Foundation IndustrialAdapter

variable {adapter device stimulus : Type}
  [IndustrialAdapter adapter device stimulus]

def Runtime.withClaims (r : Runtime adapter) (ids : ClientIds) : Runtime adapter :=
  { r with clientIds := ids }

/-- What the operations of a runtime keep, as long as the adapters that are added are
allowed, whatever is claimed meanwhile. -/
structure Runtime.Invariant (allowed : adapter -> Prop) (kept : Runtime adapter -> Prop) :
    Prop where
  step : forall (event : Event adapter device stimulus) (r : Runtime adapter),
    Adds allowed event -> kept r -> kept (step event r).2
  claims : forall (r : Runtime adapter) (ids : ClientIds), kept r ->
    kept (r.withClaims ids)

namespace Deployment

def Adds (allowed : adapter -> Prop) (event : DeploymentEvent adapter device stimulus) :
    Prop :=
  forall n a devices, event = .serve n (.addAdapter (some a)) devices -> allowed a

omit [IndustrialAdapter adapter device stimulus] in
theorem adds_of_ne {allowed : adapter -> Prop} {operation : Operation adapter stimulus}
    (h : forall a, operation ≠ .addAdapter (some a)) (devices : String -> device) :
    Runtime.Adds allowed (⟨operation, devices⟩ : Event adapter device stimulus) :=
  fun a ha => absurd ha (h a)

theorem kept_act {allowed : adapter -> Prop} {kept : Runtime adapter -> Prop}
    (hkept : Runtime.Invariant allowed kept) {call : ManagerCall adapter}
    (hallowed : forall a, call = .addAdapter (some a) -> allowed a)
    (devices : String -> device) {r : Runtime adapter} (hr : kept r) :
    kept (call.act devices r).2.1 := by
  have hoperation : forall operation : Operation adapter stimulus,
      (forall a, operation ≠ .addAdapter (some a)) ->
        kept (Runtime.step ⟨operation, devices⟩ r).2 :=
    fun operation h => hkept.step _ r (adds_of_ne h devices) hr
  cases call with
  | addAdapter newAdapter =>
      have hadded := hkept.step ⟨.addAdapter newAdapter, devices⟩ r
        (fun a ha => hallowed a (by cases ha; rfl)) hr
      exact hkept.claims _ r.clientIds hadded
  | removeAdapter key =>
      exact hkept.claims _ r.clientIds
        (hoperation (.removeAdapter key) (fun a h => by cases h))
  | connectAdapter key => exact hoperation (.connectAdapter key) (fun a h => by cases h)
  | disconnectAdapter key =>
      exact hoperation (.disconnectAdapter key) (fun a h => by cases h)
  | disconnectAll => exact hoperation .disconnectAll (fun a h => by cases h)
  | equipmentById equipmentId => exact hr
  | allEquipment => exact hr
  | adapterIds => exact hr
  | adapterCount => exact hr

theorem kept_perform [Inhabited device] {allowed : adapter -> Prop}
    {kept : Runtime adapter -> Prop} (hkept : Runtime.Invariant allowed kept)
    {s : Deployment adapter} (hs : kept s.runtime) (x : OutsideAction device stimulus) :
    kept (s.perform x).runtime := by
  cases x with
  | refuse client => exact hs
  | stimulateDoomed client st => exact hs
  | stimulate key st =>
      exact hkept.step ⟨.stimulate key st, fun _ => default⟩ s.runtime
        (adds_of_ne (fun a h => by cases h) _) hs
  | disconnectDoomed client d =>
      show kept (s.disconnectDoomed client d).runtime
      unfold disconnectDoomed
      split
      · exact hs
      · split
        · exact hs
        · exact hkept.claims s.runtime _ hs
  | destroyDoomed client d =>
      show kept (s.destroyDoomed client d).runtime
      unfold destroyDoomed
      split
      · exact hs
      · exact hkept.claims s.runtime _ hs

theorem kept_step [Inhabited device] {allowed : adapter -> Prop}
    {kept : Runtime adapter -> Prop} (hkept : Runtime.Invariant allowed kept)
    {event : DeploymentEvent adapter device stimulus} (hadds : Adds allowed event)
    {s : Deployment adapter} (hs : kept s.runtime) : kept (step event s).2.runtime := by
  cases event with
  | pollOnce devices =>
      exact hkept.step (cycleEvent devices) s.runtime
        (adds_of_ne (fun a h => by cases h) _) hs
  | serve client call devices =>
      exact kept_act hkept (fun a ha => hadds client a devices (by rw [ha])) devices hs
  | rehash order =>
      exact hkept.step ⟨.rehash order, fun _ => default⟩ s.runtime
        (adds_of_ne (fun a h => by cases h) _) hs
  | outside x => exact kept_perform hkept hs x

theorem kept_run [Inhabited device] {allowed : adapter -> Prop}
    {kept : Runtime adapter -> Prop} (hkept : Runtime.Invariant allowed kept)
    {es : List (DeploymentEvent adapter device stimulus)}
    (hadds : forall e, e ∈ es -> Adds allowed e) {d : Deployment adapter}
    (hd : kept d.runtime) : kept ((Icp.deployment adapter).run es d).runtime := by
  induction es generalizing d with
  | nil => exact hd
  | cons e es ih =>
      exact ih (fun e' he' => hadds e' (List.mem_cons_of_mem e he'))
        (kept_step hkept (hadds e List.mem_cons_self) hd)

theorem mem_seen_of_serve {es : List (DeploymentEvent adapter device stimulus)}
    {s : Deployment adapter} {n : Nat} {call : ManagerCall adapter}
    {devices : String -> device} (h : .serve n call devices ∈ es) :
    exists answer, .served n call answer ∈ seen es s := by
  induction es generalizing s with
  | nil => cases h
  | cons e es ih =>
      rcases List.mem_cons.mp h with rfl | hrest
      · exact ⟨_, List.mem_cons_self⟩
      · rcases ih (s := (step e s).2) hrest with ⟨answer, hanswer⟩
        exact ⟨answer, List.mem_cons_of_mem _ hanswer⟩

end Deployment

theorem Session.called_of_served {hs : List (ClientLabel adapter)}
    {pending : Option (ManagerCall adapter)} {got : Option ManagerAnswer}
    (h : Session hs pending got) :
    (forall call answer, .served call answer ∈ hs -> .called call ∈ hs) ∧
      forall call, pending = some call -> .called call ∈ hs := by
  induction h with
  | idle =>
      constructor
      · intro call answer hmem
        cases hmem
      · intro call hcall
        cases hcall
  | called h call ih =>
      constructor
      · intro other answer hmem
        rcases List.mem_append.mp hmem with hold | hnew
        · exact List.mem_append_left _ (ih.1 other answer hold)
        · cases List.mem_singleton.mp hnew
      · intro other hother
        cases hother
        exact List.mem_append_right _ List.mem_cons_self
  | served h answer ih =>
      constructor
      · intro other answer' hmem
        rcases List.mem_append.mp hmem with hold | hnew
        · exact List.mem_append_left _ (ih.1 other answer' hold)
        · cases List.mem_singleton.mp hnew
          exact List.mem_append_left _ (ih.2 _ rfl)
      · intro other hother
        cases hother
  | returned h ih =>
      constructor
      · intro other answer hmem
        rcases List.mem_append.mp hmem with hold | hnew
        · exact List.mem_append_left _ (ih.1 other answer hold)
        · cases List.mem_singleton.mp hnew
      · intro other hother
        cases hother

namespace Site

def Adds (allowed : adapter -> Prop) (ls : List (SiteLabel adapter stimulus)) : Prop :=
  forall n a, .called n (.addAdapter (some a)) ∈ ls -> allowed a

theorem called_of_observed {runtime : Runtime adapter} {interval : Int}
    {ls : List (SiteLabel adapter stimulus)} {s : Site adapter}
    (hpath : Path SiteStep (Site.new runtime interval) ls s) {n : Nat}
    {call : ManagerCall adapter} {answer : ManagerAnswer}
    (h : .served n call answer ∈ observations ls) : .called n call ∈ ls := by
  have hserved : .served call answer ∈ ls.filterMap (SiteLabel.of n) := by
    rcases List.mem_filterMap.mp h with ⟨l, hl, hobservation⟩
    refine List.mem_filterMap.mpr ⟨l, hl, ?_⟩
    cases l with
    | observed o =>
        cases hobservation
        exact if_pos rfl
    | _ => cases hobservation
  have hcalled := (session_of_path hpath n).called_of_served.1 call answer hserved
  rcases List.mem_filterMap.mp hcalled with ⟨l, hl, hof⟩
  cases l with
  | called m other =>
      change (if m = n then some (ClientLabel.called other) else none) = _ at hof
      split at hof
      · rename_i hmn
        cases hof
        rw [← hmn]
        exact hl
      · cases hof
  | observed o =>
      cases o with
      | served m other got =>
          change (if m = n then some (ClientLabel.served other got) else none) = _ at hof
          split at hof <;> cases hof
      | _ => cases hof
  | returned m got =>
      change (if m = n then some (ClientLabel.returned got) else none) = _ at hof
      split at hof <;> cases hof
  | client m => cases hof
  | scheduler l => cases hof

theorem kept_of_path [LawfulPoll adapter] [LawfulDisconnect adapter] [Inhabited device]
    {allowed : adapter -> Prop} {kept : Runtime adapter -> Prop}
    (hkept : Runtime.Invariant allowed kept) {runtime : Runtime adapter}
    (hstart : kept runtime) {interval : Int} {ls : List (SiteLabel adapter stimulus)}
    (hls : Adds allowed ls) {s : Site adapter}
    (hpath : Path SiteStep (Site.new runtime interval) ls s) (hfree : s.Free) :
    kept s.scheduler.runtime := by
  rcases (serial_of_path hpath).idle (sweeping_of_free hfree) with ⟨es, hes, hrun⟩
  have hadds : forall e, e ∈ es -> Deployment.Adds allowed e := by
    rintro e he n a devices rfl
    rcases Deployment.mem_seen_of_serve (s := (new runtime interval).deployment) he with
      ⟨answer, hanswer⟩
    have hseen : .served n (.addAdapter (some a)) answer ∈
        Observation.only none (observations ls) := by
      rw [← hes none]
      exact List.mem_filter.mpr ⟨hanswer, rfl⟩
    exact hls n a (called_of_observed hpath (List.mem_filter.mp hseen).1)
  have hlast := Deployment.kept_run hkept hadds (d := (new runtime interval).deployment) hstart
  rw [← hrun] at hlast
  exact hlast

end Site

theorem Runtime.invariant_orderly {obeys : adapter -> Prop} (hcontract : Contract obeys) :
    Runtime.Invariant (fun a : adapter => obeys a ∧ connectionState a = .disconnected)
      (Runtime.Orderly obeys) where
  step := fun _ _ hadds hr => Runtime.orderly_step hcontract hadds hr
  claims := fun _ _ hr => hr

/-- Whatever interleaves on a site whose clients add adapters that obey the contract and
are disconnected: whenever the mutex is free, the manager keeps its promises about the
machines. -/
theorem equipment_routed_interleaved [LawfulPoll adapter] [LawfulDisconnect adapter]
    [Inhabited device] {obeys : adapter -> Prop} (hcontract : Contract obeys)
    {interval : Int} {ls : List (SiteLabel adapter stimulus)}
    (hadded : forall n a, .called n (.addAdapter (some a)) ∈ ls ->
      obeys a ∧ connectionState a = .disconnected)
    {s : Site adapter} (hpath : Path SiteStep (Site.new Runtime.empty interval) ls s)
    (hfree : s.Free) : s.scheduler.runtime.manager.RoutesEquipment := by
  have horderly : Runtime.Orderly obeys s.scheduler.runtime :=
    Site.kept_of_path (Runtime.invariant_orderly hcontract)
      (Runtime.orderly_empty obeys) hadded hpath hfree
  exact AdapterManager.routesEquipment hcontract horderly.1 horderly.2

/-!
# Two clients with the same machine
-/

def rivalMock (id : String) : MockIndustrialAdapter :=
  (MockIndustrialAdapter.new id).addDevice "PUMP-001" "Pump"

/-- Two clients add an adapter each, and then both connect theirs.  The second one to get
the mutex is refused. -/
def rivalClients : List (SiteLabel MockIndustrialAdapter MockStimulus) :=
  [.called 0 (.addAdapter (some (rivalMock "mock-a"))),
    .called 1 (.addAdapter (some (rivalMock "mock-b"))), .client 0,
    .observed (.served 0 (.addAdapter (some (rivalMock "mock-a")))
      (.result ⟨true, "added"⟩)),
    .client 0, .client 1,
    .observed (.served 1 (.addAdapter (some (rivalMock "mock-b")))
      (.result ⟨true, "added"⟩)),
    .client 1, .observed (.destroyed 0), .observed (.destroyed 1),
    .returned 0 (.result ⟨true, "added"⟩), .returned 1 (.result ⟨true, "added"⟩),
    .called 0 (.connectAdapter "mock-a"), .called 1 (.connectAdapter "mock-b"),
    .client 1,
    .observed (.served 1 (.connectAdapter "mock-b") (.result ⟨true, "connected"⟩)),
    .client 1, .client 0,
    .observed (.served 0 (.connectAdapter "mock-a") (.result
      ⟨false, "equipment id collision: PUMP-001 also on adapter mock-b"⟩)),
    .client 0]

theorem path_rivalClients :
    exists s : Site MockIndustrialAdapter,
      Path SiteStep (Site.new Runtime.empty 100) rivalClients s ∧ s.Free := by
  refine ⟨?last, ?_, ?_⟩
  case refine_1 =>
    refine Path.cons (SiteStep.called 0 _ rfl) ?_
    refine Path.cons (SiteStep.called 1 _ rfl) ?_
    refine Path.cons (SiteStep.lock 0 _ rfl (by simp) ⟨rfl, rfl⟩) ?_
    refine Path.cons (SiteStep.act 0 _ (fun _ => ()) rfl (by simp)) ?_
    refine Path.cons (SiteStep.unlock 0 _ _ rfl) ?_
    refine Path.cons (SiteStep.lock 1 _ rfl (by simp) ⟨rfl, rfl⟩) ?_
    refine Path.cons (SiteStep.act 1 _ (fun _ => ()) rfl (by simp)) ?_
    refine Path.cons (SiteStep.unlock 1 _ _ rfl) ?_
    refine Path.cons (SiteStep.destroy 0 _ () rfl) ?_
    refine Path.cons (SiteStep.destroy 1 _ () rfl) ?_
    refine Path.cons (SiteStep.returned 0 _ rfl) ?_
    refine Path.cons (SiteStep.returned 1 _ rfl) ?_
    refine Path.cons (SiteStep.called 0 _ rfl) ?_
    refine Path.cons (SiteStep.called 1 _ rfl) ?_
    refine Path.cons (SiteStep.lock 1 _ rfl (by simp) ⟨rfl, rfl⟩) ?_
    refine Path.cons (SiteStep.act 1 _ (fun _ => ()) rfl (by simp)) ?_
    refine Path.cons (SiteStep.unlock 1 _ _ rfl) ?_
    refine Path.cons (SiteStep.lock 0 _ rfl (by simp) ⟨rfl, rfl⟩) ?_
    refine Path.cons (SiteStep.act 0 _ (fun _ => ()) rfl (by simp)) ?_
    refine Path.cons (SiteStep.unlock 0 _ _ rfl) ?_
    exact Path.nil _
  case refine_2 => exact ⟨rfl, rfl⟩

theorem equipment_routed_interleaved_rivalClients :
    exists s : Site MockIndustrialAdapter, s.scheduler.runtime.manager.RoutesEquipment := by
  rcases path_rivalClients with ⟨s, hpath, hfree⟩
  refine ⟨s, equipment_routed_interleaved MockIndustrialAdapter.contract ?_ hpath hfree⟩
  intro n a ha
  have hobeys : forall id, (rivalMock id).Obeys := fun id =>
    ⟨List.nodup_singleton "PUMP-001", List.nodup_nil, fun _ => rfl⟩
  simp only [rivalClients, List.mem_cons, List.not_mem_nil, or_false, SiteLabel.called.injEq,
    ManagerCall.addAdapter.injEq, Option.some.injEq, reduceCtorEq, and_false] at ha
  rcases ha with ⟨_, rfl⟩ | ⟨_, rfl⟩
  · exact ⟨hobeys "mock-a", rfl⟩
  · exact ⟨hobeys "mock-b", rfl⟩

end Icp
end VirtualFactory
