import VirtualFactory.Foundation.Usage
import VirtualFactory.Industrial.Footprint

/-!
# The use of a library

A session holds at most one handle of its library.  Whatever operations an adapter runs,
every handle it creates it releases, it uses none that it has released, and it asks only
for what its configuration maps.
-/

namespace VirtualFactory

open Foundation
open IndustrialAdapter (operate operations operate_execute_of_none operate_execute_of_some)

/-- The calls of a session, and how its library is to be used.  A session is ready when
it has been configured for requests. -/
class LibraryCalls (config mapping session : Type) (library : outParam Type)
    [EquipmentMapping mapping] [ProtocolDriver config mapping session library]
    (call : outParam Type) where
  usage : library -> config -> Usage call
  calls : session -> List call
  holding : session -> Bool
  ready : config -> session -> Prop

namespace LibraryCalls

variable {config mapping session library call : Type} [EquipmentMapping mapping]
  [ProtocolDriver config mapping session library]
  [LibraryCalls config mapping session library call]

variable (mapping) in
/-- The session has used its library as it should, and knows whether it holds a handle. -/
def Kept (lib : library) (cfg : config) (s : session) : Prop :=
  (usage mapping session lib cfg).Holds (calls config mapping s) (holding config mapping s)

variable (mapping) in
def Ready (lib : library) (cfg : config) (s : session) : Prop :=
  Kept mapping lib cfg s ∧ ready mapping cfg s

end LibraryCalls

open LibraryCalls

/-- A driver uses its library as it should. -/
class LawfulUse (config mapping session : Type) {library : Type}
    [EquipmentMapping mapping] [ProtocolDriver config mapping session library]
    {call : Type} [LibraryCalls config mapping session library call] : Prop where
  close_kept : forall (lib : library) (cfg : config) (s : session),
    Kept mapping lib cfg s -> Kept mapping lib cfg (ProtocolDriver.close config mapping s) ∧
      holding config mapping (ProtocolDriver.close config mapping s) = false
  prepare_ready : forall (lib : library) (cfg : config) (s : session),
    Ready mapping lib cfg s ->
      Ready mapping lib cfg (ProtocolDriver.prepare mapping cfg s)
  connect_kept : forall (lib : library) (a : ProtocolAdapter config mapping session),
    a.link.connectionState ≠ .connected -> Kept mapping lib a.config a.link.session ->
      Kept mapping lib a.config (ProtocolDriver.connect lib a).2.link.session ∧
        ((ProtocolDriver.connect lib a).1 = true ->
          ready mapping a.config (ProtocolDriver.connect lib a).2.link.session)
  plan_ready : forall (lib : library) (cfg : config) (m : mapping),
    m ∈ ProtocolDriver.equipment session cfg ->
      (ProtocolDriver.plan config lib m).Keeps
        (fun link : Link session => Ready mapping lib cfg link.session)
        (fun link => Ready mapping lib cfg link.session)
  fail_session : forall link : Link session,
    (ProtocolDriver.fail config mapping link).session = link.session
  run_ready : forall (lib : library) (cfg : config) (command : String)
    (parameter : Double) (m : mapping) (link : Link session),
    m ∈ ProtocolDriver.equipment session cfg -> Ready mapping lib cfg link.session ->
      Ready mapping lib cfg (ProtocolDriver.run lib cfg command parameter m link).2.session

namespace ProtocolAdapter

open ProtocolDriver LawfulUse

variable {config mapping session library call : Type} [EquipmentMapping mapping]
  [ProtocolDriver config mapping session library]
  [LibraryCalls config mapping session library call]

/-- An adapter that uses its library as it should.  It is ready while it is connected, and
holds nothing while it is disconnected. -/
structure InUse (lib : library) (a : ProtocolAdapter config mapping session) : Prop where
  kept : Kept mapping lib a.config a.link.session
  ready : a.link.connectionState = .connected ->
    LibraryCalls.ready mapping a.config a.link.session
  idle : a.link.connectionState = .disconnected ->
    holding config mapping a.link.session = false

omit [LibraryCalls config mapping session library call] in
theorem mem_equipment_of_lived {a : ProtocolAdapter config mapping session} (h : a.Lived)
    {b : BoundEquipment mapping} (hb : b ∈ a.bound) :
    b.mapping ∈ ProtocolDriver.equipment session a.config := by
  rcases h with ⟨l, hl⟩
  have hmem : b.mapping ∈ a.bound.map BoundEquipment.mapping := List.mem_map_of_mem hb
  rw [hl.bound] at hmem
  split at hmem
  · exact hmem
  · cases hmem

omit [ProtocolDriver config mapping session library]
  [LibraryCalls config mapping session library call] in
theorem mem_bound_of_boundById {a : ProtocolAdapter config mapping session}
    {equipmentId : String} {b : BoundEquipment mapping}
    (h : a.boundById equipmentId = some b) : b ∈ a.bound := by
  have hexposed : b ∈ a.exposedBound := List.mem_of_find?_eq_some h
  unfold exposedBound at hexposed
  split at hexposed
  · cases hexposed
  · exact hexposed

variable [LawfulUse config mapping session]

theorem inUse_connect {lib : library} {a : ProtocolAdapter config mapping session}
    (h : InUse lib a) : InUse lib (connect lib a).2 := by
  by_cases hstate : a.link.connectionState = .connected
  · rw [connect_of_connected lib a hstate]
    exact h
  · rcases connect_kept lib a hstate h.kept with ⟨hkept, hready⟩
    rcases connect_cases lib a hstate with ⟨hok, hopened⟩ | ⟨hok, hrefused⟩
    · rw [← hopened.sameConfig] at hkept hready
      refine ⟨hkept, fun _ => hready hok, ?_⟩
      intro hdisconnected
      rw [hopened.up.connected] at hdisconnected
      cases hdisconnected
    · rw [← hrefused.sameConfig] at hkept
      refine ⟨hkept, ?_, ?_⟩
      · intro hconnected
        exact absurd hconnected hrefused.down.not_connected
      · intro hdisconnected
        rw [hrefused.down.faulted] at hdisconnected
        cases hdisconnected

theorem inUse_disconnect {lib : library} {a : ProtocolAdapter config mapping session}
    (h : InUse lib a) : InUse lib (disconnect a) := by
  rcases close_kept lib a.config a.link.session h.kept with ⟨hkept, hnothing⟩
  rw [disconnect_eq]
  exact ⟨hkept, fun hconnected => ConnectionState.noConfusion hconnected,
    fun _ => hnothing⟩

theorem inUse_poll {lib : library} {a : ProtocolAdapter config mapping session}
    (h : InUse lib a) (hlived : a.Lived) : InUse lib (poll lib a) := by
  by_cases hstate : a.link.connectionState = .connected
  · have hready : Ready mapping lib a.config (poll lib a).link.session := by
      rw [poll_eq]
      apply session_pollWith (prepare_ready lib a.config)
      · intro b hb
        exact plan_ready lib a.config b.mapping (mem_equipment_of_lived hlived hb)
      · exact fail_session call
      · exact ⟨h.kept, h.ready hstate⟩
    have hconfig := (poll_of_connected lib hstate).2.1
    rw [← hconfig] at hready
    exact ⟨hready.1, fun _ => hready.2,
      fun hdisconnected => absurd hdisconnected (connectionState_poll lib hstate)⟩
  · rcases hlived with ⟨l, hl⟩
    rw [hl.poll_idle lib hstate]
    exact h

theorem inUse_execute {lib : library} {a : ProtocolAdapter config mapping session}
    (h : InUse lib a) (hlived : a.Lived) {b : BoundEquipment mapping} (hb : b ∈ a.bound)
    (command : String) (parameter : Double) :
    InUse lib
      { a with link := (run lib a.config command parameter b.mapping a.link).2 } := by
  by_cases hstate : a.link.connectionState = .connected
  · have hready := run_ready lib a.config command parameter b.mapping a.link
      (mem_equipment_of_lived hlived hb) ⟨h.kept, h.ready hstate⟩
    refine ⟨hready.1, fun _ => hready.2, ?_⟩
    intro hdisconnected
    rcases run_ends lib a.config command parameter b.mapping a.link with hmoves | hdown
    · cases (hmoves.sameState.symm.trans hdisconnected).symm.trans hstate
    · cases hdown.faulted.symm.trans hdisconnected
  · rw [(run_of_not_connected lib a.config command parameter b.mapping a.link hstate).2]
    exact h

theorem inUse_operate {lib : library} {event : AdapterEvent library Empty}
    (hevent : event.device = lib) {a : ProtocolAdapter config mapping session}
    (ids : ClientIds) (h : InUse lib a) (hlived : a.Lived) :
    InUse lib (operate event (a, ids)).2.1 := by
  rcases event with ⟨operation, d⟩
  cases hevent
  cases operation with
  | connect => exact inUse_connect h
  | disconnect => exact inUse_disconnect h
  | poll => exact inUse_poll h hlived
  | execute equipmentId command parameter =>
      rcases execute_cases d a equipmentId command parameter with
        ⟨_, hnone⟩ | ⟨b, hb, hsome⟩
      · rw [operate_execute_of_none
          (show IndustrialAdapter.execute d a equipmentId command parameter ids = none from
            congrArg (Option.map fun r => (r.1, r.2, ids)) hnone)]
        exact h
      · rw [operate_execute_of_some
          (show IndustrialAdapter.execute d a equipmentId command parameter ids = some _ from
            congrArg (Option.map fun r => (r.1, r.2, ids)) hsome)]
        exact inUse_execute h hlived (mem_bound_of_boundById hb) command parameter
  | stimulate s => exact s.elim

/-- What the use of a library comes to: every call is in its place and permitted by the
configuration, a handle that is created is released once or is the one that is held, a
disconnected adapter holds none, and the destructor leaves none behind. -/
structure UsesProperly (lib : library) (a : ProtocolAdapter config mapping session) :
    Prop where
  proper : (usage mapping session lib a.config).Proper
    (calls config mapping a.link.session)
  balanced :
    (usage mapping session lib a.config).count .acquire
        (calls config mapping a.link.session) =
      (usage mapping session lib a.config).count .release
          (calls config mapping a.link.session) +
        (holding config mapping a.link.session).toNat
  idle : a.link.connectionState = .disconnected ->
    holding config mapping a.link.session = false
  destroyed :
    (usage mapping session lib a.config).count .acquire
        (calls config mapping (close config mapping a.link.session)) =
      (usage mapping session lib a.config).count .release
        (calls config mapping (close config mapping a.link.session))

theorem InUse.usesProperly {lib : library} {a : ProtocolAdapter config mapping session}
    (h : InUse lib a) : UsesProperly lib a := by
  have hbalanced := h.kept.proper.balanced
  rw [h.kept.agrees] at hbalanced
  rcases close_kept lib a.config a.link.session h.kept with ⟨hclosed, hnothing⟩
  unfold Kept at hclosed
  rw [hnothing] at hclosed
  exact ⟨h.kept.proper, hbalanced, h.idle, hclosed.nothing_left⟩

/-- Whatever operations run over one library, which may answer as it likes, the adapter
uses it properly. -/
def AlwaysUsesProperly (a : ProtocolAdapter config mapping session) : Prop :=
  forall (lib : library) (es : List (AdapterEvent library Empty)) (ids : ClientIds),
    (forall event, event ∈ es -> event.device = lib) ->
      UsesProperly lib
        ((operations (ProtocolAdapter config mapping session)).run es (a, ids)).1

theorem alwaysUsesProperly {a : ProtocolAdapter config mapping session} (hlived : a.Lived)
    (h : forall lib : library, InUse lib a) : AlwaysUsesProperly a := by
  intro lib es ids hes
  have hstep : forall (event : AdapterEvent library Empty)
      (s : ProtocolAdapter config mapping session × ClientIds), event.device = lib ->
        (s.1.Lived ∧ InUse lib s.1) ->
          (((operations (ProtocolAdapter config mapping session)).step event s).2.1.Lived ∧
            InUse lib
              ((operations (ProtocolAdapter config mapping session)).step event s).2.1) :=
    fun event s hevent hs =>
      ⟨(lived_operate event s.2 hs.1).1, inUse_operate hevent s.2 hs.2 hs.1⟩
  have hrun := Machine.run_invariant hstep ⟨hlived, h lib⟩
    (Machine.admissible_of_forall (a, ids) hes)
  exact hrun.2.usesProperly

end ProtocolAdapter

end VirtualFactory
