import VirtualFactory.Foundation.Transitions
import VirtualFactory.Industrial.EtherNetIp
import VirtualFactory.Industrial.Modbus
import VirtualFactory.Industrial.OpcUa
import VirtualFactory.Industrial.Operations
import VirtualFactory.Industrial.Rest

/-!
# The lifecycle of a protocol adapter

What an adapter is for, apart from its protocol: it is connected, it may fault, and it
is disconnected again.
-/

namespace VirtualFactory

open Foundation IndustrialAdapter

/-- The connection state, and whether a connect has succeeded since the adapter was
built or last disconnected. -/
structure Lifecycle where
  state : ConnectionState := .disconnected
  opened : Bool := false

namespace Lifecycle

inductive Step : Transitions Lifecycle AdapterAnswer
  | remains {l : Lifecycle} (h : l.state = .connected) :
      Step l (.connected true) l
  | opens {l : Lifecycle} (h : l.state ≠ .connected) :
      Step l (.connected true) ⟨.connected, true⟩
  | refuses {l : Lifecycle} (h : l.state ≠ .connected) :
      Step l (.connected false) { l with state := .faulted }
  | disconnects {l : Lifecycle} : Step l .disconnected {}
  | polls {l : Lifecycle} : Step l .polled l
  | pollFaults {l : Lifecycle} (h : l.state = .connected) :
      Step l .polled { l with state := .faulted }
  | executes {l : Lifecycle} {result : Option CommandResult}
      (h : l.state ≠ .connected -> forall r, r ∈ result -> r.accepted = false) :
      Step l (.executed result) l
  | executeFaults {l : Lifecycle} {result : Option CommandResult}
      (h : l.state = .connected) :
      Step l (.executed result) { l with state := .faulted }

/-- Whether a connect has succeeded since the last disconnect, after one more
answer. -/
def openedAfter (opened : Bool) : AdapterAnswer -> Bool
  | .connected ok => opened || ok
  | .disconnected => false
  | _ => opened

def openedSince (answers : List AdapterAnswer) : Bool :=
  answers.foldl openedAfter false

/-- A lifecycle is connected only when it has been opened, and disconnected only when
it has not. -/
structure Coherent (l : Lifecycle) : Prop where
  connected : l.state = .connected -> l.opened = true
  disconnected : l.state = .disconnected -> l.opened = false

theorem coherent_start : Coherent {} :=
  ⟨fun h => ConnectionState.noConfusion h, fun _ => rfl⟩

theorem coherent_step {l l' : Lifecycle} {answer : AdapterAnswer}
    (h : Step l answer l') (hl : l.Coherent) : l'.Coherent := by
  have hfaulted : Coherent { l with state := .faulted } :=
    ⟨fun h => ConnectionState.noConfusion h, fun h => ConnectionState.noConfusion h⟩
  cases h with
  | remains => exact hl
  | opens => exact ⟨fun _ => rfl, fun h => ConnectionState.noConfusion h⟩
  | refuses => exact hfaulted
  | disconnects => exact ⟨fun h => ConnectionState.noConfusion h, fun _ => rfl⟩
  | polls => exact hl
  | pollFaults => exact hfaulted
  | executes => exact hl
  | executeFaults => exact hfaulted

theorem opened_step {l l' : Lifecycle} {answer : AdapterAnswer}
    (h : Step l answer l') (hl : l.Coherent) :
    l'.opened = openedAfter l.opened answer := by
  cases h with
  | remains h => simp [openedAfter, hl.connected h]
  | opens => simp [openedAfter]
  | refuses => simp [openedAfter]
  | disconnects => rfl
  | polls => rfl
  | pollFaults => rfl
  | executes => rfl
  | executeFaults => rfl

theorem opened_of_path {l : Lifecycle} {answers : List AdapterAnswer}
    (h : Path Step {} answers l) : l.opened = openedSince answers := by
  have hfold := h.foldl_labels (fun _ _ _ => coherent_step)
    (fun _ _ _ => opened_step) coherent_start
  exact hfold

theorem Step.enters_connected {l l' : Lifecycle} {answer : AdapterAnswer}
    (h : Step l answer l') (hl : l.state ≠ .connected)
    (hl' : l'.state = .connected) : answer = .connected true := by
  cases h with
  | remains => rfl
  | opens => rfl
  | refuses => cases hl'
  | disconnects => cases hl'
  | polls => exact absurd hl' hl
  | pollFaults => cases hl'
  | executes => exact absurd hl' hl
  | executeFaults => cases hl'

theorem Step.enters_disconnected {l l' : Lifecycle} {answer : AdapterAnswer}
    (h : Step l answer l') (hl : l.state ≠ .disconnected)
    (hl' : l'.state = .disconnected) : answer = .disconnected := by
  cases h with
  | remains => exact absurd hl' hl
  | opens => cases hl'
  | refuses => cases hl'
  | disconnects => rfl
  | polls => exact absurd hl' hl
  | pollFaults => cases hl'
  | executes => exact absurd hl' hl
  | executeFaults => cases hl'

end Lifecycle

/-!
# Representation

Every adapter of a driver represents a state of the lifecycle, and its operations are
steps of it.
-/

namespace ProtocolAdapter

variable {config mapping session library : Type} [EquipmentMapping mapping]
  [ProtocolDriver config mapping session library]

structure Represents (cfg : config) (a : ProtocolAdapter config mapping session)
    (l : Lifecycle) : Prop where
  coherent : l.Coherent
  sameConfig : a.config = cfg
  sameState : a.link.connectionState = l.state
  bound : a.bound.map BoundEquipment.mapping =
    if l.opened then ProtocolDriver.equipment session cfg else []
  disconnected : l.state = .disconnected -> a.link.lastError = ""
  connected : l.state = .connected -> a.link.Up (ProtocolDriver.isOpen config mapping)
  faulted : l.state = .faulted -> a.link.Down

theorem Represents.fault {cfg : config}
    {a b : ProtocolAdapter config mapping session} {l : Lifecycle}
    (h : a.Represents cfg l) (hconfig : b.config = a.config)
    (hbound : b.bound.map BoundEquipment.mapping =
      a.bound.map BoundEquipment.mapping) (hdown : b.link.Down) :
    b.Represents cfg { l with state := .faulted } where
  coherent :=
    ⟨fun h => ConnectionState.noConfusion h, fun h => ConnectionState.noConfusion h⟩
  sameConfig := hconfig.trans h.sameConfig
  sameState := hdown.faulted
  bound := hbound.trans h.bound
  disconnected hstate := by cases hstate
  connected hstate := by cases hstate
  faulted _ := hdown

theorem Represents.stay {cfg : config}
    {a b : ProtocolAdapter config mapping session} {l : Lifecycle}
    (h : a.Represents cfg l) (hconfig : b.config = a.config)
    (hbound : b.bound.map BoundEquipment.mapping =
      a.bound.map BoundEquipment.mapping)
    (hup : b.link.Up (ProtocolDriver.isOpen config mapping))
    (hstate : l.state = .connected) : b.Represents cfg l where
  coherent := h.coherent
  sameConfig := hconfig.trans h.sameConfig
  sameState := hup.connected.trans hstate.symm
  bound := hbound.trans h.bound
  disconnected hother := by rw [hstate] at hother; cases hother
  connected _ := hup
  faulted hother := by rw [hstate] at hother; cases hother

theorem represents_connect (lib : library) {cfg : config}
    {a : ProtocolAdapter config mapping session} {l : Lifecycle}
    (h : a.Represents cfg l) :
    exists l', Lifecycle.Step l (.connected (ProtocolDriver.connect lib a).1) l' ∧
      (ProtocolDriver.connect lib a).2.Represents cfg l' := by
  by_cases hstate : a.link.connectionState = .connected
  · rw [ProtocolDriver.connect_of_connected lib a hstate]
    exact ⟨l, Lifecycle.Step.remains (h.sameState.symm.trans hstate), h⟩
  · have hl : l.state ≠ .connected := h.sameState ▸ hstate
    rcases ProtocolDriver.connect_cases lib a hstate with ⟨hok, ho⟩ | ⟨hok, hr⟩
    · rw [hok]
      refine ⟨⟨.connected, true⟩, Lifecycle.Step.opens hl, ?_⟩
      exact
        { coherent := ⟨fun _ => rfl, fun h => ConnectionState.noConfusion h⟩
          sameConfig := ho.sameConfig.trans h.sameConfig
          sameState := ho.up.connected
          bound := by
            rw [ho.bound, List.map_map, h.sameConfig]
            exact List.map_id _
          disconnected := fun hstate => ConnectionState.noConfusion hstate
          connected := fun _ => ho.up
          faulted := fun hstate => ConnectionState.noConfusion hstate }
    · rw [hok]
      exact ⟨_, Lifecycle.Step.refuses hl, h.fault hr.sameConfig (by rw [hr.bound])
        hr.down⟩

theorem represents_disconnect {cfg : config}
    {a : ProtocolAdapter config mapping session} {l : Lifecycle}
    (h : a.Represents cfg l) :
    (ProtocolDriver.disconnect a).Represents cfg {} := by
  rw [ProtocolDriver.disconnect_eq]
  exact
    { coherent := Lifecycle.coherent_start
      sameConfig := h.sameConfig
      sameState := rfl
      bound := rfl
      disconnected := fun _ => rfl
      connected := fun hstate => ConnectionState.noConfusion hstate
      faulted := fun hstate => ConnectionState.noConfusion hstate }

theorem Represents.poll_idle (lib : library) {cfg : config}
    {a : ProtocolAdapter config mapping session} {l : Lifecycle}
    (h : a.Represents cfg l) (hstate : a.link.connectionState ≠ .connected) :
    ProtocolDriver.poll lib a = a :=
  poll_of_not_connected lib hstate
    (fun hfaulted => (h.faulted (h.sameState.symm.trans hfaulted)).hasError)

theorem represents_poll (lib : library) {cfg : config}
    {a : ProtocolAdapter config mapping session} {l : Lifecycle}
    (h : a.Represents cfg l) :
    exists l', Lifecycle.Step l .polled l' ∧
      (ProtocolDriver.poll lib a).Represents cfg l' := by
  by_cases hstate : a.link.connectionState = .connected
  · have hl : l.state = .connected := h.sameState.symm.trans hstate
    have hconfig := (poll_of_connected lib hstate).2.1
    have hbound := bound_poll lib hstate
    rcases link_poll_of_up lib (h.connected hl) with ⟨_, hup⟩ | ⟨_, hdown⟩
    · exact ⟨l, Lifecycle.Step.polls, h.stay hconfig hbound hup hl⟩
    · exact ⟨_, Lifecycle.Step.pollFaults hl, h.fault hconfig hbound hdown⟩
  · rw [h.poll_idle lib hstate]
    exact ⟨l, Lifecycle.Step.polls, h⟩

theorem execute_idle (lib : library) {a : ProtocolAdapter config mapping session}
    (hstate : a.link.connectionState ≠ .connected)
    {equipmentId command : String} {parameter : Double}
    {r : CommandResult × ProtocolAdapter config mapping session}
    (hr : ProtocolDriver.execute lib a equipmentId command parameter = some r) :
    r.1.accepted = false ∧ r.2 = a := by
  rcases execute_cases lib a equipmentId command parameter with
    ⟨_, hnone⟩ | ⟨b, _, hsome⟩
  · rw [hnone] at hr
    cases hr
  · have hrun := ProtocolDriver.run_of_not_connected lib a.config command parameter
      b.mapping a.link hstate
    rw [hsome] at hr
    cases hr
    dsimp only
    rw [hrun.2]
    exact ⟨hrun.1, rfl⟩

theorem represents_execute (lib : library) {cfg : config}
    {a : ProtocolAdapter config mapping session} {l : Lifecycle}
    (h : a.Represents cfg l) (equipmentId command : String) (parameter : Double)
    {r : CommandResult × ProtocolAdapter config mapping session}
    (hr : ProtocolDriver.execute lib a equipmentId command parameter = some r) :
    exists l', Lifecycle.Step l (.executed (some r.1)) l' ∧
      r.2.Represents cfg l' := by
  by_cases hstate : a.link.connectionState = .connected
  · have hl : l.state = .connected := h.sameState.symm.trans hstate
    rcases execute_cases lib a equipmentId command parameter with
      ⟨_, hnone⟩ | ⟨b, _, hsome⟩
    · rw [hnone] at hr
      cases hr
    · rw [hsome] at hr
      cases hr
      rcases ProtocolDriver.run_ends lib a.config command parameter b.mapping
          a.link with hmoves | hdown
      · exact ⟨l, Lifecycle.Step.executes (fun hne => absurd hl hne),
          h.stay rfl rfl ((h.connected hl).moves hmoves) hl⟩
      · exact ⟨_, Lifecycle.Step.executeFaults hl, h.fault rfl rfl hdown⟩
  · rcases execute_idle lib hstate hr with ⟨hrejected, hsame⟩
    rw [hsame]
    refine ⟨l, Lifecycle.Step.executes (fun _ result hresult => ?_), h⟩
    cases hresult
    exact hrejected

/-- The adapters of a driver refine the lifecycle. -/
theorem refines_lifecycle (cfg : config) :
    (operations (ProtocolAdapter config mapping session)).Refines Lifecycle.Step
      (fun s l => s.1.Represents cfg l) := by
  rintro ⟨operation, lib⟩ ⟨a, ids⟩ l h
  cases operation with
  | connect => exact represents_connect lib h
  | disconnect => exact ⟨{}, Lifecycle.Step.disconnects, represents_disconnect h⟩
  | poll => exact represents_poll lib h
  | execute equipmentId command parameter =>
      cases hr : ProtocolDriver.execute lib a equipmentId command parameter with
      | none =>
          have hnone : IndustrialAdapter.execute lib a equipmentId command parameter
              ids = none := by
            simp only [IndustrialAdapter.execute, hr, Option.map_none]
          show exists l', Lifecycle.Step l (operate _ (a, ids)).1 l' ∧
            Represents cfg (operate _ (a, ids)).2.1 l'
          rw [operate_execute_of_none hnone]
          exact ⟨l, Lifecycle.Step.executes (fun _ r hr => by cases hr), h⟩
      | some r =>
          have hsome : IndustrialAdapter.execute lib a equipmentId command parameter
              ids = some (r.1, r.2, ids) := by
            simp only [IndustrialAdapter.execute, hr, Option.map_some]
          show exists l', Lifecycle.Step l (operate _ (a, ids)).1 l' ∧
            Represents cfg (operate _ (a, ids)).2.1 l'
          rw [operate_execute_of_some hsome]
          exact represents_execute lib h equipmentId command parameter hr
  | stimulate s => exact s.elim

/-!
# What the lifecycle promises
-/

/-- What holds of an adapter after a connect has succeeded since it was built or last
disconnected, and what holds before. -/
structure Lives (cfg : config) (opened : Bool)
    (a : ProtocolAdapter config mapping session) : Prop where
  disconnected : connectionState a = .disconnected ->
    exposed a = [] ∧ lastError a = ""
  connected : connectionState a = .connected ->
    lastError a = "" ∧ ProtocolDriver.isOpen config mapping a.link.session ∧
      a.exposedMappings = ProtocolDriver.equipment session cfg
  faulted : connectionState a = .faulted -> lastError a ≠ ""
  exposes : a.exposedMappings =
    if opened then ProtocolDriver.equipment session cfg else []
  exposedIds : exposedIds a = a.exposedMappings.map EquipmentMapping.id

/-- An adapter at which polls and commands change nothing: not even the session, with
the calls it has made, also for a machine that is kept from an earlier connection. -/
structure Idle (a : ProtocolAdapter config mapping session) : Prop where
  poll : forall lib ids, IndustrialAdapter.poll lib a ids = (a, ids)
  execute : forall lib equipmentId command parameter ids r,
    IndustrialAdapter.execute lib a equipmentId command parameter ids = some r ->
      r.1.accepted = false ∧ r.2 = (a, ids)
  run : forall lib command parameter (m : mapping),
    (ProtocolDriver.run lib a.config command parameter m a.link).1.accepted =
        false ∧
      (ProtocolDriver.run lib a.config command parameter m a.link).2 = a.link

/-- Every run of an adapter is a path of the lifecycle, and what follows from that. -/
structure FollowsLifecycle (cfg : config)
    (start : ProtocolAdapter config mapping session) : Prop where
  path : forall es ids, exists l,
    Path Lifecycle.Step {} ((operations _).trace es (start, ids)) l ∧
      connectionState ((operations _).run es (start, ids)).1 = l.state
  lives : forall es ids,
    Lives cfg (Lifecycle.openedSince ((operations _).trace es (start, ids)))
      ((operations _).run es (start, ids)).1
  entersConnected : forall es ids event,
    let s := (operations _).run es (start, ids)
    connectionState s.1 ≠ .connected ->
      connectionState (operate event s).2.1 = .connected ->
        event.operation = .connect
  entersDisconnected : forall es ids event,
    let s := (operations _).run es (start, ids)
    connectionState s.1 ≠ .disconnected ->
      connectionState (operate event s).2.1 = .disconnected ->
        event.operation = .disconnect
  idle : forall es ids,
    connectionState ((operations _).run es (start, ids)).1 ≠ .connected ->
      Idle ((operations _).run es (start, ids)).1

theorem Represents.lives {cfg : config}
    {a : ProtocolAdapter config mapping session} {l : Lifecycle}
    (h : a.Represents cfg l) : Lives cfg l.opened a := by
  have hexposes : a.exposedMappings =
      if l.opened then ProtocolDriver.equipment session cfg else [] := by
    cases hstate : a.link.connectionState with
    | disconnected =>
        have hopened := h.coherent.disconnected (h.sameState.symm.trans hstate)
        unfold exposedMappings exposedBound
        rw [if_pos hstate, hopened]
        rfl
    | connected =>
        rw [exposedMappings_of_not_disconnected (by simp [hstate]), h.bound]
    | faulted =>
        rw [exposedMappings_of_not_disconnected (by simp [hstate]), h.bound]
  exact
    { disconnected := by
        intro hstate
        refine ⟨?_, h.disconnected (h.sameState.symm.trans hstate)⟩
        have hnone : a.exposedBound = [] := if_pos hstate
        rw [IndustrialAdapter.exposed_of_map rfl, hnone, List.map_nil]
      connected := by
        intro hstate
        have hl := h.sameState.symm.trans hstate
        refine ⟨(h.connected hl).noError, (h.connected hl).sessionOpen, ?_⟩
        rw [hexposes, if_pos (h.coherent.connected hl)]
      faulted := fun hstate => (h.faulted (h.sameState.symm.trans hstate)).hasError
      exposes := hexposes
      exposedIds := exposedIds_eq a }

theorem Represents.idle {cfg : config}
    {a : ProtocolAdapter config mapping session} {l : Lifecycle}
    (h : a.Represents cfg l) (hstate : connectionState a ≠ .connected) : Idle a where
  poll lib ids := by
    show (ProtocolDriver.poll lib a, ids) = (a, ids)
    rw [h.poll_idle lib hstate]
  execute lib equipmentId command parameter ids result hresult := by
    rcases Option.map_eq_some_iff.mp hresult with ⟨r, hr, rfl⟩
    rcases execute_idle lib hstate hr with ⟨hrejected, hsame⟩
    exact ⟨hrejected, by rw [hsame]⟩
  run lib command parameter m :=
    ProtocolDriver.run_of_not_connected lib a.config command parameter m a.link hstate

theorem Represents.follows {cfg : config}
    {start : ProtocolAdapter config mapping session}
    (h : start.Represents cfg {}) : FollowsLifecycle cfg start := by
  have hrun := fun es ids => (refines_lifecycle cfg).run es
    (s := (start, ids)) (x := {}) h
  refine ⟨fun es ids => ?_, fun es ids => ?_, fun es ids event => ?_,
    fun es ids event => ?_, fun es ids hstate => ?_⟩
  · rcases hrun es ids with ⟨l, hpath, hl⟩
    exact ⟨l, hpath, hl.sameState⟩
  · rcases hrun es ids with ⟨l, hpath, hl⟩
    rw [← Lifecycle.opened_of_path hpath]
    exact hl.lives
  · intro s hs hs'
    rcases hrun es ids with ⟨l, _, hl⟩
    rcases refines_lifecycle cfg event s l hl with ⟨l', hstep, hl'⟩
    exact operation_of_connected (hstep.enters_connected
      (fun hstate => hs (hl.sameState.trans hstate)) (hl'.sameState.symm.trans hs'))
  · intro s hs hs'
    rcases hrun es ids with ⟨l, _, hl⟩
    rcases refines_lifecycle cfg event s l hl with ⟨l', hstep, hl'⟩
    exact operation_of_disconnected (hstep.enters_disconnected
      (fun hstate => hs (hl.sameState.trans hstate)) (hl'.sameState.symm.trans hs'))
  · rcases hrun es ids with ⟨l, _, hl⟩
    exact hl.idle hstate

theorem represents_create (id : String) (cfg : config) (s : session) :
    (create id cfg s : ProtocolAdapter config mapping session).Represents cfg {} where
  coherent := Lifecycle.coherent_start
  sameConfig := rfl
  sameState := rfl
  bound := rfl
  disconnected _ := rfl
  connected hstate := ConnectionState.noConfusion hstate
  faulted hstate := ConnectionState.noConfusion hstate

/-- The adapters of all four protocols follow the lifecycle from the moment they are
built. -/
theorem adapters_follow_lifecycle :
    (forall id cfg, FollowsLifecycle cfg (ModbusIndustrialAdapter.new id cfg)) ∧
      (forall id cfg, FollowsLifecycle cfg (OpcUaIndustrialAdapter.new id cfg)) ∧
      (forall id cfg, FollowsLifecycle cfg (RestIndustrialAdapter.new id cfg)) ∧
      (forall id cfg,
        FollowsLifecycle cfg (EtherNetIpIndustrialAdapter.new id cfg)) :=
  ⟨fun id cfg => (represents_create id cfg _).follows,
    fun id cfg => (represents_create id cfg _).follows,
    fun id cfg => (represents_create id cfg _).follows,
    fun id cfg => (represents_create id cfg _).follows⟩

end ProtocolAdapter

end VirtualFactory
