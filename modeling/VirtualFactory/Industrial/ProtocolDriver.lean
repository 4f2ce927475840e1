import VirtualFactory.Industrial.ProtocolAdapter

/-!
# Protocol drivers

What a protocol has to provide so that its adapter runs on the shared parts, and
what it has to promise: a session that is up stays up or its link is faulted, with a
reason that is not empty.
-/

namespace VirtualFactory

open Foundation

namespace Link

variable {session : Type}

structure Up (isOpen : session -> Prop) (link : Link session) : Prop where
  connected : link.connectionState = .connected
  noError : link.lastError = ""
  sessionOpen : isOpen link.session

structure Down (link : Link session) : Prop where
  faulted : link.connectionState = .faulted
  hasError : link.lastError ≠ ""

theorem down_enterFault (link : Link session) {reason : String}
    (h : reason ≠ "") : (link.enterFault reason).Down :=
  ⟨rfl, h⟩

theorem Down.not_connected {link : Link session} (h : link.Down) :
    link.connectionState ≠ .connected := by
  rw [h.faulted]
  intro hstate
  cases hstate

/-- The link is used, but neither its state nor its error changes. -/
structure Moves (isOpen : session -> Prop) (before after : Link session) : Prop where
  sameState : after.connectionState = before.connectionState
  sameError : after.lastError = before.lastError
  staysOpen : isOpen before.session -> isOpen after.session

/-- The link is used, and perhaps faulted. -/
def Ends (isOpen : session -> Prop) (before after : Link session) : Prop :=
  before.Moves isOpen after ∨ after.Down

theorem moves_refl (isOpen : session -> Prop) (link : Link session) :
    link.Moves isOpen link :=
  ⟨rfl, rfl, fun h => h⟩

theorem Up.moves {isOpen : session -> Prop} {before after : Link session}
    (h : before.Up isOpen) (hmoves : before.Moves isOpen after) : after.Up isOpen :=
  ⟨hmoves.sameState.trans h.connected, hmoves.sameError.trans h.noError,
    hmoves.staysOpen h.sessionOpen⟩

theorem Moves.onSession {answer : Type} {isOpen : session -> Prop}
    {before link : Link session} (h : before.Moves isOpen link)
    {f : session -> answer × session} (hf : forall s, isOpen s -> isOpen (f s).2) :
    before.Moves isOpen (Link.onSession f link).2 :=
  ⟨h.sameState, h.sameError, fun hopen => hf link.session (h.staysOpen hopen)⟩

theorem readKeeps_onSession {value : Type} {isOpen : session -> Prop}
    (before : Link session) {f : session -> Option value × session}
    (hf : forall s, isOpen s -> isOpen (f s).2) :
    ReadStep.ReadKeeps (before.Moves isOpen) (before.Ends isOpen)
      (Link.onSession f) :=
  fun _ hlink => ⟨fun _ => hlink.onSession hf, fun _ => Or.inl (hlink.onSession hf)⟩

theorem execute_ends {command : Type} {isOpen : session -> Prop}
    {link : Link session} {mapped : Option command}
    {write : command -> Link session -> CommandResult × Link session}
    (hwrite : forall c, link.Ends isOpen (write c link).2) :
    link.Ends isOpen (link.execute mapped write).2 := by
  have hrefl : link.Ends isOpen link := Or.inl (link.moves_refl isOpen)
  unfold execute runMapped
  cases link.connectionState with
  | disconnected => exact hrefl
  | faulted => exact hrefl
  | connected =>
      cases mapped with
      | none => exact hrefl
      | some c => exact hwrite c

end Link

namespace ProtocolAdapter

variable {config mapping session : Type} [EquipmentMapping mapping]

/-- A successful connect binds the configured machines to an open session. -/
structure Opened (equipment : config -> List mapping) (isOpen : session -> Prop)
    (a b : ProtocolAdapter config mapping session) : Prop where
  sameId : b.id = a.id
  sameConfig : b.config = a.config
  bound : b.bound = (equipment a.config).map BoundEquipment.bind
  up : b.link.Up isOpen

/-- A refused connect leaves the machines alone. -/
structure Refused (a b : ProtocolAdapter config mapping session) : Prop where
  sameId : b.id = a.id
  sameConfig : b.config = a.config
  bound : b.bound = a.bound
  down : b.link.Down

theorem refused_enterFault (a : ProtocolAdapter config mapping session) (s : session)
    {reason : String} (h : reason ≠ "") :
    Refused a ((a.withSession s).enterFault reason) :=
  ⟨rfl, rfl, rfl, Link.down_enterFault _ h⟩

theorem opened_enterConnected (equipment : config -> List mapping)
    {isOpen : session -> Prop} (a : ProtocolAdapter config mapping session)
    {s : session} (h : isOpen s) :
    Opened equipment isOpen a
      ((a.withSession s).bindEquipment (equipment a.config)).enterConnected :=
  ⟨rfl, rfl, rfl, rfl, rfl, h⟩

end ProtocolAdapter

namespace ProtocolAdapter

variable {config mapping session : Type} [EquipmentMapping mapping]

/-- What the preparation and the refreshes of a poll keep of the session is kept until
a refresh fails. -/
theorem link_pollWith {kept : session -> Prop} {ready : session -> session}
    {plan : mapping -> ReadPlan (Link session)}
    {a : ProtocolAdapter config mapping session}
    (hready : forall s, kept s -> kept (ready s))
    (hplan : forall m, (plan m).Keeps (a.link.Moves kept) (a.link.Ends kept))
    (hstate : a.link.connectionState = .connected)
    (fail : Link session -> Link session) :
    let pass := updateUntilFailure (BoundEquipment.refresh plan) a.bound
      { a.link with session := ready a.link.session }
    (pass.1 = true ∧ a.link.Moves kept (a.pollWith ready plan fail).link) ∨
      (pass.1 = false ∧
        exists link, a.link.Ends kept link ∧
          (a.pollWith ready plan fail).link = fail link) := by
  have hstart : a.link.Moves kept { a.link with session := ready a.link.session } :=
    ⟨rfl, rfl, hready a.link.session⟩
  have hrefresh : forall (b : BoundEquipment mapping) (link : Link session),
      a.link.Moves kept link ->
        Outcome (a.link.Moves kept) (a.link.Ends kept) (b.refresh plan link).1
          (b.refresh plan link).2.2 := fun b _ hlink =>
    ReadPlan.refresh_outcome (hplan b.mapping) b.inner hlink
  have houtcome := updateUntilFailure_outcome (fun b (_ : b ∈ a.bound) => hrefresh b) hstart
  intro pass
  unfold pollWith
  rw [if_neg (not_not.mpr hstate)]
  show (pass.1 = true ∧ a.link.Moves kept (if pass.1 then pass.2.2 else fail pass.2.2)) ∨
    (pass.1 = false ∧
      exists link, a.link.Ends kept link ∧
        (if pass.1 then pass.2.2 else fail pass.2.2) = fail link)
  cases hpass : pass.1 with
  | true => exact Or.inl ⟨rfl, houtcome.1 hpass⟩
  | false => exact Or.inr ⟨rfl, pass.2.2, houtcome.2 hpass, rfl⟩

theorem session_pollWith {kept : session -> Prop} {ready : session -> session}
    {plan : mapping -> ReadPlan (Link session)} {fail : Link session -> Link session}
    {a : ProtocolAdapter config mapping session}
    (hready : forall s, kept s -> kept (ready s))
    (hplan : forall b, b ∈ a.bound ->
      (plan b.mapping).Keeps (fun link => kept link.session) (fun link => kept link.session))
    (hfail : forall link, (fail link).session = link.session) (h : kept a.link.session) :
    kept (a.pollWith ready plan fail).link.session := by
  have hrefresh : forall b, b ∈ a.bound -> forall link : Link session, kept link.session ->
      Outcome (fun link => kept link.session) (fun link => kept link.session)
        (b.refresh plan link).1 (b.refresh plan link).2.2 := fun b hb _ hlink =>
    ReadPlan.refresh_outcome (hplan b hb) b.inner hlink
  have houtcome := updateUntilFailure_outcome hrefresh
    (s := { a.link with session := ready a.link.session }) (hready _ h)
  unfold pollWith
  split
  · split
    · exact h
    · exact h
  · dsimp only
    split
    · rename_i hpass
      exact houtcome.1 hpass
    · rename_i hpass
      rw [hfail]
      exact houtcome.2 (Bool.eq_false_of_not_eq_true hpass)

end ProtocolAdapter

/-- A protocol on the shared parts of the adapters. -/
class ProtocolDriver (config mapping session : Type) [EquipmentMapping mapping]
    (library : outParam Type) where
  protocol : String
  equipment : config -> List mapping
  isOpen : session -> Prop
  connect : library -> ProtocolAdapter config mapping session ->
    Bool × ProtocolAdapter config mapping session
  disconnect : ProtocolAdapter config mapping session ->
    ProtocolAdapter config mapping session
  poll : library -> ProtocolAdapter config mapping session ->
    ProtocolAdapter config mapping session
  execute : library -> ProtocolAdapter config mapping session ->
    (equipmentId command : String) -> Double ->
      Option (CommandResult × ProtocolAdapter config mapping session)
  close : session -> session
  prepare : config -> session -> session
  plan : library -> mapping -> ReadPlan (Link session)
  fail : Link session -> Link session
  run : library -> config -> (command : String) -> Double -> mapping ->
    Link session -> CommandResult × Link session
  disconnect_eq : forall a, disconnect a = a.disconnectWith close
  poll_eq : forall lib a, poll lib a = a.pollWith (prepare a.config) (plan lib) fail
  execute_eq : forall lib a equipmentId command parameter,
    execute lib a equipmentId command parameter =
      a.executeWith (run lib a.config command parameter) equipmentId
  connect_of_connected : forall lib a, a.link.connectionState = .connected ->
    connect lib a = (true, a)
  connect_cases : forall lib a, a.link.connectionState ≠ .connected ->
    ((connect lib a).1 = true ∧
        ProtocolAdapter.Opened equipment isOpen a (connect lib a).2) ∨
      ((connect lib a).1 = false ∧
        ProtocolAdapter.Refused a (connect lib a).2)
  prepare_isOpen : forall cfg s, isOpen s -> isOpen (prepare cfg s)
  plan_keeps : forall lib m (before : Link session),
    (plan lib m).Keeps (before.Moves isOpen) (before.Ends isOpen)
  fail_cases : forall link,
    (fail link).Down ∨ (fail link = link ∧ link.lastError ≠ "")
  run_of_not_connected : forall lib cfg command parameter m link,
    link.connectionState ≠ .connected ->
      (run lib cfg command parameter m link).1.accepted = false ∧
        (run lib cfg command parameter m link).2 = link
  run_ends : forall lib cfg command parameter m (link : Link session),
    link.Ends isOpen (run lib cfg command parameter m link).2

namespace ProtocolAdapter

open ProtocolDriver

variable {config mapping session library : Type} [EquipmentMapping mapping]
  [ProtocolDriver config mapping session library]

theorem connect_id (lib : library) (a : ProtocolAdapter config mapping session) :
    (connect lib a).2.id = a.id := by
  cases hstate : a.link.connectionState with
  | connected => rw [connect_of_connected lib a hstate]
  | disconnected =>
      rcases connect_cases lib a (by rw [hstate]; decide) with
        ⟨_, hopened⟩ | ⟨_, hrefused⟩
      · exact hopened.sameId
      · exact hrefused.sameId
  | faulted =>
      rcases connect_cases lib a (by rw [hstate]; decide) with
        ⟨_, hopened⟩ | ⟨_, hrefused⟩
      · exact hopened.sameId
      · exact hrefused.sameId

/-- Every adapter of a driver is an industrial adapter. -/
instance : IndustrialAdapter (ProtocolAdapter config mapping session) library
    Empty where
  adapterId a := a.id
  protocol _ := ProtocolDriver.protocol config mapping session
  connectionState a := a.link.connectionState
  lastError a := a.link.lastError
  connect lib a ids := ((connect lib a).1, (connect lib a).2, ids)
  disconnect _ a ids := (ProtocolDriver.disconnect a, ids)
  equipment a := a.equipment
  equipmentById a id := a.equipmentById id
  poll lib a ids := (ProtocolDriver.poll lib a, ids)
  execute lib a equipmentId command parameter ids :=
    (ProtocolDriver.execute lib a equipmentId command parameter).map
      (fun r => (r.1, r.2, ids))
  stimulate := Empty.elim
  id_connect lib a _ := connect_id lib a
  id_disconnect _ a _ := by
    rw [disconnect_eq]
    rfl
  id_poll lib a _ := by
    rw [poll_eq, pollWith_id]
  id_execute := by
    intro lib a equipmentId command parameter ids result h
    rcases Option.map_eq_some_iff.mp h with ⟨r, hr, rfl⟩
    rw [execute_eq] at hr
    exact executeWith_id hr
  id_stimulate s _ := s.elim

theorem exposedIds_eq (a : ProtocolAdapter config mapping session) :
    IndustrialAdapter.exposedIds a =
      a.exposedMappings.map EquipmentMapping.id := by
  have hexposed : IndustrialAdapter.exposed a =
      a.exposedBound.map (fun b => b.inner.view) :=
    IndustrialAdapter.exposed_of_map rfl
  unfold IndustrialAdapter.exposedIds exposedMappings
  rw [hexposed, List.map_map, List.map_map]
  exact List.map_congr_left (fun b _ => b.identity)

/-!
# What the operations do
-/

def pass (lib : library) (a : ProtocolAdapter config mapping session) :
    Bool × List (BoundEquipment mapping) × Link session :=
  updateUntilFailure (BoundEquipment.refresh (plan config lib)) a.bound
    { a.link with session := prepare mapping a.config a.link.session }

theorem poll_of_connected (lib : library)
    {a : ProtocolAdapter config mapping session}
    (h : a.link.connectionState = .connected) :
    (poll lib a).id = a.id ∧ (poll lib a).config = a.config ∧
      (poll lib a).bound =
        List.zipWith BoundEquipment.store a.bound
          (passReadings (plan config lib) a.bound
            { a.link with session := prepare mapping a.config a.link.session }) ∧
      (((pass lib a).1 = true ∧
          a.link.Moves (isOpen config mapping) (poll lib a).link) ∨
        ((pass lib a).1 = false ∧
          exists link : Link session,
            a.link.Ends (isOpen config mapping) link ∧
              (poll lib a).link = fail config mapping link)) := by
  have hlink := link_pollWith (prepare_isOpen a.config)
    (fun m => plan_keeps lib m a.link) h (fail config mapping)
  rw [poll_eq]
  refine ⟨?_, ?_, ?_, hlink⟩ <;> unfold pollWith <;> rw [if_neg (not_not.mpr h)]
  exact updateUntilFailure_refresh _ _ _

theorem fail_spec (link : Link session) :
    (fail config mapping link).Down ∨
      (fail config mapping link = link ∧ link.lastError ≠ "") :=
  fail_cases link

/-- A poll leaves a link that is up either up or faulted, as its refreshes end. -/
theorem link_poll_of_up (lib : library) {a : ProtocolAdapter config mapping session}
    (h : a.link.Up (isOpen config mapping)) :
    ((pass lib a).1 = true ∧ (poll lib a).link.Up (isOpen config mapping)) ∨
      ((pass lib a).1 = false ∧ (poll lib a).link.Down) := by
  rcases (poll_of_connected lib h.connected).2.2.2 with
    ⟨hpass, hmoves⟩ | ⟨hpass, link, hends, hlink⟩
  · exact Or.inl ⟨hpass, h.moves hmoves⟩
  · refine Or.inr ⟨hpass, ?_⟩
    rw [hlink]
    rcases @fail_spec config mapping _ _ _ _ link with hdown | ⟨hsame, herror⟩
    · exact hdown
    · rw [hsame]
      rcases hends with hmoves | hdown
      · exact absurd (hmoves.sameError.trans h.noError) herror
      · exact hdown

theorem connectionState_poll (lib : library)
    {a : ProtocolAdapter config mapping session}
    (h : a.link.connectionState = .connected) :
    (poll lib a).link.connectionState ≠ .disconnected := by
  have hmoved : forall link : Link session,
      a.link.Moves (isOpen config mapping) link ->
        link.connectionState ≠ .disconnected := by
    intro link hmoves hstate
    rw [hmoves.sameState, h] at hstate
    cases hstate
  have hdowned : forall link : Link session, link.Down ->
      link.connectionState ≠ .disconnected := by
    intro link hdown hstate
    rw [hdown.faulted] at hstate
    cases hstate
  rcases (poll_of_connected lib h).2.2.2 with
    ⟨_, hmoves⟩ | ⟨_, link, hends, hlink⟩
  · exact hmoved _ hmoves
  · rw [hlink]
    rcases @fail_spec config mapping _ _ _ _ link with hdown | ⟨hsame, _⟩
    · exact hdowned _ hdown
    · rw [hsame]
      rcases hends with hmoves | hdown
      · exact hmoved _ hmoves
      · exact hdowned _ hdown

theorem bound_poll (lib : library) {a : ProtocolAdapter config mapping session}
    (h : a.link.connectionState = .connected) :
    (poll lib a).bound.map BoundEquipment.mapping =
      a.bound.map BoundEquipment.mapping := by
  rw [(poll_of_connected lib h).2.2.1]
  exact map_mapping_zipWith_store (length_passReadings _ _ _)

instance : LawfulPoll (ProtocolAdapter config mapping session) where
  poll_exposedIds lib a ids h := by
    have hbefore : a.link.connectionState = .connected := h
    have hafter := connectionState_poll lib hbefore
    rw [exposedIds_eq a, exposedMappings_of_not_disconnected (by simp [hbefore])]
    refine (exposedIds_eq (poll lib a)).trans ?_
    rw [exposedMappings_of_not_disconnected hafter, bound_poll lib hbefore]
  poll_connectionState lib a ids h := connectionState_poll lib h
  poll_local lib a _ := ⟨poll lib a, ∅, fun ids => by
    rw [Finset.sdiff_empty]
    rfl⟩

theorem poll_of_not_connected (lib : library)
    {a : ProtocolAdapter config mapping session}
    (h : a.link.connectionState ≠ .connected)
    (hfaulted : a.link.connectionState = .faulted -> a.link.lastError ≠ "") :
    poll lib a = a := by
  rw [poll_eq]
  unfold pollWith
  rw [if_pos h, if_neg (fun hboth => hfaulted hboth.1 hboth.2)]

theorem execute_cases (lib : library) (a : ProtocolAdapter config mapping session)
    (equipmentId command : String) (parameter : Double) :
    (a.boundById equipmentId = none ∧
        execute lib a equipmentId command parameter = none) ∨
      exists b : BoundEquipment mapping, a.boundById equipmentId = some b ∧
        execute lib a equipmentId command parameter =
          some ((run lib a.config command parameter b.mapping a.link).1,
            { a with
              link := (run lib a.config command parameter b.mapping a.link).2 }) := by
  rw [execute_eq]
  unfold executeWith
  cases a.boundById equipmentId with
  | none => exact Or.inl ⟨rfl, rfl⟩
  | some b => exact Or.inr ⟨b, rfl, rfl⟩

end ProtocolAdapter

end VirtualFactory
