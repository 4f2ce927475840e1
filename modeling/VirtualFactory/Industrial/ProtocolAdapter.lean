import VirtualFactory.Foundation.Loops
import VirtualFactory.Industrial.IndustrialAdapter

/-!
# What the protocol adapters share

Every protocol adapter keeps a link to its source and binds one machine for each
configured mapping.  The parts of the adapters that differ in nothing but their
session are here, with the session, the mapping and the texts as parameters.
-/

namespace VirtualFactory

open Foundation

/-- A configured machine: its identity, and the names of its mapped commands. -/
class EquipmentMapping (mapping : Type) where
  id : mapping -> String
  type : mapping -> String
  capabilities : mapping -> List String
  commands : mapping -> List String

/-- The checks every bound machine makes before it runs a mapped command. -/
def runMapped {command state : Type} (connectionState : ConnectionState)
    (mapped : Option command) (write : command -> state -> CommandResult × state)
    (s : state) : CommandResult × state :=
  match connectionState with
  | .faulted => (⟨false, "communication fault"⟩, s)
  | .disconnected => (⟨false, "adapter not connected"⟩, s)
  | .connected =>
      match mapped with
      | none => (⟨false, "unknown command"⟩, s)
      | some c => write c s

theorem runMapped_of_not_connected {command state : Type}
    {connectionState : ConnectionState} (h : connectionState ≠ .connected)
    (mapped : Option command) (write : command -> state -> CommandResult × state)
    (s : state) :
    (runMapped connectionState mapped write s).1.accepted = false ∧
      (runMapped connectionState mapped write s).2 = s := by
  cases connectionState with
  | disconnected => exact ⟨rfl, rfl⟩
  | connected => exact absurd rfl h
  | faulted => exact ⟨rfl, rfl⟩

structure Link (session : Type) where
  connectionState : ConnectionState := .disconnected
  lastError : String := ""
  session : session

namespace Link

variable {session : Type}

def enterFault (link : Link session) (reason : String) : Link session :=
  { link with connectionState := .faulted, lastError := reason }

def onSession {answer : Type} (f : session -> answer × session)
    (link : Link session) : answer × Link session :=
  ((f link.session).1, { link with session := (f link.session).2 })

/-- The answer of a command that has written its value, or failed to. -/
def written (failure : String) (r : Bool × Link session) :
    CommandResult × Link session :=
  if r.1 then (⟨true, "written"⟩, r.2) else (⟨false, failure⟩, r.2)

@[simp] theorem written_snd (failure : String) (r : Bool × Link session) :
    (written failure r).2 = r.2 := by
  unfold written
  split <;> rfl

theorem written_of_accepted {failure : String} {r : Bool × Link session}
    (h : (written failure r).1.accepted = true) : r.1 = true := by
  unfold written at h
  split at h
  · assumption
  · cases h

def execute {command : Type} (link : Link session) (mapped : Option command)
    (write : command -> Link session -> CommandResult × Link session) :
    CommandResult × Link session :=
  runMapped link.connectionState mapped write link

theorem execute_of_accepted {command : Type} {link : Link session}
    {mapped : Option command}
    {write : command -> Link session -> CommandResult × Link session}
    (h : (link.execute mapped write).1.accepted = true) :
    link.connectionState = .connected ∧
      exists c, mapped = some c ∧ link.execute mapped write = write c link := by
  unfold execute runMapped at h ⊢
  cases hstate : link.connectionState with
  | disconnected =>
      rw [hstate] at h
      cases h
  | faulted =>
      rw [hstate] at h
      cases h
  | connected =>
      rw [hstate] at h
      cases mapped with
      | none => cases h
      | some c => exact ⟨rfl, c, rfl, rfl⟩

end Link

/-!
# Refreshing one machine

A refresh reads the mapped signals one after the other and stores every value as it
arrives.  The first failing read ends it.
-/

/-- One read of a refresh: the signal it updates and how it reads it. -/
inductive ReadStep (state : Type) where
  | telemetry (name unit : String) (read : state -> Option Double × state)
  | state (read : state -> Option Bool × state)
  | fault (read : state -> Option Bool × state)

namespace ReadStep

variable {state : Type}

def perform : ReadStep state -> state -> Option Reading × state
  | telemetry name unit read, s =>
      ((read s).1.map (fun value => .telemetry name value unit), (read s).2)
  | .state read, s => ((read s).1.map .state, (read s).2)
  | fault read, s => ((read s).1.map .fault, (read s).2)

def refreshStep (step : ReadStep state) (current : GenericEquipment × state) :
    Bool × GenericEquipment × state :=
  match step.perform current.2 with
  | (some r, s) => (true, current.1.applyReading r, s)
  | (none, s) => (false, current.1, s)

def refresh (steps : List (ReadStep state)) (e : GenericEquipment) (s : state) :
    Bool × GenericEquipment × state :=
  untilFailure refreshStep steps (e, s)

/-- The values a refresh reads before it ends. -/
def readings : List (ReadStep state) -> state -> List Reading
  | [], _ => []
  | step :: rest, s =>
      match step.perform s with
      | (some r, s') => r :: readings rest s'
      | (none, _) => []

theorem refresh_cons (step : ReadStep state) (rest : List (ReadStep state))
    (e : GenericEquipment) (s : state) :
    refresh (step :: rest) e s =
      match step.perform s with
      | (some r, s') => refresh rest (e.applyReading r) s'
      | (none, s') => (false, e, s') := by
  rcases hperform : step.perform s with ⟨value, s'⟩
  cases value with
  | none =>
      have hbody : refreshStep step (e, s) = (false, e, s') := by
        simp [refreshStep, hperform]
      exact untilFailure_cons_of_false hbody rest
  | some r =>
      have hbody : refreshStep step (e, s) = (true, e.applyReading r, s') := by
        simp [refreshStep, hperform]
      exact untilFailure_cons_of_true hbody rest

theorem refresh_equipment (steps : List (ReadStep state)) (e : GenericEquipment)
    (s : state) :
    (refresh steps e s).2.1 =
      (readings steps s).foldl GenericEquipment.applyReading e := by
  induction steps generalizing e s with
  | nil => rfl
  | cons step rest ih =>
      rw [refresh_cons, readings]
      rcases step.perform s with ⟨value, s'⟩
      cases value with
      | none => rfl
      | some r => exact ih (e.applyReading r) s'

/-- The outcome of a read in a state with the invariant. -/
def Keeps (invariant failed : state -> Prop) (step : ReadStep state) : Prop :=
  forall s : state, invariant s ->
    Outcome invariant failed (step.perform s).1.isSome (step.perform s).2

/-- What `Keeps` says of a step, for the function that reads it. -/
def ReadKeeps {value : Type} (invariant failed : state -> Prop)
    (read : state -> Option value × state) : Prop :=
  forall s : state, invariant s ->
    Outcome invariant failed (read s).1.isSome (read s).2

theorem readKeeps_self {value : Type} {kept : state -> Prop}
    {read : state -> Option value × state} (h : forall s, kept s -> kept (read s).2) :
    ReadKeeps kept kept read :=
  fun s hs => ⟨fun _ => h s hs, fun _ => h s hs⟩

theorem refresh_outcome {invariant failed : state -> Prop}
    {steps : List (ReadStep state)}
    (hsteps : forall step, step ∈ steps -> step.Keeps invariant failed)
    (e : GenericEquipment) {s : state} (hs : invariant s) :
    Outcome invariant failed (refresh steps e s).1 (refresh steps e s).2.2 := by
  induction steps generalizing e s with
  | nil => exact ⟨fun _ => hs, fun h => Bool.noConfusion h⟩
  | cons step rest ih =>
      have hhead := hsteps step List.mem_cons_self s hs
      have hrest := fun d hd => hsteps d (List.mem_cons_of_mem step hd)
      rw [refresh_cons]
      rcases hperform : step.perform s with ⟨value, s'⟩
      rw [hperform] at hhead
      cases value with
      | none => exact hhead
      | some r => exact ih hrest (e.applyReading r) (hhead.1 rfl)

structure TelemetryRead (state : Type) where
  name : String
  unit : String
  read : state -> Option Double × state

/-- The reads of a machine: its telemetry points in order, and then its running state
and its machine fault if they are mapped. -/
def signalSteps (telemetry : List (TelemetryRead state))
    (running fault : Option (state -> Option Bool × state)) :
    List (ReadStep state) :=
  telemetry.map (fun p => .telemetry p.name p.unit p.read) ++
    (running.toList.map .state ++ fault.toList.map .fault)

theorem signalSteps_keep {invariant failed : state -> Prop}
    {telemetry : List (TelemetryRead state)}
    {running fault : Option (state -> Option Bool × state)}
    (htelemetry : forall p, p ∈ telemetry -> ReadKeeps invariant failed p.read)
    (hrunning : forall read, read ∈ running -> ReadKeeps invariant failed read)
    (hfault : forall read, read ∈ fault -> ReadKeeps invariant failed read) :
    forall step, step ∈ signalSteps telemetry running fault ->
      step.Keeps invariant failed := by
  intro step hstep s hs
  rcases List.mem_append.mp hstep with hmem | hmem
  · rcases List.mem_map.mp hmem with ⟨p, hp, rfl⟩
    simpa [perform] using htelemetry p hp s hs
  · rcases List.mem_append.mp hmem with hmem | hmem
    · rcases List.mem_map.mp hmem with ⟨read, hread, rfl⟩
      simpa [perform] using hrunning read (Option.mem_toList.mp hread) s hs
    · rcases List.mem_map.mp hmem with ⟨read, hread, rfl⟩
      simpa [perform] using hfault read (Option.mem_toList.mp hread) s hs

end ReadStep

/-- What a refresh does before its reads: it fails, or it knows the reads. -/
abbrev ReadPlan (state : Type) :=
  state -> Option (List (ReadStep state)) × state

namespace ReadPlan

variable {state : Type}

/-- The reads of most adapters are known in advance. -/
def fixed (steps : List (ReadStep state)) : ReadPlan state :=
  fun s => (some steps, s)

def refresh (plan : ReadPlan state) (e : GenericEquipment) (s : state) :
    Bool × GenericEquipment × state :=
  match plan s with
  | (none, s') => (false, e, s')
  | (some steps, s') => ReadStep.refresh steps e s'

def readings (plan : ReadPlan state) (s : state) : List Reading :=
  match plan s with
  | (none, _) => []
  | (some steps, s') => ReadStep.readings steps s'

theorem refresh_equipment (plan : ReadPlan state) (e : GenericEquipment)
    (s : state) :
    (plan.refresh e s).2.1 =
      (plan.readings s).foldl GenericEquipment.applyReading e := by
  unfold refresh readings
  rcases plan s with ⟨steps, s'⟩
  cases steps with
  | none => rfl
  | some steps => exact ReadStep.refresh_equipment steps e s'

/-- What a plan ends with: a failure, or reads that keep the invariant. -/
def PlanOutcome (invariant failed : state -> Prop) :
    Option (List (ReadStep state)) × state -> Prop
  | (none, s) => failed s
  | (some steps, s) =>
      invariant s ∧
        forall step, step ∈ steps -> ReadStep.Keeps invariant failed step

def Keeps (invariant failed : state -> Prop) (plan : ReadPlan state) : Prop :=
  forall s : state, invariant s -> PlanOutcome invariant failed (plan s)

theorem refresh_outcome {invariant failed : state -> Prop}
    {plan : ReadPlan state} (hplan : plan.Keeps invariant failed)
    (e : GenericEquipment) {s : state} (hs : invariant s) :
    Outcome invariant failed (plan.refresh e s).1 (plan.refresh e s).2.2 := by
  have h := hplan s hs
  unfold refresh
  rcases hp : plan s with ⟨steps, s'⟩
  rw [hp] at h
  cases steps with
  | none => exact ⟨fun hok => Bool.noConfusion hok, fun _ => h⟩
  | some steps => exact ReadStep.refresh_outcome h.2 e h.1

theorem keeps_fixed {invariant failed : state -> Prop}
    {steps : List (ReadStep state)}
    (hsteps : forall step, step ∈ steps -> step.Keeps invariant failed) :
    (fixed steps).Keeps invariant failed :=
  fun _ hs => ⟨hs, hsteps⟩

end ReadPlan

/-!
# Bound equipment
-/

/-- A machine as it is bound: nothing has been read for it yet. -/
def freshEquipment {mapping : Type} [EquipmentMapping mapping] (m : mapping) :
    GenericEquipment :=
  GenericEquipment.bind (EquipmentMapping.id m) (EquipmentMapping.type m)
    (EquipmentMapping.capabilities m) (EquipmentMapping.commands m)

/-- A machine bound to its mapping.  Nothing but readings changes it after it has
been bound. -/
structure BoundEquipment (mapping : Type) [EquipmentMapping mapping] where
  mapping : mapping
  inner : GenericEquipment
  history : exists rs : List Reading,
    inner = rs.foldl GenericEquipment.applyReading (freshEquipment mapping)

namespace BoundEquipment

variable {mapping state : Type} [EquipmentMapping mapping]

theorem identity (b : BoundEquipment mapping) :
    b.inner.id = EquipmentMapping.id b.mapping := by
  rcases b.history with ⟨rs, hrs⟩
  rw [hrs, GenericEquipment.foldl_applyReading_id]
  exact GenericEquipment.bind_id _ _ _ _

def bind (m : mapping) : BoundEquipment mapping where
  mapping := m
  inner := freshEquipment m
  history := ⟨[], rfl⟩

def store (b : BoundEquipment mapping) (rs : List Reading) :
    BoundEquipment mapping where
  mapping := b.mapping
  inner := rs.foldl GenericEquipment.applyReading b.inner
  history := by
    rcases b.history with ⟨before, hbefore⟩
    exact ⟨before ++ rs, by rw [List.foldl_append, ← hbefore]⟩

@[simp] theorem store_nil (b : BoundEquipment mapping) : b.store [] = b := rfl

@[simp] theorem store_mapping (b : BoundEquipment mapping) (rs : List Reading) :
    (b.store rs).mapping = b.mapping := rfl

theorem store_append (b : BoundEquipment mapping) (rs qs : List Reading) :
    b.store (rs ++ qs) = (b.store rs).store qs := by
  unfold store
  simp only [List.foldl_append]

/-- Refresh a bound machine by the plan of its mapping. -/
def refresh (plan : mapping -> ReadPlan state) (b : BoundEquipment mapping)
    (s : state) : Bool × BoundEquipment mapping × state :=
  let r := (plan b.mapping).refresh b.inner s
  (r.1,
    { mapping := b.mapping
      inner := r.2.1
      history := by
        rcases b.history with ⟨before, hbefore⟩
        refine ⟨before ++ (plan b.mapping).readings s, ?_⟩
        rw [ReadPlan.refresh_equipment, List.foldl_append, ← hbefore] },
    r.2.2)

theorem refresh_bound (plan : mapping -> ReadPlan state)
    (b : BoundEquipment mapping) (s : state) :
    (b.refresh plan s).2.1 = b.store ((plan b.mapping).readings s) := by
  unfold refresh store
  simp only [ReadPlan.refresh_equipment]

end BoundEquipment

/-!
# Adapters with bound equipment
-/

structure ProtocolAdapter (config mapping session : Type)
    [EquipmentMapping mapping] where
  id : String
  config : config
  link : Link session
  bound : List (BoundEquipment mapping) := []

namespace ProtocolAdapter

variable {config mapping session : Type} [EquipmentMapping mapping]

/-- Every adapter starts disconnected and without equipment. -/
def create (id : String) (cfg : config) (s : session) :
    ProtocolAdapter config mapping session where
  id := id
  config := cfg
  link := { session := s }

def enterFault (a : ProtocolAdapter config mapping session) (reason : String) :
    ProtocolAdapter config mapping session :=
  { a with link := a.link.enterFault reason }

def withSession (a : ProtocolAdapter config mapping session) (s : session) :
    ProtocolAdapter config mapping session :=
  { a with link := { a.link with session := s } }

def bindEquipment (a : ProtocolAdapter config mapping session)
    (mappings : List mapping) : ProtocolAdapter config mapping session :=
  { a with bound := mappings.map BoundEquipment.bind }

def enterConnected (a : ProtocolAdapter config mapping session) :
    ProtocolAdapter config mapping session :=
  { a with link := { a.link with connectionState := .connected, lastError := "" } }

def disconnectWith (close : session -> session)
    (a : ProtocolAdapter config mapping session) :
    ProtocolAdapter config mapping session :=
  { a with
    bound := []
    link :=
      { connectionState := .disconnected
        lastError := ""
        session := close a.link.session } }

def exposedBound (a : ProtocolAdapter config mapping session) :
    List (BoundEquipment mapping) :=
  if a.link.connectionState = .disconnected then [] else a.bound

def equipment (a : ProtocolAdapter config mapping session) :
    List (Option EquipmentView) :=
  a.exposedBound.map (fun b => some b.inner.view)

def boundById (a : ProtocolAdapter config mapping session) (id : String) :
    Option (BoundEquipment mapping) :=
  a.exposedBound.find? (fun b => b.inner.id = id)

def equipmentById (a : ProtocolAdapter config mapping session) (id : String) :
    Option EquipmentView :=
  (a.boundById id).map (fun b => b.inner.view)

def exposedMappings (a : ProtocolAdapter config mapping session) : List mapping :=
  a.exposedBound.map BoundEquipment.mapping

theorem exposedMappings_of_not_disconnected
    {a : ProtocolAdapter config mapping session}
    (h : a.link.connectionState ≠ .disconnected) :
    a.exposedMappings = a.bound.map BoundEquipment.mapping := by
  unfold exposedMappings exposedBound
  rw [if_neg h]

/-- A poll refreshes the bound machines in order until a refresh fails. -/
def pollWith (prepare : session -> session)
    (plan : mapping -> ReadPlan (Link session))
    (fail : Link session -> Link session)
    (a : ProtocolAdapter config mapping session) :
    ProtocolAdapter config mapping session :=
  if a.link.connectionState ≠ .connected then
    if a.link.connectionState = .faulted ∧ a.link.lastError = "" then
      { a with
        link := { a.link with lastError := "poll failed: communication fault" } }
    else a
  else
    let link := { a.link with session := prepare a.link.session }
    let r := updateUntilFailure (BoundEquipment.refresh plan) a.bound link
    { a with
      bound := r.2.1
      link := if r.1 then r.2.2 else fail r.2.2 }

def executeWith
    (run : mapping -> Link session -> CommandResult × Link session)
    (a : ProtocolAdapter config mapping session) (equipmentId : String) :
    Option (CommandResult × ProtocolAdapter config mapping session) :=
  (a.boundById equipmentId).map fun b =>
    let r := run b.mapping a.link
    (r.1, { a with link := r.2 })

@[simp] theorem pollWith_id (prepare : session -> session)
    (plan : mapping -> ReadPlan (Link session))
    (fail : Link session -> Link session)
    (a : ProtocolAdapter config mapping session) :
    (a.pollWith prepare plan fail).id = a.id := by
  unfold pollWith
  split
  · split <;> rfl
  · rfl

theorem executeWith_id
    {run : mapping -> Link session -> CommandResult × Link session}
    {a : ProtocolAdapter config mapping session} {equipmentId : String}
    {result : CommandResult × ProtocolAdapter config mapping session}
    (h : a.executeWith run equipmentId = some result) : result.2.id = a.id := by
  unfold executeWith at h
  cases hbound : a.boundById equipmentId with
  | none =>
      rw [hbound] at h
      cases h
  | some b =>
      rw [hbound] at h
      cases h
      rfl

/-!
The machines a poll leaves are the machines it found with the values it read: each
refreshed machine stores its readings, and the machines behind a failed refresh
store nothing.
-/

/-- The values read for each bound machine in one pass over the equipment. -/
def passReadings (plan : mapping -> ReadPlan (Link session)) :
    List (BoundEquipment mapping) -> Link session -> List (List Reading)
  | [], _ => []
  | b :: rest, link =>
      (plan b.mapping).readings link ::
        if (b.refresh plan link).1 then
          passReadings plan rest (b.refresh plan link).2.2
        else rest.map (fun _ => [])

theorem length_passReadings (plan : mapping -> ReadPlan (Link session))
    (bs : List (BoundEquipment mapping)) (link : Link session) :
    (passReadings plan bs link).length = bs.length := by
  induction bs generalizing link with
  | nil => rfl
  | cons b rest ih =>
      unfold passReadings
      split <;> simp [ih]

theorem zipWith_store_nil (bs : List (BoundEquipment mapping)) :
    List.zipWith BoundEquipment.store bs (bs.map (fun _ => [])) = bs := by
  induction bs with
  | nil => rfl
  | cons b rest ih =>
      rw [List.map_cons, List.zipWith_cons_cons, ih, BoundEquipment.store_nil]

theorem updateUntilFailure_refresh
    (plan : mapping -> ReadPlan (Link session))
    (bs : List (BoundEquipment mapping)) (link : Link session) :
    (updateUntilFailure (BoundEquipment.refresh plan) bs link).2.1 =
      List.zipWith BoundEquipment.store bs (passReadings plan bs link) := by
  induction bs generalizing link with
  | nil => rfl
  | cons b rest ih =>
      have hbound := b.refresh_bound plan link
      rcases hrefresh : b.refresh plan link with ⟨ok, b', link'⟩
      rw [hrefresh] at hbound
      unfold updateUntilFailure passReadings
      rw [hrefresh]
      cases ok with
      | true =>
          simp only [if_true, List.zipWith_cons_cons, ih link']
          rw [← hbound]
      | false =>
          simp only [Bool.false_eq_true, if_false, List.zipWith_cons_cons,
            zipWith_store_nil]
          rw [← hbound]

theorem map_mapping_zipWith_store {bs : List (BoundEquipment mapping)}
    {rss : List (List Reading)} (h : rss.length = bs.length) :
    (List.zipWith BoundEquipment.store bs rss).map BoundEquipment.mapping =
      bs.map BoundEquipment.mapping := by
  induction bs generalizing rss with
  | nil => rfl
  | cons b rest ih =>
      cases rss with
      | nil => cases h
      | cons rs rss =>
          rw [List.zipWith_cons_cons, List.map_cons, List.map_cons,
            ih (Nat.succ.inj h), BoundEquipment.store_mapping]

end ProtocolAdapter

end VirtualFactory
