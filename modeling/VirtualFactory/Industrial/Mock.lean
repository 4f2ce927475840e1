import VirtualFactory.Industrial.Operations

/-!
# The mock adapter

An in-process simulation of an industrial source: the values of the source are kept
in the adapter, and failures of its communication are simulated.
-/

namespace VirtualFactory

open Foundation

structure MockDeviceConfig where
  id : String
  type : String
  capabilities : List String := []
  sourceTelemetry : TelemetryMap := TelemetryMap.empty
  deriving DecidableEq

/-- A bound machine, and the position of its device. -/
structure MockBoundEquipment where
  config : Nat
  inner : GenericEquipment
  deriving DecidableEq

structure MockIndustrialAdapter where
  id : String
  connectionState : ConnectionState := .disconnected
  lastError : String := ""
  devices : List MockDeviceConfig := []
  bound : List MockBoundEquipment := []
  deriving DecidableEq

/-- What the simulation does to a mock adapter between two operations. -/
inductive MockStimulus where
  | setSourceTelemetry (equipmentId name : String) (value : Double) (unit : String)
  | simulateCommunicationFailure (reason : String)
  | clearCommunicationFailure

namespace MockIndustrialAdapter

def new (id : String) : MockIndustrialAdapter where
  id := id

def protocol : String := "mock"

/-!
# Devices
-/

def hasDevice (a : MockIndustrialAdapter) (equipmentId : String) : Bool :=
  a.devices.any (fun config => config.id = equipmentId)

def updateDevice (equipmentId : String)
    (f : MockDeviceConfig -> MockDeviceConfig) :
    List MockDeviceConfig -> List MockDeviceConfig
  | [] => []
  | config :: rest =>
      if config.id = equipmentId then f config :: rest
      else config :: updateDevice equipmentId f rest

def addDevice (a : MockIndustrialAdapter) (equipmentId type : String) :
    MockIndustrialAdapter :=
  if a.hasDevice equipmentId then a
  else { a with devices := a.devices ++ [{ id := equipmentId, type := type }] }

def addCapability (a : MockIndustrialAdapter) (equipmentId capability : String) :
    MockIndustrialAdapter :=
  { a with
    devices :=
      updateDevice equipmentId
        (fun config =>
          if config.capabilities.contains capability then config
          else { config with capabilities := config.capabilities ++ [capability] })
        a.devices }

def setSourceTelemetry (a : MockIndustrialAdapter) (equipmentId name : String)
    (value : Double) (unit : String) : MockIndustrialAdapter :=
  { a with
    devices :=
      updateDevice equipmentId
        (fun config =>
          { config with
            sourceTelemetry := config.sourceTelemetry.set ⟨name, value, unit⟩ })
        a.devices }

def simulateCommunicationFailure (a : MockIndustrialAdapter) (reason : String) :
    MockIndustrialAdapter :=
  { a with connectionState := .faulted, lastError := reason }

def clearCommunicationFailure (a : MockIndustrialAdapter) : MockIndustrialAdapter :=
  if a.connectionState = .faulted then
    { a with connectionState := .disconnected, bound := [], lastError := "" }
  else a

/-!
# Operations
-/

def copySource (config : MockDeviceConfig) (e : GenericEquipment) :
    GenericEquipment :=
  config.sourceTelemetry.toList.foldl
    (fun e point => e.setTelemetry point.name point.value point.unit) e

def bindDevice (p : MockDeviceConfig × Nat) : MockBoundEquipment where
  config := p.2
  inner :=
    copySource p.1 (GenericEquipment.bind p.1.id p.1.type p.1.capabilities [])

def connect (a : MockIndustrialAdapter) : Bool × MockIndustrialAdapter :=
  match a.connectionState with
  | .connected => (true, a)
  | .faulted => (false, { a with lastError := "cannot connect while faulted" })
  | .disconnected =>
      (true,
        { a with
          bound := a.devices.zipIdx.map bindDevice
          connectionState := .connected
          lastError := "" })

def disconnect (a : MockIndustrialAdapter) : MockIndustrialAdapter :=
  { a with bound := [], connectionState := .disconnected, lastError := "" }

def exposedBound (a : MockIndustrialAdapter) : List MockBoundEquipment :=
  if a.connectionState = .disconnected then [] else a.bound

def equipment (a : MockIndustrialAdapter) : List (Option EquipmentView) :=
  a.exposedBound.map (fun b => some b.inner.view)

def boundById (a : MockIndustrialAdapter) (id : String) :
    Option MockBoundEquipment :=
  a.exposedBound.find? (fun b => b.inner.id = id)

def equipmentById (a : MockIndustrialAdapter) (id : String) :
    Option EquipmentView :=
  (a.boundById id).map (fun b => b.inner.view)

def copySourceTelemetry (devices : List MockDeviceConfig)
    (b : MockBoundEquipment) : MockBoundEquipment :=
  match devices[b.config]? with
  | none => b
  | some config => { b with inner := copySource config b.inner }

def poll (a : MockIndustrialAdapter) : MockIndustrialAdapter :=
  if a.connectionState ≠ .connected then
    if a.connectionState = .faulted ∧ a.lastError = "" then
      { a with lastError := "poll failed: communication fault" }
    else a
  else { a with bound := a.bound.map (copySourceTelemetry a.devices) }

def updateBound (equipmentId : String) (inner : GenericEquipment) :
    List MockBoundEquipment -> List MockBoundEquipment
  | [] => []
  | b :: rest =>
      if b.inner.id = equipmentId then { b with inner := inner } :: rest
      else b :: updateBound equipmentId inner rest

/-- `BoundEquipment::execute`. -/
def runCommand (command : String) (parameter : Double) (b : MockBoundEquipment)
    (a : MockIndustrialAdapter) : CommandResult × MockIndustrialAdapter :=
  match a.connectionState with
  | .faulted => (⟨false, "communication fault"⟩, a)
  | .disconnected => (⟨false, "adapter not connected"⟩, a)
  | .connected =>
      if isSetCommand command && b.inner.hasCapability command then
        let pointName := String.ofList (command.toList.drop 4)
        let unit :=
          ((b.inner.telemetry.find? (fun point => point.name = pointName)).map
            TelemetryPoint.unit).getD ""
        (⟨true, "set"⟩,
          { a with
            bound :=
              updateBound b.inner.id (b.inner.setTelemetry pointName parameter unit)
                a.bound }.setSourceTelemetry b.inner.id pointName parameter unit)
      else
        let r := b.inner.execute command parameter
        (r.1, { a with bound := updateBound b.inner.id r.2 a.bound })

def execute (a : MockIndustrialAdapter) (equipmentId command : String)
    (parameter : Double) : Option (CommandResult × MockIndustrialAdapter) :=
  (a.boundById equipmentId).map (fun b => runCommand command parameter b a)

def stimulate (a : MockIndustrialAdapter) : MockStimulus -> MockIndustrialAdapter
  | .setSourceTelemetry equipmentId name value unit =>
      a.setSourceTelemetry equipmentId name value unit
  | .simulateCommunicationFailure reason => a.simulateCommunicationFailure reason
  | .clearCommunicationFailure => a.clearCommunicationFailure

/-!
# Machines keep their identity
-/

theorem copySource_id (config : MockDeviceConfig) (e : GenericEquipment) :
    (copySource config e).id = e.id := by
  unfold copySource
  generalize config.sourceTelemetry.toList = points
  induction points generalizing e with
  | nil => rfl
  | cons point rest ih => exact ih (e.setTelemetry point.name point.value point.unit)

@[simp] theorem copySourceTelemetry_id (devices : List MockDeviceConfig)
    (b : MockBoundEquipment) :
    (copySourceTelemetry devices b).inner.id = b.inner.id := by
  unfold copySourceTelemetry
  split
  · rfl
  · exact copySource_id _ _

theorem execute_inner_id (e : GenericEquipment) (command : String)
    (parameter : Double) : (e.execute command parameter).2.id = e.id := by
  unfold GenericEquipment.execute
  split
  · split <;> rfl
  · split
    · split <;> rfl
    · split <;> rfl

theorem map_id_updateBound {equipmentId : String} {inner : GenericEquipment}
    (h : inner.id = equipmentId) (bs : List MockBoundEquipment) :
    (updateBound equipmentId inner bs).map (fun b => b.inner.id) =
      bs.map (fun b => b.inner.id) := by
  induction bs with
  | nil => rfl
  | cons b rest ih =>
      unfold updateBound
      split
      · rename_i hb
        rw [List.map_cons, List.map_cons, hb, h]
      · rw [List.map_cons, List.map_cons, ih]

theorem map_id_updateDevice {f : MockDeviceConfig -> MockDeviceConfig}
    (hf : forall config, (f config).id = config.id) (equipmentId : String)
    (configs : List MockDeviceConfig) :
    (updateDevice equipmentId f configs).map MockDeviceConfig.id =
      configs.map MockDeviceConfig.id := by
  induction configs with
  | nil => rfl
  | cons config rest ih =>
      unfold updateDevice
      split
      · rw [List.map_cons, List.map_cons, hf]
      · rw [List.map_cons, List.map_cons, ih]

theorem map_id_setSourceTelemetry (a : MockIndustrialAdapter)
    (equipmentId name : String) (value : Double) (unit : String) :
    (a.setSourceTelemetry equipmentId name value unit).devices.map
        MockDeviceConfig.id = a.devices.map MockDeviceConfig.id := by
  unfold setSourceTelemetry
  exact map_id_updateDevice (by intro config; rfl) equipmentId a.devices

theorem runCommand_same (command : String) (parameter : Double)
    (b : MockBoundEquipment) (a : MockIndustrialAdapter) :
    (runCommand command parameter b a).2.id = a.id ∧
      (runCommand command parameter b a).2.connectionState = a.connectionState ∧
      (runCommand command parameter b a).2.lastError = a.lastError ∧
      (runCommand command parameter b a).2.bound.map (fun b => b.inner.id) =
        a.bound.map (fun b => b.inner.id) ∧
      (runCommand command parameter b a).2.devices.map MockDeviceConfig.id =
        a.devices.map MockDeviceConfig.id := by
  unfold runCommand
  split
  · exact ⟨rfl, rfl, rfl, rfl, rfl⟩
  · exact ⟨rfl, rfl, rfl, rfl, rfl⟩
  · split
    · exact ⟨rfl, rfl, rfl, map_id_updateBound (by rfl) a.bound,
        map_id_setSourceTelemetry _ _ _ _ _⟩
    · exact ⟨rfl, rfl, rfl,
        map_id_updateBound (execute_inner_id b.inner command parameter) a.bound, rfl⟩

end MockIndustrialAdapter

instance : IndustrialAdapter MockIndustrialAdapter Unit MockStimulus where
  adapterId a := a.id
  protocol _ := MockIndustrialAdapter.protocol
  connectionState a := a.connectionState
  lastError a := a.lastError
  connect _ a ids := (a.connect.1, a.connect.2, ids)
  disconnect _ a ids := (a.disconnect, ids)
  equipment a := a.equipment
  equipmentById a id := a.equipmentById id
  poll _ a ids := (a.poll, ids)
  execute _ a equipmentId command parameter ids :=
    (a.execute equipmentId command parameter).map (fun r => (r.1, r.2, ids))
  stimulate s a := a.stimulate s
  id_connect _ a _ := by
    unfold MockIndustrialAdapter.connect
    split <;> rfl
  id_disconnect _ _ _ := rfl
  id_poll _ a _ := by
    unfold MockIndustrialAdapter.poll
    split
    · split <;> rfl
    · rfl
  id_execute := by
    intro _ a equipmentId command parameter ids result h
    rcases Option.map_eq_some_iff.mp h with ⟨r, hr, rfl⟩
    rcases Option.map_eq_some_iff.mp hr with ⟨b, _, rfl⟩
    exact (MockIndustrialAdapter.runCommand_same command parameter b a).1
  id_stimulate s a := by
    cases s with
    | setSourceTelemetry equipmentId name value unit => rfl
    | simulateCommunicationFailure reason => rfl
    | clearCommunicationFailure =>
        show (a.clearCommunicationFailure).id = a.id
        unfold MockIndustrialAdapter.clearCommunicationFailure
        split <;> rfl

namespace MockIndustrialAdapter

theorem exposedIds_eq (a : MockIndustrialAdapter) :
    IndustrialAdapter.exposedIds a = a.exposedBound.map (fun b => b.inner.id) := by
  unfold IndustrialAdapter.exposedIds
  rw [IndustrialAdapter.exposed_of_map rfl, List.map_map]
  rfl

theorem poll_of_connected {a : MockIndustrialAdapter}
    (h : a.connectionState = .connected) :
    a.poll = { a with bound := a.bound.map (copySourceTelemetry a.devices) } :=
  if_neg (not_not.mpr h)

end MockIndustrialAdapter

instance : LawfulPoll MockIndustrialAdapter where
  poll_exposedIds d a ids h := by
    have hstate : a.connectionState = .connected := h
    refine (MockIndustrialAdapter.exposedIds_eq a.poll).trans ?_
    rw [MockIndustrialAdapter.exposedIds_eq,
      MockIndustrialAdapter.poll_of_connected hstate]
    simp [MockIndustrialAdapter.exposedBound, hstate, Function.comp_def]
  poll_connectionState d a ids h := by
    have hstate : a.connectionState = .connected := h
    show a.poll.connectionState ≠ .disconnected
    rw [MockIndustrialAdapter.poll_of_connected hstate]
    simp [hstate]
  poll_local _ a _ := ⟨a.poll, ∅, fun ids => by
    rw [Finset.sdiff_empty]
    rfl⟩

/-!
# The contract
-/

namespace MockIndustrialAdapter

/-- The devices have identifiers of their own, and so have the machines, which exist
only while the adapter is not disconnected. -/
structure Obeys (a : MockIndustrialAdapter) : Prop where
  devices : (a.devices.map MockDeviceConfig.id).Nodup
  bound : (a.bound.map (fun b => b.inner.id)).Nodup
  hidden : a.connectionState = .disconnected -> a.bound = []

theorem map_id_bindDevice (configs : List MockDeviceConfig) (n : Nat) :
    ((configs.zipIdx n).map bindDevice).map (fun b => b.inner.id) =
      configs.map MockDeviceConfig.id := by
  have hbind : forall p : MockDeviceConfig × Nat,
      ((fun b : MockBoundEquipment => b.inner.id) ∘ bindDevice) p =
        (MockDeviceConfig.id ∘ Prod.fst) p := by
    intro p
    show (copySource p.1 _).id = p.1.id
    rw [copySource_id]
    exact GenericEquipment.bind_id _ _ _ _
  rw [List.map_map, List.map_congr_left (fun p _ => hbind p), ← List.map_map,
    List.zipIdx_map_fst]

theorem obeys_disconnect {a : MockIndustrialAdapter} (h : Obeys a) :
    Obeys a.disconnect :=
  ⟨h.devices, List.nodup_nil, fun _ => rfl⟩

theorem obeys_connect {a : MockIndustrialAdapter} (h : Obeys a) :
    Obeys a.connect.2 := by
  unfold connect
  cases a.connectionState with
  | connected => exact h
  | faulted =>
      exact ⟨h.devices, h.bound, fun hstate => ConnectionState.noConfusion hstate⟩
  | disconnected =>
      refine ⟨h.devices, ?_, fun hstate => ConnectionState.noConfusion hstate⟩
      rw [map_id_bindDevice]
      exact h.devices

theorem obeys_poll {a : MockIndustrialAdapter} (h : Obeys a) : Obeys a.poll := by
  by_cases hstate : a.connectionState = .connected
  · rw [poll_of_connected hstate]
    refine ⟨h.devices, ?_, fun hother => ?_⟩
    · rw [List.map_map]
      have hids := h.bound
      simpa [Function.comp_def] using hids
    · cases hstate.symm.trans hother
  · unfold poll
    rw [if_pos hstate]
    split
    · exact ⟨h.devices, h.bound, h.hidden⟩
    · exact h

theorem obeys_runCommand (command : String) (parameter : Double)
    (b : MockBoundEquipment) {a : MockIndustrialAdapter} (h : Obeys a) :
    Obeys (runCommand command parameter b a).2 := by
  have hsame := runCommand_same command parameter b a
  refine ⟨?_, ?_, fun hstate => ?_⟩
  · rw [hsame.2.2.2.2]
    exact h.devices
  · rw [hsame.2.2.2.1]
    exact h.bound
  · have hnone := h.hidden (hsame.2.1.symm.trans hstate)
    have hmap := hsame.2.2.2.1
    rw [hnone, List.map_nil] at hmap
    exact List.map_eq_nil_iff.mp hmap

theorem obeys_stimulate (s : MockStimulus) {a : MockIndustrialAdapter}
    (h : Obeys a) : Obeys (a.stimulate s) := by
  cases s with
  | setSourceTelemetry equipmentId name value unit =>
      refine ⟨?_, h.bound, h.hidden⟩
      show ((a.setSourceTelemetry equipmentId name value unit).devices.map
        MockDeviceConfig.id).Nodup
      rw [map_id_setSourceTelemetry]
      exact h.devices
  | simulateCommunicationFailure reason =>
      exact ⟨h.devices, h.bound, fun hstate => ConnectionState.noConfusion hstate⟩
  | clearCommunicationFailure =>
      show Obeys a.clearCommunicationFailure
      unfold clearCommunicationFailure
      split
      · exact ⟨h.devices, List.nodup_nil, fun _ => rfl⟩
      · exact h

theorem stable_obeys : IndustrialAdapter.Stable Obeys := by
  rintro ⟨operation, d⟩ a ids h
  cases operation with
  | connect => exact obeys_connect h
  | disconnect => exact obeys_disconnect h
  | poll => exact obeys_poll h
  | execute equipmentId command parameter =>
      cases hr : IndustrialAdapter.execute d a equipmentId command parameter ids with
      | none =>
          rw [IndustrialAdapter.operate_execute_of_none hr]
          exact h
      | some r =>
          rw [IndustrialAdapter.operate_execute_of_some hr]
          rcases Option.map_eq_some_iff.mp hr with ⟨q, hq, rfl⟩
          rcases Option.map_eq_some_iff.mp hq with ⟨b, _, rfl⟩
          exact obeys_runCommand command parameter b h
  | stimulate s => exact obeys_stimulate s h

theorem Obeys.exposedIds_eq {a : MockIndustrialAdapter} (h : Obeys a) :
    IndustrialAdapter.exposedIds a = a.bound.map (fun b => b.inner.id) := by
  rw [MockIndustrialAdapter.exposedIds_eq]
  unfold exposedBound
  split
  · rename_i hstate
    rw [h.hidden hstate]
  · rfl

theorem bound_operate (own : AdapterEvent Unit MockStimulus)
    (a : MockIndustrialAdapter) (ids : ClientIds)
    (h : (IndustrialAdapter.operate own (a, ids)).1 ≠ .connected true) :
    (IndustrialAdapter.operate own (a, ids)).2.1.bound.map (fun b => b.inner.id) ⊆
      a.bound.map (fun b => b.inner.id) := by
  rcases own with ⟨operation, d⟩
  cases operation with
  | connect =>
      cases hstate : a.connectionState with
      | connected =>
          have hconnect : a.connect = (true, a) := by simp [connect, hstate]
          exact absurd (congrArg AdapterAnswer.connected
            (congrArg Prod.fst hconnect)) h
      | faulted =>
          show a.connect.2.bound.map _ ⊆ _
          simp [connect, hstate]
      | disconnected =>
          have hconnect : a.connect.1 = true := by simp [connect, hstate]
          exact absurd (congrArg AdapterAnswer.connected hconnect) h
  | disconnect => exact List.nil_subset _
  | poll =>
      show a.poll.bound.map _ ⊆ _
      unfold poll
      split
      · split <;> exact List.Subset.refl _
      · simp [Function.comp_def]
  | execute equipmentId command parameter =>
      cases hr : IndustrialAdapter.execute d a equipmentId command parameter ids with
      | none =>
          rw [IndustrialAdapter.operate_execute_of_none hr]
          exact List.Subset.refl _
      | some r =>
          rw [IndustrialAdapter.operate_execute_of_some hr]
          rcases Option.map_eq_some_iff.mp hr with ⟨q, hq, rfl⟩
          rcases Option.map_eq_some_iff.mp hq with ⟨b, _, rfl⟩
          have hsame := runCommand_same command parameter b a
          rw [hsame.2.2.2.1]
          exact List.Subset.refl _
  | stimulate s =>
      cases s with
      | setSourceTelemetry equipmentId name value unit => exact List.Subset.refl _
      | simulateCommunicationFailure reason => exact List.Subset.refl _
      | clearCommunicationFailure =>
          show (a.clearCommunicationFailure).bound.map _ ⊆ _
          unfold clearCommunicationFailure
          split
          · exact List.nil_subset _
          · exact List.Subset.refl _

theorem contract : IndustrialAdapter.Contract Obeys where
  stable := stable_obeys
  hidden a ha hstate := by
    have hnone : a.exposedBound = [] := if_pos hstate
    rw [IndustrialAdapter.exposed_of_map rfl, hnone, List.map_nil]
  gained own a ids ha h := by
    rw [(stable_obeys own a ids ha).exposedIds_eq, ha.exposedIds_eq]
    exact bound_operate own a ids h
  disconnects _ _ _ _ := rfl
  distinct a ha := by
    rw [ha.exposedIds_eq]
    exact ha.bound
  lookup a id _ := by
    rw [IndustrialAdapter.find?_exposed_of_map (a := a) rfl id]
    rfl

end MockIndustrialAdapter

end VirtualFactory
