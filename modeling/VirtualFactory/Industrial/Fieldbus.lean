import VirtualFactory.Industrial.ProtocolAdapter

/-!
# PROFINET and PROFIBUS

The native fieldbus adapters are scaffolding: their sessions never open.  They bind
their machines when they are built and expose them whatever the connection state is.
-/

namespace VirtualFactory

open Foundation

/-- The names of a fieldbus in its texts and as a protocol. -/
structure Fieldbus where
  name : String
  protocol : String

def profinet : Fieldbus := ⟨"PROFINET", "profinet"⟩

def profibus : Fieldbus := ⟨"PROFIBUS", "profibus"⟩

structure FieldbusCommandMapping where
  command : String

structure FieldbusEquipmentMapping where
  id : String
  type : String
  capabilities : List String := []
  commands : List FieldbusCommandMapping := []

structure FieldbusConfig where
  configArtifactPath : String := ""
  equipment : List FieldbusEquipmentMapping := []

instance : EquipmentMapping FieldbusEquipmentMapping where
  id m := m.id
  type m := m.type
  capabilities m := m.capabilities
  commands m := m.commands.map FieldbusCommandMapping.command

/-- Whether the build has the SDK of the fieldbus card. -/
abbrev HilscherSdk := Bool

def hilscherCifxUnavailableReason (sdk : HilscherSdk) : String :=
  if sdk then ""
  else
    "Hilscher cifX SDK/hardware not available in this build " ++
      "(VF_HILSCHER_CIFX_AVAILABLE=0). Native fieldbus integration is " ++
      "BLOCKED BY SDK/HARDWARE."

structure FieldbusSession where
  isOpen : Bool := false
  lastError : String := ""

namespace FieldbusSession

def close (s : FieldbusSession) : FieldbusSession :=
  { s with isOpen := false }

def openWith (bus : Fieldbus) (sdk : HilscherSdk) (configArtifactPath : String)
    (s : FieldbusSession) : Bool × FieldbusSession :=
  let s := s.close
  if configArtifactPath = "" then
    (false,
      { s with lastError := "missing " ++ bus.name ++ " configuration artifact path" })
  else if sdk then
    (false,
      { s with
        lastError :=
          "Hilscher cifX " ++ bus.name ++
            " backend not yet integrated (SDK present)" })
  else (false, { s with lastError := hilscherCifxUnavailableReason sdk })

end FieldbusSession

structure FieldbusAdapter (bus : Fieldbus) where
  core : ProtocolAdapter FieldbusConfig FieldbusEquipmentMapping FieldbusSession

abbrev ProfinetIndustrialAdapter := FieldbusAdapter profinet

abbrev ProfibusIndustrialAdapter := FieldbusAdapter profibus

namespace FieldbusAdapter

variable {bus : Fieldbus}

def new (id : String) (config : FieldbusConfig) : FieldbusAdapter bus where
  core := (ProtocolAdapter.create id config {}).bindEquipment config.equipment

def connectionState (a : FieldbusAdapter bus) : ConnectionState :=
  a.core.link.connectionState

def connect (sdk : HilscherSdk) (a : FieldbusAdapter bus) :
    Bool × FieldbusAdapter bus :=
  if a.connectionState = .connected then (true, a)
  else if a.core.config.configArtifactPath = "" then
    (false,
      ⟨a.core.enterFault ("missing " ++ bus.name ++ " configuration artifact path")⟩)
  else
    match a.core.link.session.close.openWith bus sdk
        a.core.config.configArtifactPath with
    | (false, s) => (false, ⟨(a.core.withSession s).enterFault s.lastError⟩)
    | (true, s) => (true, ⟨(a.core.withSession s).enterConnected⟩)

def disconnect (a : FieldbusAdapter bus) : FieldbusAdapter bus :=
  { core :=
      { a.core with
        link :=
          { connectionState := .disconnected
            lastError := ""
            session := a.core.link.session.close } } }

def equipment (a : FieldbusAdapter bus) : List (Option EquipmentView) :=
  a.core.bound.map (fun b => some b.inner.view)

def boundById (a : FieldbusAdapter bus) (id : String) :
    Option (BoundEquipment FieldbusEquipmentMapping) :=
  a.core.bound.find? (fun b => b.inner.id = id)

def equipmentById (a : FieldbusAdapter bus) (id : String) :
    Option EquipmentView :=
  (a.boundById id).map (fun b => b.inner.view)

def poll (a : FieldbusAdapter bus) : FieldbusAdapter bus :=
  if a.connectionState ≠ .connected then a
  else
    ⟨a.core.enterFault (bus.name ++ " cyclic poll not available (SDK blocked)")⟩

/-- `BoundEquipment::execute`. -/
def runCommand (bus : Fieldbus) (command : String) (m : FieldbusEquipmentMapping)
    (link : Link FieldbusSession) : CommandResult × Link FieldbusSession :=
  link.execute (m.commands.find? (fun entry => entry.command = command))
    fun _ link =>
      (⟨false, bus.name ++ " output write not available (SDK blocked)"⟩, link)

theorem runCommand_link (command : String) (m : FieldbusEquipmentMapping)
    (link : Link FieldbusSession) : (runCommand bus command m link).2 = link := by
  unfold runCommand Link.execute runMapped
  cases link.connectionState with
  | disconnected => rfl
  | faulted => rfl
  | connected =>
      cases m.commands.find? (fun entry => entry.command = command) <;> rfl

def execute (a : FieldbusAdapter bus) (equipmentId command : String)
    (_parameter : Double) : Option (CommandResult × FieldbusAdapter bus) :=
  (a.boundById equipmentId).map fun b =>
    let r := runCommand bus command b.mapping a.core.link
    (r.1, ⟨{ a.core with link := r.2 }⟩)

theorem execute_same {a : FieldbusAdapter bus} {equipmentId command : String}
    {parameter : Double} {r : CommandResult × FieldbusAdapter bus}
    (h : a.execute equipmentId command parameter = some r) : r.2 = a := by
  rcases Option.map_eq_some_iff.mp h with ⟨b, _, rfl⟩
  show FieldbusAdapter.mk { a.core with link := _ } = a
  rw [runCommand_link]

theorem connect_refused (sdk : HilscherSdk) {a : FieldbusAdapter bus}
    (h : a.connectionState ≠ .connected) :
    (a.connect sdk).1 = false ∧ (a.connect sdk).2.core.id = a.core.id ∧
      (a.connect sdk).2.core.bound = a.core.bound ∧
      (a.connect sdk).2.connectionState = .faulted := by
  unfold connect
  rw [if_neg h]
  split
  · exact ⟨rfl, rfl, rfl, rfl⟩
  · rename_i hpath
    have hopen : forall s : FieldbusSession,
        (s.openWith bus sdk a.core.config.configArtifactPath).1 = false := by
      intro s
      unfold FieldbusSession.openWith
      rw [if_neg hpath]
      cases sdk <;> rfl
    split
    · exact ⟨rfl, rfl, rfl, rfl⟩
    · rename_i s hs
      have hfalse := hopen a.core.link.session.close
      rw [hs] at hfalse
      cases hfalse

end FieldbusAdapter

instance (bus : Fieldbus) : IndustrialAdapter (FieldbusAdapter bus) HilscherSdk
    Empty where
  adapterId a := a.core.id
  protocol _ := bus.protocol
  connectionState a := a.connectionState
  lastError a := a.core.link.lastError
  connect sdk a ids := ((a.connect sdk).1, (a.connect sdk).2, ids)
  disconnect _ a ids := (a.disconnect, ids)
  equipment a := a.equipment
  equipmentById a id := a.equipmentById id
  poll _ a ids := (a.poll, ids)
  execute _ a equipmentId command parameter ids :=
    (a.execute equipmentId command parameter).map (fun r => (r.1, r.2, ids))
  stimulate := Empty.elim
  id_connect sdk a _ := by
    by_cases h : a.connectionState = .connected
    · unfold FieldbusAdapter.connect
      rw [if_pos h]
    · exact (FieldbusAdapter.connect_refused sdk h).2.1
  id_disconnect _ _ _ := rfl
  id_poll _ a _ := by
    unfold FieldbusAdapter.poll
    split <;> rfl
  id_execute := by
    intro _ a equipmentId command parameter ids result h
    rcases Option.map_eq_some_iff.mp h with ⟨r, hr, rfl⟩
    rw [FieldbusAdapter.execute_same hr]
  id_stimulate s _ := s.elim

theorem FieldbusAdapter.exposedIds_eq {bus : Fieldbus} (a : FieldbusAdapter bus) :
    IndustrialAdapter.exposedIds a =
      a.core.bound.map (fun b => EquipmentMapping.id b.mapping) := by
  unfold IndustrialAdapter.exposedIds
  rw [IndustrialAdapter.exposed_of_map rfl, List.map_map]
  exact List.map_congr_left (fun b _ => b.identity)

theorem FieldbusAdapter.poll_of_connected {bus : Fieldbus} {a : FieldbusAdapter bus}
    (h : a.connectionState = .connected) :
    a.poll =
      ⟨a.core.enterFault (bus.name ++ " cyclic poll not available (SDK blocked)")⟩ :=
  if_neg (not_not.mpr h)

instance (bus : Fieldbus) : LawfulPoll (FieldbusAdapter bus) where
  poll_exposedIds d a ids h := by
    refine (FieldbusAdapter.exposedIds_eq a.poll).trans ?_
    rw [FieldbusAdapter.exposedIds_eq, FieldbusAdapter.poll_of_connected h]
    rfl
  poll_connectionState d a ids h := by
    show a.poll.connectionState ≠ .disconnected
    rw [FieldbusAdapter.poll_of_connected h]
    exact fun hstate => ConnectionState.noConfusion hstate
  poll_local _ a _ := ⟨a.poll, ∅, fun ids => by
    rw [Finset.sdiff_empty]
    rfl⟩

end VirtualFactory
