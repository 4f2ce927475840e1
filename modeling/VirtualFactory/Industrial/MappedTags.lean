import VirtualFactory.Industrial.EtherNetIp
import VirtualFactory.Industrial.Operations

/-!
# The tags of a connected EtherNet/IP adapter

A connect creates a tag for every mapped signal and command, with the type of its
mapping.  The tags last as long as the connection.
-/

namespace VirtualFactory

open Foundation IndustrialAdapter

namespace EtherNetIpIndustrialAdapter

/-!
# Creating a tag
-/

def createCall (s : EipSession) (tagName : String) : PlcCall :=
  .create (s.buildAttrib tagName) s.timeoutMs

def createdId (lib : Libplctag) (s : EipSession) (tagName : String) : Int :=
  lib.create (createCall s tagName :: s.calls)

def duplicateKey : String := "duplicate tag key"

def withTag (lib : Libplctag) (key tagName : String) (valueType : EipTagValueType)
    (s : EipSession) : EipSession :=
  { (s.call (createCall s tagName)).call (.status (createdId lib s tagName)) with
    tags := s.tags.insert key ⟨createdId lib s tagName, valueType⟩
    lastError := "" }

/-- How the creation of a tag ends: it is refused before the library is asked, the library
fails, the new tag is not in order and given back, or the tag is stored under a free
key. -/
inductive CreateOutcome (lib : Libplctag) (key tagName : String)
    (valueType : EipTagValueType) (s : EipSession) : Bool × EipSession -> Prop where
  | refused {message : String}
      (h : message ∈ ["EtherNet/IP session is closed", "empty tag key or name"]) :
      CreateOutcome lib key tagName valueType s (false, s.captureError message)
  | duplicate (h : (s.tags.find? key).isSome) :
      CreateOutcome lib key tagName valueType s (false, s.captureError duplicateKey)
  | failed (h : createdId lib s tagName < 0) :
      CreateOutcome lib key tagName valueType s
        (false, (s.call (createCall s tagName)).captureStatus lib (createdId lib s tagName)
          "tag create failed")
  | rejected {status : Int} (h : 0 ≤ createdId lib s tagName) :
      CreateOutcome lib key tagName valueType s
        (false,
          ((((s.call (createCall s tagName)).call (.status (createdId lib s tagName))
              ).captureStatus lib status "tag create status").call
            (.destroy [createdId lib s tagName])))
  | created (hfree : s.tags.find? key = none) (h : 0 ≤ createdId lib s tagName) :
      CreateOutcome lib key tagName valueType s (true, withTag lib key tagName valueType s)

theorem createTag_outcome (lib : Libplctag) (key tagName : String)
    (valueType : EipTagValueType) (s : EipSession) :
    CreateOutcome lib key tagName valueType s (s.createTag lib key tagName valueType) := by
  unfold EipSession.createTag
  split
  · exact CreateOutcome.refused (by decide)
  · split
    · exact CreateOutcome.refused (by decide)
    · split
      · rename_i hused
        exact CreateOutcome.duplicate hused
      · rename_i hfree
        dsimp only
        split
        · rename_i hfailed
          exact CreateOutcome.failed hfailed
        · rename_i hid
          have hvalid : 0 ≤ createdId lib s tagName := Int.not_lt.mp hid
          split
          · exact CreateOutcome.rejected hvalid
          · exact CreateOutcome.created (Option.not_isSome_iff_eq_none.mp hfree) hvalid

/-- A requested tag is in the table, with the type it was requested with. -/
def Created (request : TagRequest) (s : EipSession) : Prop :=
  exists tag, s.tags.find? request.1 = some tag ∧
    tag.valueType = toSessionType request.2.2

theorem createTagOf_of_true {lib : Libplctag} {request : TagRequest} {s : EipSession}
    (h : (createTagOf lib request s).1 = true) :
    s.tags.find? request.1 = none ∧ 0 ≤ createdId lib s request.2.1 ∧
      (createTagOf lib request s).2 =
        withTag lib request.1 request.2.1 (toSessionType request.2.2) s := by
  have hout := createTag_outcome lib request.1 request.2.1 (toSessionType request.2.2) s
  unfold createTagOf at h ⊢
  generalize s.createTag lib request.1 request.2.1 (toSessionType request.2.2) = r at h hout ⊢
  cases hout with
  | created hfree hid => exact ⟨hfree, hid, rfl⟩
  | refused _ => cases h
  | duplicate _ => cases h
  | failed _ => cases h
  | rejected _ => cases h

theorem created_createTagOf {lib : Libplctag} {request : TagRequest} {s : EipSession}
    (h : (createTagOf lib request s).1 = true) :
    Created request (createTagOf lib request s).2 := by
  rw [(createTagOf_of_true h).right.right]
  exact ⟨_, OrderedMap.find?_insert_self _ _ _, rfl⟩

theorem find?_withTag_of_some {lib : Libplctag} {key other tagName : String}
    {valueType : EipTagValueType} {s : EipSession} {tag : TagEntry}
    (hfree : s.tags.find? key = none) (h : s.tags.find? other = some tag) :
    (withTag lib key tagName valueType s).tags.find? other = some tag := by
  have hne : other ≠ key := by
    intro hkey
    rw [hkey, hfree] at h
    cases h
  exact (OrderedMap.find?_insert_of_ne _ _ hne).trans h

theorem Created.createTagOf {lib : Libplctag} {request later : TagRequest}
    {s : EipSession} (hlater : (createTagOf lib later s).1 = true)
    (h : Created request s) : Created request (createTagOf lib later s).2 := by
  rcases createTagOf_of_true hlater with ⟨hfree, _, hsession⟩
  rcases h with ⟨tag, hfind, htype⟩
  rw [hsession]
  exact ⟨tag, find?_withTag_of_some hfree hfind, htype⟩

theorem created_createMappedTags {lib : Libplctag} {cfg : EtherNetIpAdapterConfig}
    {s : EipSession} (h : (createMappedTags lib cfg s).1 = true)
    {request : TagRequest} (hrequest : request ∈ cfg.equipment.flatMap mappedTags) :
    Created request (createMappedTags lib cfg s).2 := by
  unfold createMappedTags at h ⊢
  apply untilFailure_done _ _ _ h request (Or.inl hrequest)
  · intro request s hok
    exact created_createTagOf hok
  · intro later request s hok hcreated
    exact hcreated.createTagOf hok

/-!
# The tags of a machine
-/

theorem telemetry_mem_mappedTags {m : EtherNetIpEquipmentMapping}
    {point : EtherNetIpTelemetryMapping} {index : Nat}
    (h : (point, index) ∈ m.telemetry.zipIdx) :
    (tagKey m.id "tel" index, point.tag, point.valueType) ∈ mappedTags m :=
  List.mem_append_left _ (List.mem_map.mpr ⟨_, h, rfl⟩)

theorem command_mem_mappedTags {m : EtherNetIpEquipmentMapping}
    {command : EtherNetIpCommandMapping} {index : Nat}
    (h : (command, index) ∈ m.commands.zipIdx) :
    (tagKey m.id "cmd" index, command.tag, command.valueType) ∈ mappedTags m :=
  List.mem_append_right _ (List.mem_append_left _ (List.mem_map.mpr ⟨_, h, rfl⟩))

theorem state_mem_mappedTags {m : EtherNetIpEquipmentMapping} (h : m.state.mapped = true) :
    (tagKey m.id "state" 0, m.state.tag, m.state.valueType) ∈ mappedTags m := by
  unfold mappedTags
  rw [if_pos h]
  simp

theorem fault_mem_mappedTags {m : EtherNetIpEquipmentMapping} (h : m.fault.mapped = true) :
    (tagKey m.id "fault" 0, m.fault.tag, m.fault.valueType) ∈ mappedTags m := by
  unfold mappedTags
  rw [if_pos h]
  simp

/-!
# Adapters with all their tags
-/

/-- A connected adapter has bound the configured machines, and has all their tags. -/
def HasTags (a : EtherNetIpIndustrialAdapter) : Prop :=
  a.link.connectionState = .connected ->
    a.bound.map BoundEquipment.mapping = a.config.equipment ∧
      forall request, request ∈ a.config.equipment.flatMap mappedTags ->
        Created request a.link.session

theorem lasting_created (requests : List TagRequest) :
    Lasting (fun s => forall request, request ∈ requests -> Created request s) := by
  intro s s' hsame hcreated request hrequest
  rcases hcreated request hrequest with ⟨tag, hfind, htype⟩
  exact ⟨tag, by rw [hsame.tags, hfind], htype⟩

theorem hasTags_connect (lib : Libplctag) {a : EtherNetIpIndustrialAdapter}
    (h : HasTags a) : HasTags (connect lib a).2 := by
  have hfault : forall (b : EtherNetIpIndustrialAdapter) (reason : String),
      HasTags (b.enterFault reason) :=
    fun _ _ hstate => ConnectionState.noConfusion hstate
  have hout := connect_outcome lib a
  generalize connect lib a = r at hout ⊢
  cases hout with
  | unchanged hstate => exact h
  | refused reason _ => exact hfault _ _
  | closed reason _ hopen => exact hfault _ _
  | incomplete reason _ hopen htags => exact hfault _ _
  | @opened s t hopen htags =>
      have hcreated := @created_createMappedTags lib a.config s
      rw [htags] at hcreated
      intro _
      constructor
      · show (a.config.equipment.map BoundEquipment.bind).map _ = _
        rw [List.map_map]
        exact List.map_id _
      · intro request hrequest
        exact hcreated rfl hrequest

theorem hasTags_poll (lib : Libplctag) {a : EtherNetIpIndustrialAdapter}
    (h : HasTags a) : HasTags (poll lib a) := by
  by_cases hstate : a.link.connectionState = .connected
  · rcases h hstate with ⟨hbound, hcreated⟩
    have hconfig : (poll lib a).config = a.config :=
      (ProtocolAdapter.poll_of_connected lib hstate).2.1
    have hlasting := lasting_created (a.config.equipment.flatMap mappedTags)
    intro hafter
    refine ⟨?_, ?_⟩
    · rw [hconfig, ← hbound]
      exact ProtocolAdapter.bound_poll lib hstate
    · rw [hconfig]
      rcases ProtocolAdapter.link_pollWith
          (fun s hs => hlasting s (s.setTimeoutMs (operationTimeoutMs a.config))
            ⟨rfl, rfl⟩ hs)
          (fun m => ReadPlan.keeps_fixed (refreshSteps_keep hlasting lib m a.link))
          hstate readFailed with ⟨_, hmoves⟩ | ⟨_, link, _, hlink⟩
      · exact hmoves.staysOpen hcreated
      · have hdown : (poll lib a).link.connectionState = .faulted := by
          show (a.pollWith _ _ _).link.connectionState = .faulted
          rw [hlink]
          rfl
        rw [hdown] at hafter
        cases hafter
  · unfold poll ProtocolAdapter.pollWith
    rw [if_pos hstate]
    split
    · exact h
    · exact h

theorem hasTags_runCommand (lib : Libplctag) {a : EtherNetIpIndustrialAdapter}
    (h : HasTags a) (command : String) (parameter : Double)
    (m : EtherNetIpEquipmentMapping) :
    HasTags
      { a with
        link :=
          (runCommand lib (operationTimeoutMs a.config) command parameter m
            a.link).2 } := by
  have hlasting := lasting_created (a.config.equipment.flatMap mappedTags)
  intro hafter
  rcases runCommand_ends hlasting lib (operationTimeoutMs a.config) command parameter m
      a.link with hmoves | hdown
  · rcases h (hmoves.sameState.symm.trans hafter) with ⟨hbound, hcreated⟩
    exact ⟨hbound, hmoves.staysOpen hcreated⟩
  · exact absurd hafter hdown.not_connected

theorem stable_hasTags : Stable HasTags := by
  rintro ⟨operation, lib⟩ a ids h
  cases operation with
  | connect => exact hasTags_connect lib h
  | disconnect => exact fun hstate => ConnectionState.noConfusion hstate
  | poll => exact hasTags_poll lib h
  | execute equipmentId command parameter =>
      rcases ProtocolAdapter.execute_cases lib a equipmentId command parameter with
        ⟨_, hnone⟩ | ⟨b, _, hsome⟩
      · have hnothing : IndustrialAdapter.execute lib a equipmentId command parameter
            ids = none := by
          simp only [IndustrialAdapter.execute, hnone, Option.map_none]
        rw [operate_execute_of_none hnothing]
        exact h
      · have hresult := congrArg (Option.map (fun r => (r.1, r.2, ids))) hsome
        rw [operate_execute_of_some hresult]
        exact hasTags_runCommand lib h command parameter b.mapping
  | stimulate s => exact s.elim

/-- The adapters that operations make of new ones. -/
def Reached (a : EtherNetIpIndustrialAdapter) : Prop :=
  Operated (fun fresh => exists id config, fresh = new id config) a

theorem Reached.hasTags {a : EtherNetIpIndustrialAdapter} (h : Reached a) :
    HasTags a := by
  apply Operated.invariant stable_hasTags _ h
  rintro fresh ⟨id, config, rfl⟩ hstate
  cases hstate

/-!
# Runs over one library

The answers of a library depend on the whole history of its calls, so that a run over one
library may have any answers.
-/

inductive Driven (lib : Libplctag) : EtherNetIpIndustrialAdapter -> Prop
  | created (id : String) (config : EtherNetIpAdapterConfig) : Driven lib (new id config)
  | operated {a : EtherNetIpIndustrialAdapter} (operation : AdapterOperation Empty)
      (ids : ClientIds) (h : Driven lib a) : Driven lib (operate ⟨operation, lib⟩ (a, ids)).2.1

theorem Driven.reached {lib : Libplctag} {a : EtherNetIpIndustrialAdapter}
    (h : Driven lib a) : Reached a := by
  induction h with
  | created id config => exact Operated.created ⟨id, config, rfl⟩
  | operated operation ids _ ih => exact Operated.operated ⟨operation, lib⟩ ids ih

/-- What new adapters have and no call of the adapter breaks, all adapters of a run have. -/
theorem Driven.invariant {lib : Libplctag} (kept : EtherNetIpIndustrialAdapter -> Prop)
    (hnew : forall id config, kept (new id config))
    (hconnect : forall a, Driven lib a -> kept a -> kept (connect lib a).2)
    (hdisconnect : forall a, Driven lib a -> kept a -> kept (disconnect a))
    (hpoll : forall a, Driven lib a -> kept a -> kept (poll lib a))
    (hexecute : forall a equipmentId command parameter result, Driven lib a -> kept a ->
      execute lib a equipmentId command parameter = some result -> kept result.2)
    {a : EtherNetIpIndustrialAdapter} (h : Driven lib a) : kept a := by
  induction h with
  | created id config => exact hnew id config
  | @operated a operation ids hrun ih =>
      cases operation with
      | connect => exact hconnect a hrun ih
      | disconnect => exact hdisconnect a hrun ih
      | poll => exact hpoll a hrun ih
      | execute equipmentId command parameter =>
          cases hresult : execute lib a equipmentId command parameter with
          | none =>
              have hnothing : IndustrialAdapter.execute lib a equipmentId command parameter
                  ids = none := congrArg (Option.map (fun r => (r.1, r.2, ids))) hresult
              rw [operate_execute_of_none hnothing]
              exact ih
          | some result =>
              have hsome := congrArg (Option.map (fun r => (r.1, r.2, ids))) hresult
              rw [operate_execute_of_some hsome]
              exact hexecute a equipmentId command parameter result hrun ih hresult
      | stimulate s => exact s.elim

end EtherNetIpIndustrialAdapter

end VirtualFactory
