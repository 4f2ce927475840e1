import VirtualFactory.Industrial.LibraryUse
import VirtualFactory.Industrial.Requests.OpcUa

/-!
# The use of open62541

An adapter creates a client for the configured endpoint, reads mapped nodes and writes
the nodes of commands, and deletes the client when it closes or cannot connect.
-/

namespace VirtualFactory

open Foundation LibraryCalls

namespace OpcUaAdapterConfig

def sources (cfg : OpcUaAdapterConfig) : List OpcUaNodeRef :=
  cfg.equipment.flatMap fun m =>
    m.telemetry.map OpcUaTelemetryMapping.node ++ [m.stateNode, m.faultNode]

def targets (cfg : OpcUaAdapterConfig) : List OpcUaNodeRef :=
  cfg.equipment.flatMap fun m => m.commands.map OpcUaCommandMapping.node

end OpcUaAdapterConfig

namespace UaCall

/-- How open62541 is to be used.  Only a client that could be created is a handle. -/
def usage (lib : Open62541) (cfg : OpcUaAdapterConfig) : Usage UaCall where
  custody earlier
    | .new => if lib.new (.new :: earlier) then .acquire else .refuse
    | .disconnectAndDelete => .release
    | .delete => .release
    | _ => .use
  permits _
    | .connect endpointUrl => endpointUrl = cfg.endpointUrl
    | .readValueAttribute namespaceIndex identifier =>
        exists node, node ∈ cfg.sources ∧ node.identifier ≠ "" ∧
          namespaceIndex = node.namespaceIndex ∧ identifier = node.identifier
    | .writeValueAttribute namespaceIndex identifier _ =>
        exists node, node ∈ cfg.targets ∧ node.identifier ≠ "" ∧
          namespaceIndex = node.namespaceIndex ∧ identifier = node.identifier
    | _ => True

end UaCall

instance : LibraryCalls OpcUaAdapterConfig OpcUaEquipmentMapping UaClientHandle
    Open62541 UaCall where
  usage := UaCall.usage
  calls := UaClientHandle.calls
  holding := UaClientHandle.client
  ready _ _ := True

namespace UaClientHandle

variable {lib : Open62541} {cfg : OpcUaAdapterConfig} {s : UaClientHandle}

abbrev Kept (lib : Open62541) (cfg : OpcUaAdapterConfig) (s : UaClientHandle) : Prop :=
  LibraryCalls.Kept OpcUaEquipmentMapping lib cfg s

theorem Kept.call (h : Kept lib cfg s) (hclient : s.client = true) {c : UaCall}
    (hcustody : (UaCall.usage lib cfg).custody s.calls c = .use)
    (hpermits : (UaCall.usage lib cfg).permits s.calls c) : Kept lib cfg (s.call c) := by
  have hholds : (UaCall.usage lib cfg).Holds s.calls s.client := h
  rw [hclient] at hholds
  have hcall := hholds.use hcustody hpermits
  rw [← hclient] at hcall
  exact hcall

theorem kept_close (h : Kept lib cfg s) :
    Kept lib cfg s.close ∧ s.close.client = false := by
  have hholds : (UaCall.usage lib cfg).Holds s.calls s.client := h
  unfold close
  split
  · rename_i hclient
    rw [hclient] at hholds
    exact ⟨hholds.release rfl trivial, rfl⟩
  · rename_i hclient
    exact ⟨h, Bool.eq_false_of_not_eq_true hclient⟩

end UaClientHandle

namespace OpcUaIndustrialAdapter

open UaClientHandle

variable {lib : Open62541} {cfg : OpcUaAdapterConfig}

theorem kept_readNode {value : Type} (decode : UaVariant -> Option value)
    {node : OpcUaNodeRef} (hnode : node ∈ cfg.sources) {s : UaClientHandle}
    (h : Kept lib cfg s) : Kept lib cfg (readNode lib decode node s).2 := by
  unfold readNode
  split
  · exact h
  · rename_i hguard
    have hopen : s.client = true ∧ node.identifier ≠ "" := by simpa using hguard
    have hread := h.call hopen.1
      (c := .readValueAttribute node.namespaceIndex node.identifier) rfl
      ⟨node, hnode, hopen.2, rfl, rfl⟩
    dsimp only
    split
    · exact hread
    · exact hread

theorem kept_writeNode (value : UaVariant) {node : OpcUaNodeRef}
    (hnode : node ∈ cfg.targets) {link : OpcUaLink} (h : Kept lib cfg link.session) :
    Kept lib cfg (writeNode lib node value link).2.session := by
  unfold writeNode
  split
  · exact h
  · rename_i hguard
    have hopen : link.session.client = true ∧ node.identifier ≠ "" := by
      simpa using hguard
    have hwritten := h.call hopen.1
      (c := .writeValueAttribute node.namespaceIndex node.identifier value) rfl
      ⟨node, hnode, hopen.2, rfl, rfl⟩
    dsimp only
    split
    · exact hwritten
    · exact hwritten

theorem kept_refreshSteps {m : OpcUaEquipmentMapping} (hm : m ∈ cfg.equipment) :
    forall step, step ∈ refreshSteps lib m ->
      step.Keeps (fun link : OpcUaLink => Ready OpcUaEquipmentMapping lib cfg link.session)
        (fun link => Ready OpcUaEquipmentMapping lib cfg link.session) := by
  have hread : forall {value : Type} (decode : UaVariant -> Option value)
      {node : OpcUaNodeRef},
      node ∈ m.telemetry.map OpcUaTelemetryMapping.node ++ [m.stateNode, m.faultNode] ->
        ReadStep.ReadKeeps
          (fun link : OpcUaLink => Ready OpcUaEquipmentMapping lib cfg link.session)
          (fun link => Ready OpcUaEquipmentMapping lib cfg link.session)
          (Link.onSession (readNode lib decode node)) := by
    intro value decode node hnode
    exact ReadStep.readKeeps_self fun link hlink =>
      ⟨kept_readNode decode (List.mem_flatMap.mpr ⟨m, hm, hnode⟩) hlink.1, trivial⟩
  apply ReadStep.signalSteps_keep
  · intro p hp
    rcases List.mem_map.mp hp with ⟨point, hpoint, rfl⟩
    exact hread _ (List.mem_append_left _ (List.mem_map_of_mem hpoint))
  · intro read hr
    split at hr <;> cases hr
    exact hread _ (List.mem_append_right _ List.mem_cons_self)
  · intro read hr
    split at hr <;> cases hr
    exact hread _ (List.mem_append_right _ (List.mem_cons_of_mem _ List.mem_cons_self))

theorem kept_runCommand (command : String) (parameter : Double)
    {m : OpcUaEquipmentMapping} (hm : m ∈ cfg.equipment) {link : OpcUaLink}
    (h : Kept lib cfg link.session) :
    Kept lib cfg (runCommand lib command parameter m link).2.session := by
  unfold runCommand Link.execute runMapped
  cases link.connectionState with
  | disconnected => exact h
  | faulted => exact h
  | connected =>
      cases hfind : m.commands.find? (fun entry => entry.command = command) with
      | none => exact h
      | some mapped =>
          have hnode : mapped.node ∈ cfg.targets :=
            List.mem_flatMap.mpr
              ⟨m, hm, List.mem_map_of_mem (List.mem_of_find?_eq_some hfind)⟩
          dsimp only
          rw [Link.written_snd]
          split
          · exact kept_writeNode _ hnode h
          · exact kept_writeNode _ hnode h

theorem kept_connect {a : OpcUaIndustrialAdapter} (h : Kept lib a.config a.link.session) :
    Kept lib a.config (connect lib a).2.link.session := by
  rcases kept_close h with ⟨hclosed, hnone⟩
  have hholds : (UaCall.usage lib a.config).Holds a.link.session.close.calls
      a.link.session.close.client := hclosed
  rw [hnone] at hholds
  unfold connect
  split
  · exact h
  · split
    · exact h
    · dsimp only
      split
      · rename_i hnew
        have hfailed : lib.new (a.link.session.close.call .new).calls = false := by
          simpa using hnew
        have hrefused : (UaCall.usage lib a.config).custody a.link.session.close.calls
            .new = .refuse := if_neg (Bool.not_eq_true _ ▸ hfailed)
        have hafter := hholds.refuse hrefused trivial
        rw [← hnone] at hafter
        exact hafter
      · rename_i hnew
        have hdone : lib.new (a.link.session.close.call .new).calls = true := by
          simpa using hnew
        have hacquired : (UaCall.usage lib a.config).custody a.link.session.close.calls
            .new = .acquire := if_pos hdone
        have hasked : (UaCall.usage lib a.config).Holds
            ((a.link.session.close.call .new).call (.connect a.config.endpointUrl)).calls
            true := (hholds.acquire hacquired trivial).use rfl rfl
        split
        · have hdeleted := hasked.release (c := UaCall.delete) rfl trivial
          rw [← hnone] at hdeleted
          exact hdeleted
        · exact hasked

end OpcUaIndustrialAdapter

instance : LawfulUse OpcUaAdapterConfig OpcUaEquipmentMapping UaClientHandle where
  close_kept _ _ _ := UaClientHandle.kept_close
  prepare_ready _ _ _ h := h
  connect_kept _ _ _ h := ⟨OpcUaIndustrialAdapter.kept_connect h, fun _ => trivial⟩
  plan_ready _ _ _ hm := ReadPlan.keeps_fixed (OpcUaIndustrialAdapter.kept_refreshSteps hm)
  fail_session _ := rfl
  run_ready _ _ command parameter _ _ hm h :=
    ⟨OpcUaIndustrialAdapter.kept_runCommand command parameter hm h.1, trivial⟩

end VirtualFactory
