import VirtualFactory.Industrial.Answers
import VirtualFactory.Industrial.OpcUa

/-!
# What an OPC UA server answers to a poll
-/

namespace VirtualFactory

open Foundation

/-- How a node is read; a node without an identifier is not. -/
inductive OpcUaNodeRef.Asked (lib : Open62541) (node : OpcUaNodeRef)
    (before : List UaCall) : Option UaVariant -> List UaCall -> Prop
  | unmapped (h : node.identifier = "") : Asked lib node before none before
  | answered (h : node.identifier ≠ "") :
      Asked lib node before
        (lib.value
          (.readValueAttribute node.namespaceIndex node.identifier :: before)).toOption
        (.readValueAttribute node.namespaceIndex node.identifier :: before)

theorem OpcUaNodeRef.Asked.suffix {lib : Open62541} {node : OpcUaNodeRef}
    {before after : List UaCall} {x : Option UaVariant}
    (h : node.Asked lib before x after) : before <:+ after := by
  cases h with
  | unmapped => exact List.suffix_refl _
  | answered => exact List.suffix_cons _ _

namespace OpcUaIndustrialAdapter

/-- The nodes that a machine reads, with the signal that each is for. -/
def signalSources (m : OpcUaEquipmentMapping) : List (SignalEntry × OpcUaNodeRef) :=
  m.telemetry.map (fun point => (.telemetry point.name point.unit, point.node)) ++
    ((if m.stateNode.identifier ≠ "" then [(.state, m.stateNode)] else []) ++
      (if m.faultNode.identifier ≠ "" then [(.fault, m.faultNode)] else []))

/-- The signal at a position is what the server answers at the node of that signal. -/
def Answers (lib : Open62541) (m : OpcUaEquipmentMapping) (n : Nat)
    (value : Option Reading) (before after : List UaCall) : Prop :=
  exists entry node x, (signalSources m)[n]? = some (entry, node) ∧
    node.Asked lib before x after ∧ value = x.bind (fun v => entry.reading v.asDouble v.asBool)

def readSignal (lib : Open62541) : SignalEntry -> OpcUaNodeRef -> ReadStep OpcUaLink
  | .telemetry name unit, ref => .telemetry name unit (readDouble lib ref)
  | .state, ref => .state (readBoolean lib ref)
  | .fault, ref => .fault (readBoolean lib ref)

theorem refreshSteps_eq (lib : Open62541) (m : OpcUaEquipmentMapping) :
    refreshSteps lib m = (signalSources m).map (fun p => readSignal lib p.1 p.2) := by
  unfold refreshSteps signalSources ReadStep.signalSteps
  rw [List.map_append, List.map_append, List.map_map, List.map_map]
  congr 1
  split <;> split <;> rfl

theorem readNode_asked {value : Type} (lib : Open62541)
    (decode : UaVariant -> Option value) (node : OpcUaNodeRef) {s : UaClientHandle}
    (hopen : IsOpen s) :
    let r := readNode lib decode node s
    IsOpen r.2 ∧ exists x, node.Asked lib s.calls x r.2.calls ∧ r.1 = x.bind decode := by
  have hclient : s.client = true := hopen
  unfold readNode
  by_cases hnode : node.identifier = ""
  · rw [hclient, if_pos (by simp [hnode])]
    exact ⟨hopen, none, .unmapped hnode, rfl⟩
  · rw [hclient, if_neg (by simp [hnode])]
    have hasked : node.Asked lib s.calls _ _ := .answered hnode
    dsimp only
    split
    · rename_i text hvalue
      replace hvalue : lib.value (.readValueAttribute node.namespaceIndex
        node.identifier :: s.calls) = .error text := hvalue
      rw [hvalue] at hasked
      exact ⟨hopen, none, hasked, rfl⟩
    · rename_i variant hvalue
      replace hvalue : lib.value (.readValueAttribute node.namespaceIndex
        node.identifier :: s.calls) = .ok variant := hvalue
      rw [hvalue] at hasked
      exact ⟨hopen, some variant, hasked, rfl⟩

theorem readSignal_asked (lib : Open62541) (entry : SignalEntry) (node : OpcUaNodeRef)
    {link : OpcUaLink} (hopen : IsOpen link.session) :
    let r := (readSignal lib entry node).perform link
    IsOpen r.2.session ∧ exists x, node.Asked lib link.session.calls x r.2.session.calls ∧
      r.1 = x.bind (fun v => entry.reading v.asDouble v.asBool) := by
  have hdouble := readNode_asked lib UaVariant.asDouble node hopen
  have hboolean := readNode_asked lib UaVariant.asBool node hopen
  cases entry with
  | telemetry name unit =>
      rcases hdouble with ⟨hafter, x, hasked, hx⟩
      refine ⟨hafter, x, hasked, (congrArg (Option.map _) hx).trans ?_⟩
      cases x <;> rfl
  | state =>
      rcases hboolean with ⟨hafter, x, hasked, hx⟩
      refine ⟨hafter, x, hasked, (congrArg (Option.map _) hx).trans ?_⟩
      cases x <;> rfl
  | fault =>
      rcases hboolean with ⟨hafter, x, hasked, hx⟩
      refine ⟨hafter, x, hasked, (congrArg (Option.map _) hx).trans ?_⟩
      cases x <;> rfl

instance : SignalAnswers OpcUaAdapterConfig OpcUaEquipmentMapping UaClientHandle
    UaCall where
  calls s := s.calls
  Answers lib _ := Answers lib
  Serves _ := IsOpen
  serves_prepare _ _ hopen := hopen
  calls_prepare _ _ := rfl
  calls_fail _ := rfl
  plan_answered lib _ m := by
    show (ReadPlan.fixed (refreshSteps lib m)).Answered _ _ _
    rw [refreshSteps_eq]
    apply ReadPlan.answered_fixed
    intro n p link hp hopen
    rcases readSignal_asked lib p.1 p.2 hopen with ⟨hafter, x, hasked, hx⟩
    exact ⟨hafter, hasked.suffix, p.1, p.2, x, hp, hasked, hx⟩

end OpcUaIndustrialAdapter

end VirtualFactory
