import VirtualFactory.Industrial.Answers.OpcUa
import VirtualFactory.Industrial.Feedback
import VirtualFactory.Industrial.Requests.OpcUa

/-!
# Nodes that keep what is written

A variable of an OPC UA server as a place that commands write to and polls read from.
-/

namespace VirtualFactory

open Foundation

/-- What a call writes to a node. -/
def UaCall.stores (node : OpcUaNodeRef) : UaCall -> Option UaVariant
  | .writeValueAttribute namespaceIndex identifier value =>
      if namespaceIndex = node.namespaceIndex ∧ identifier = node.identifier then
        some value
      else none
  | _ => none

/-- The server keeps what is written to a node: a write that is confirmed is stored,
nothing else changes the node, and a read that succeeds answers with what it holds.  A
write that fails may have been stored or not. -/
structure Open62541.Keeps (lib : Open62541) (node : OpcUaNodeRef)
    (held : List UaCall -> UaVariant) : Prop where
  quiet : forall c calls, UaCall.stores node c = none -> held (c :: calls) = held calls
  stored : forall c calls x, UaCall.stores node c = some x ->
    lib.done (c :: calls) = .ok () -> held (c :: calls) = x
  answers : forall calls x,
    lib.value (.readValueAttribute node.namespaceIndex node.identifier :: calls) = .ok x ->
      held calls = x

namespace OpcUaIndustrialAdapter

variable {lib : Open62541} {node : OpcUaNodeRef} {held : List UaCall -> UaVariant}

theorem close_held (h : lib.Keeps node held) (s : UaClientHandle) :
    held s.close.calls = held s.calls := by
  unfold UaClientHandle.close
  split
  · exact h.quiet _ _ rfl
  · rfl

theorem connect_held (h : lib.Keeps node held) {a : OpcUaIndustrialAdapter}
    (hstate : a.link.connectionState ≠ .connected) :
    held (connect lib a).2.link.session.calls = held a.link.session.calls := by
  have hcreated : held (a.link.session.close.call .new).calls =
      held a.link.session.calls := (h.quiet _ _ rfl).trans (close_held h _)
  have hasked : held ((a.link.session.close.call .new).call
      (.connect a.config.endpointUrl)).calls = held a.link.session.calls :=
    (h.quiet _ _ rfl).trans hcreated
  unfold connect
  rw [if_neg hstate]
  split
  · rfl
  · dsimp only
    split
    · exact hcreated
    · split
      · exact (h.quiet _ _ rfl).trans hasked
      · exact hasked

theorem readNode_held {value : Type} (h : lib.Keeps node held)
    (decode : UaVariant -> Option value) (ref : OpcUaNodeRef) (s : UaClientHandle) :
    held (readNode lib decode ref s).2.calls = held s.calls ∧
      (ref = node -> forall x, (readNode lib decode ref s).1 = some x ->
        decode (held s.calls) = some x) := by
  unfold readNode
  split
  · exact ⟨rfl, fun _ x hx => by cases hx⟩
  · dsimp only
    split
    · exact ⟨h.quiet _ _ rfl, fun _ x hx => by cases hx⟩
    · rename_i variant hvariant
      refine ⟨h.quiet _ _ rfl, ?_⟩
      rintro rfl x hx
      rw [h.answers _ _ hvariant]
      exact hx

theorem writeNode_held (h : lib.Keeps node held) (ref : OpcUaNodeRef) (x : UaVariant)
    (link : OpcUaLink) :
    (¬ ref = node ->
        held (writeNode lib ref x link).2.session.calls = held link.session.calls) ∧
      (ref = node -> (writeNode lib ref x link).1 = true ->
        held (writeNode lib ref x link).2.session.calls = x) := by
  have hother : ¬ ref = node -> UaCall.stores node
      (.writeValueAttribute ref.namespaceIndex ref.identifier x) = none := by
    intro hdiffers
    apply if_neg
    rintro ⟨hnamespace, hidentifier⟩
    rcases ref with ⟨_, _⟩
    cases hnamespace
    cases hidentifier
    exact hdiffers rfl
  have hsame : ref = node -> UaCall.stores node
      (.writeValueAttribute ref.namespaceIndex ref.identifier x) = some x := by
    rintro rfl
    exact if_pos ⟨rfl, rfl⟩
  unfold writeNode
  split
  · exact ⟨fun _ => rfl, fun _ hok => Bool.noConfusion hok⟩
  · dsimp only
    split
    · exact ⟨fun hdiffers => h.quiet _ _ (hother hdiffers), fun _ hok => Bool.noConfusion hok⟩
    · rename_i hdone
      exact ⟨fun hdiffers => h.quiet _ _ (hother hdiffers),
        fun href _ => h.stored _ _ x (hsame href) hdone⟩

instance : SignalSources OpcUaAdapterConfig OpcUaEquipmentMapping UaClientHandle
    OpcUaNodeRef where
  sources := signalSources
  read := readSignal
  entries_sources m := by
    show signalEntries _ _ _ = _
    unfold signalEntries signalSources
    rw [List.map_append, List.map_append, List.map_map, List.map_map]
    congr 1
    simp only [decide_eq_true_eq]
    split <;> split <;> rfl
  plan_reads lib m _ _ _ h := by
    cases h
    exact refreshSteps_eq lib m

/-- A node as a place that commands write to. -/
def sourceCell (node : OpcUaNodeRef) (held : List UaCall -> UaVariant) :
    SourceCell OpcUaEquipmentMapping UaClientHandle OpcUaNodeRef UaVariant where
  ref := node
  held s := held s.calls
  decode entry x :=
    match entry with
    | .telemetry name unit => x.asDouble.map (fun value => .telemetry name value unit)
    | .state => x.asBool.map .state
    | .fault => x.asBool.map .fault
  targeted command m :=
    exists mapped, m.commands.find? (fun entry => entry.command = command) = some mapped ∧
      mapped.node = node
  sent command parameter :=
    if isSetCommand command then .double parameter else .boolean true

theorem readSignal_held (h : lib.Keeps node held) (entry : SignalEntry)
    (ref : OpcUaNodeRef) (link : OpcUaLink) :
    held ((readSignal lib entry ref).perform link).2.session.calls =
        held link.session.calls ∧
      (ref = node -> forall r, ((readSignal lib entry ref).perform link).1 = some r ->
        (sourceCell node held).decode entry (held link.session.calls) = some r) := by
  have hdouble := readNode_held h UaVariant.asDouble ref link.session
  have hboolean := readNode_held h UaVariant.asBool ref link.session
  cases entry with
  | telemetry name unit =>
      refine ⟨hdouble.1, fun hsame r hr => ?_⟩
      rcases Option.map_eq_some_iff.mp hr with ⟨x, hx, rfl⟩
      exact Option.map_eq_some_iff.mpr ⟨x, hdouble.2 hsame x hx, rfl⟩
  | state =>
      refine ⟨hboolean.1, fun hsame r hr => ?_⟩
      rcases Option.map_eq_some_iff.mp hr with ⟨x, hx, rfl⟩
      exact Option.map_eq_some_iff.mpr ⟨x, hboolean.2 hsame x hx, rfl⟩
  | fault =>
      refine ⟨hboolean.1, fun hsame r hr => ?_⟩
      rcases Option.map_eq_some_iff.mp hr with ⟨x, hx, rfl⟩
      exact Option.map_eq_some_iff.mpr ⟨x, hboolean.2 hsame x hx, rfl⟩

theorem runCommand_held (h : lib.Keeps node held) (command : String)
    (parameter : Double) (m : OpcUaEquipmentMapping) (link : OpcUaLink) :
    (¬ (sourceCell node held).targeted command m ->
        held (runCommand lib command parameter m link).2.session.calls =
          held link.session.calls) ∧
      ((sourceCell node held).targeted command m ->
        (runCommand lib command parameter m link).1.accepted = true ->
          held (runCommand lib command parameter m link).2.session.calls =
            (sourceCell node held).sent command parameter) := by
  apply @Link.execute_held OpcUaCommandMapping UaClientHandle UaVariant
    (fun s => held s.calls) (fun mapped => mapped.node = node)
  intro mapped link
  rw [Link.written_snd]
  have haccepted := @Link.written_of_accepted UaClientHandle "opc ua write failed"
  show _ ∧ (_ -> _ -> _ = if isSetCommand command then _ else _)
  cases hset : isSetCommand command with
  | true =>
      have hheld := writeNode_held h mapped.node (.double parameter) link
      exact ⟨hheld.1, fun hsame hok => hheld.2 hsame (haccepted hok)⟩
  | false =>
      have hheld := writeNode_held h mapped.node (.boolean true) link
      exact ⟨hheld.1, fun hsame hok => hheld.2 hsame (haccepted hok)⟩

theorem retains (h : lib.Keeps node held) :
    Retains OpcUaAdapterConfig lib (sourceCell node held) where
  connect_held _ hstate := connect_held h hstate
  close_held s := close_held h s
  prepare_held _ _ := rfl
  fail_session _ := rfl
  plan_held m x := by
    apply ReadPlan.keeps_fixed
    intro step hstep link hlink
    rw [refreshSteps_eq] at hstep
    rcases List.mem_map.mp hstep with ⟨p, _, rfl⟩
    have hkept := (readSignal_held h p.1 p.2 link).1.trans hlink
    exact ⟨fun _ => hkept, fun _ => hkept⟩
  read_held entry link r hr := (readSignal_held h entry node link).2 rfl r hr
  run_held _ command parameter m link hother :=
    (runCommand_held h command parameter m link).1 hother
  run_sent _ command parameter m link htargeted haccepted :=
    (runCommand_held h command parameter m link).2 htargeted haccepted

end OpcUaIndustrialAdapter

end VirtualFactory
