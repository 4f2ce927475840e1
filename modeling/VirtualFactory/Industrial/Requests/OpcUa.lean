import VirtualFactory.Industrial.OpcUa
import VirtualFactory.Industrial.ProtocolWire

/-!
# The requests of OPC UA

The node values that an OPC UA client reads and writes.
-/

namespace VirtualFactory

open Foundation


inductive OpcUaRequest where
  | read (namespaceIndex : UInt16) (identifier : String)
  | write (namespaceIndex : UInt16) (identifier : String) (value : UaVariant)
  deriving DecidableEq

namespace OpcUaRequest

def isWrite : OpcUaRequest -> Bool
  | read _ _ => false
  | write _ _ _ => true

def ofCall : UaCall -> Option OpcUaRequest
  | .readValueAttribute namespaceIndex identifier =>
      some (.read namespaceIndex identifier)
  | .writeValueAttribute namespaceIndex identifier value =>
      some (.write namespaceIndex identifier value)
  | _ => none

def ofSession (s : UaClientHandle) : List OpcUaRequest :=
  chronicle ofCall s.calls

/-- A node without an identifier is not mapped. -/
def readOf (node : OpcUaNodeRef) : List OpcUaRequest :=
  if node.identifier = "" then [] else [.read node.namespaceIndex node.identifier]

def writeOf (node : OpcUaNodeRef) (value : UaVariant) : List OpcUaRequest :=
  if node.identifier = "" then []
  else [.write node.namespaceIndex node.identifier value]

def scan (m : OpcUaEquipmentMapping) : List OpcUaRequest :=
  m.telemetry.flatMap (fun point => readOf point.node) ++
    (readOf m.stateNode ++ readOf m.faultNode)

def ofCommand (command : String) (parameter : Double) (mapped : OpcUaCommandMapping) :
    List OpcUaRequest :=
  writeOf mapped.node
    (if isSetCommand command then .double parameter else .boolean true)

theorem filter_readOf (node : OpcUaNodeRef) : (readOf node).filter isWrite = [] := by
  unfold readOf
  split <;> rfl

theorem filter_writeOf (node : OpcUaNodeRef) (value : UaVariant) :
    (writeOf node value).filter isWrite = writeOf node value := by
  unfold writeOf
  split <;> rfl

theorem length_writeOf (node : OpcUaNodeRef) (value : UaVariant) :
    (writeOf node value).length ≤ 1 := by
  unfold writeOf
  split <;> simp

theorem ofSession_call (s : UaClientHandle) (c : UaCall) :
    ofSession (s.call c) = ofSession s ++ (ofCall c).toList :=
  chronicle_cons ofCall c s.calls

theorem ofSession_close (s : UaClientHandle) : ofSession s.close = ofSession s := by
  unfold UaClientHandle.close
  split
  · exact (ofSession_call s _).trans (List.append_nil _)
  · rfl

theorem readNode_follows {value : Type} (lib : Open62541)
    (decode : UaVariant -> Option value) (node : OpcUaNodeRef) (s : UaClientHandle) :
    Follows ofSession (readOf node)
      (OpcUaIndustrialAdapter.readNode lib decode node s).1.isSome s
      (OpcUaIndustrialAdapter.readNode lib decode node s).2 := by
  unfold OpcUaIndustrialAdapter.readNode
  split
  · exact follows_failed rfl _
  · rename_i hmapped
    have hread : readOf node = [.read node.namespaceIndex node.identifier] := by
      unfold readOf
      rw [if_neg]
      intro hempty
      simp [hempty] at hmapped
    have hsent := ofSession_call s
      (.readValueAttribute node.namespaceIndex node.identifier)
    rw [hread]
    dsimp only
    split <;> exact follows_whole hsent _

theorem writeNode_follows (lib : Open62541) (node : OpcUaNodeRef) (value : UaVariant)
    (link : OpcUaLink) :
    Follows ofSession (writeOf node value)
      (OpcUaIndustrialAdapter.writeNode lib node value link).1 link.session
      (OpcUaIndustrialAdapter.writeNode lib node value link).2.session := by
  unfold OpcUaIndustrialAdapter.writeNode
  split
  · exact follows_failed rfl _
  · rename_i hmapped
    have hwrite : writeOf node value =
        [.write node.namespaceIndex node.identifier value] := by
      unfold writeOf
      rw [if_neg]
      intro hempty
      simp [hempty] at hmapped
    have hsent := ofSession_call link.session
      (.writeValueAttribute node.namespaceIndex node.identifier value)
    rw [hwrite]
    dsimp only
    split <;> exact follows_whole hsent _

theorem refreshSteps_say (lib : Open62541) (m : OpcUaEquipmentMapping) :
    ReadStep.RefreshSays (fun link : OpcUaLink => ofSession link.session)
      (fun _ => True) (scan m) (OpcUaIndustrialAdapter.refreshSteps lib m) := by
  have hread : forall {value : Type} (decode : UaVariant -> Option value)
      (node : OpcUaNodeRef),
      ReadStep.ReadSays (fun link : OpcUaLink => ofSession link.session)
        (fun _ => True) (readOf node)
        (Link.onSession (OpcUaIndustrialAdapter.readNode lib decode node)) :=
    fun decode node link _ =>
      ⟨trivial, readNode_follows lib decode node link.session⟩
  have hsignal : forall node : OpcUaNodeRef,
      ReadStep.SignalSays (fun link : OpcUaLink => ofSession link.session)
        (fun _ => True) (readOf node)
        (if node.identifier ≠ "" then
          some (OpcUaIndustrialAdapter.readBoolean lib node) else none) := by
    intro node
    split
    · exact hread _ node
    · rename_i hempty
      exact if_pos (not_not.mp hempty)
  exact ReadStep.signalSteps_says (fun point _ => hread _ point.node)
    (hsignal m.stateNode) (hsignal m.faultNode)

theorem runCommand_follows (lib : Open62541) (command : String) (parameter : Double)
    (m : OpcUaEquipmentMapping) (link : OpcUaLink) :
    Follows ofSession
      ((m.commands.find? (fun entry => entry.command = command)).elim []
        (ofCommand command parameter))
      (OpcUaIndustrialAdapter.runCommand lib command parameter m link).1.accepted
      link.session
      (OpcUaIndustrialAdapter.runCommand lib command parameter m link).2.session := by
  apply Link.execute_follows
  intro mapped
  apply Link.written_follows
  unfold ofCommand
  split <;> exact writeNode_follows lib mapped.node _ link

theorem connect_follows (lib : Open62541) (a : OpcUaIndustrialAdapter)
    (h : a.link.connectionState ≠ .connected) :
    Follows ofSession [] (OpcUaIndustrialAdapter.connect lib a).1 a.link.session
      (OpcUaIndustrialAdapter.connect lib a).2.link.session := by
  have hnew : ofSession (a.link.session.close.call .new) = ofSession a.link.session :=
    (ofSession_call _ _).trans ((List.append_nil _).trans (ofSession_close _))
  have hasked : ofSession
      ((a.link.session.close.call .new).call (.connect a.config.endpointUrl)) =
        ofSession a.link.session :=
    (ofSession_call _ _).trans ((List.append_nil _).trans hnew)
  unfold OpcUaIndustrialAdapter.connect
  rw [if_neg h]
  split
  · exact follows_nil rfl _
  · dsimp only
    split
    · exact follows_nil hnew _
    · split
      · exact follows_nil ((ofSession_call _ _).trans ((List.append_nil _).trans hasked)) _
      · exact follows_nil hasked _

end OpcUaRequest

instance : ProtocolWire OpcUaAdapterConfig OpcUaEquipmentMapping UaClientHandle
    Open62541 OpcUaRequest Unit where
  requests := OpcUaRequest.ofSession
  isWrite := OpcUaRequest.isWrite
  contextOf _ := ()
  scan _ := OpcUaRequest.scan
  commanded _ _ command parameter m :=
    (m.commands.find? (fun entry => entry.command = command)).elim []
      (OpcUaRequest.ofCommand command parameter)
  greeting _ := []
  scan_reads _ m := by
    unfold OpcUaRequest.scan
    simp [List.filter_append, List.filter_flatMap, OpcUaRequest.filter_readOf]
  greeting_reads _ := rfl
  commanded_writes _ _ command parameter m := by
    cases m.commands.find? (fun entry => entry.command = command) with
    | none => rfl
    | some mapped => exact OpcUaRequest.filter_writeOf mapped.node _
  commanded_once _ _ command parameter m := by
    cases m.commands.find? (fun entry => entry.command = command) with
    | none => exact Nat.zero_le 1
    | some mapped => exact OpcUaRequest.length_writeOf mapped.node _
  close_requests := OpcUaRequest.ofSession_close
  prepare_requests _ _ := rfl
  prepare_context _ _ := rfl
  fail_session _ := rfl
  connect_follows := OpcUaRequest.connect_follows
  plan_follows lib m e link :=
    ⟨rfl, (OpcUaRequest.refreshSteps_say lib m e link trivial).right⟩
  run_follows lib _ := OpcUaRequest.runCommand_follows lib

end VirtualFactory
