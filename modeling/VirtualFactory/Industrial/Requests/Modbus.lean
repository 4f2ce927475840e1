import VirtualFactory.Industrial.Modbus
import VirtualFactory.Industrial.ProtocolWire

/-!
# The requests of Modbus TCP

The reads and writes that a Modbus session makes, with the unit each of them is for.
-/

namespace VirtualFactory

open Foundation


/-- What reaches the device, with the unit it is for. -/
inductive ModbusRequest where
  | read (unitId : Option UInt8) (table : ModbusTable) (address : UInt16)
  | writeCoil (unitId : Option UInt8) (address : UInt16) (value : Bool)
  | writeHoldingRegister (unitId : Option UInt8) (address : UInt16) (value : UInt16)
  deriving DecidableEq

namespace ModbusRequest

def isWrite : ModbusRequest -> Bool
  | read _ _ _ => false
  | writeCoil _ _ _ => true
  | writeHoldingRegister _ _ _ => true

/-- The unit that was selected last on the context. -/
def selectedUnit : List ModbusCall -> Option UInt8
  | [] => none
  | .newTcp _ _ :: _ => none
  | .setSlave unitId :: _ => some unitId
  | _ :: earlier => selectedUnit earlier

def ofCall (unitId : Option UInt8) : ModbusCall -> Option ModbusRequest
  | .readBits address => some (.read unitId .coil address)
  | .readInputBits address => some (.read unitId .discreteInput address)
  | .readRegisters address => some (.read unitId .holdingRegister address)
  | .readInputRegisters address => some (.read unitId .inputRegister address)
  | .writeBit address value => some (.writeCoil unitId address value)
  | .writeRegister address value => some (.writeHoldingRegister unitId address value)
  | _ => none

def ofCalls : List ModbusCall -> List ModbusRequest
  | [] => []
  | c :: earlier => ofCalls earlier ++ (ofCall (selectedUnit earlier) c).toList

def ofSession (s : ModbusTcpSession) : List ModbusRequest :=
  ofCalls s.calls

/-- Nothing is asked for a point that is not mapped. -/
def readOf (ref : ModbusRef) : List ModbusRequest :=
  if ref.mapped then [.read (some ref.unitId) ref.table ref.address] else []

/-- A write goes to a coil or to a holding register; the other tables are read-only. -/
def writeOf (ref : ModbusRef) (bit : Bool) (word : UInt16) : List ModbusRequest :=
  if !ref.mapped then []
  else
    match ref.table with
    | .coil => [.writeCoil (some ref.unitId) ref.address bit]
    | .holdingRegister => [.writeHoldingRegister (some ref.unitId) ref.address word]
    | .discreteInput => []
    | .inputRegister => []

def scan (m : ModbusEquipmentMapping) : List ModbusRequest :=
  m.telemetry.flatMap (fun point => readOf point.source) ++
    (readOf m.stateCoil ++ readOf m.faultCoil)

def ofCommand (command : String) (parameter : Double) (mapped : ModbusCommandMapping) :
    List ModbusRequest :=
  if isSetCommand command then
    writeOf mapped.target (!parameter.isZero)
      (ModbusIndustrialAdapter.registerValue parameter)
  else writeOf mapped.target true 1

theorem filter_readOf (ref : ModbusRef) : (readOf ref).filter isWrite = [] := by
  unfold readOf
  split <;> rfl

theorem filter_writeOf (ref : ModbusRef) (bit : Bool) (word : UInt16) :
    (writeOf ref bit word).filter isWrite = writeOf ref bit word := by
  unfold writeOf
  split
  · rfl
  · cases ref.table <;> rfl

theorem length_writeOf (ref : ModbusRef) (bit : Bool) (word : UInt16) :
    (writeOf ref bit word).length ≤ 1 := by
  unfold writeOf
  split
  · exact Nat.zero_le 1
  · cases ref.table <;> simp

theorem ofSession_call {s : ModbusTcpSession} {c : ModbusCall}
    (h : ofCall (selectedUnit s.calls) c = none) : ofSession (s.call c) = ofSession s := by
  show ofCalls s.calls ++ (ofCall (selectedUnit s.calls) c).toList = _
  rw [h]
  exact List.append_nil _

theorem ofSession_close (s : ModbusTcpSession) : ofSession s.close = ofSession s := by
  unfold ModbusTcpSession.close
  split
  · exact ofSession_call rfl
  · rfl

theorem prepare_selects (lib : Libmodbus) (unitId : UInt8) (s : ModbusTcpSession) :
    ofSession (s.prepare lib unitId).2 = ofSession s ∧
      ((s.prepare lib unitId).1 = true ->
        selectedUnit (s.prepare lib unitId).2.calls = some unitId) := by
  have hcall : ofSession (s.call (.setSlave unitId)) = ofSession s := ofSession_call rfl
  unfold ModbusTcpSession.prepare
  split
  · exact ⟨rfl, fun h => Bool.noConfusion h⟩
  · dsimp only
    split
    · exact ⟨hcall, fun h => Bool.noConfusion h⟩
    · exact ⟨hcall, fun _ => rfl⟩

theorem transact_follows {answer : Type} (lib : Libmodbus) (unitId : UInt8)
    {c : ModbusCall} {r : ModbusRequest} (hcall : ofCall (some unitId) c = some r)
    (what : String) (reply : List ModbusCall -> Except String answer)
    (s : ModbusTcpSession) :
    Follows ofSession [r] (s.transact lib unitId c what reply).1.isSome s
      (s.transact lib unitId c what reply).2 := by
  have hprepare := prepare_selects lib unitId s
  unfold ModbusTcpSession.transact
  split
  · rename_i s' hs'
    rw [hs'] at hprepare
    exact follows_failed hprepare.left _
  · rename_i s' hs'
    rw [hs'] at hprepare
    have hsent : ofSession (s'.call c) = ofSession s ++ [r] := by
      show ofCalls s'.calls ++ (ofCall (selectedUnit s'.calls) c).toList = _
      rw [hprepare.right rfl, hcall]
      exact congrArg (· ++ [r]) hprepare.left
    dsimp only
    split <;> exact follows_whole hsent _

theorem readPoint_follows {value : Type} (lib : Libmodbus) (ofBit : Bool -> value)
    (ofWord : UInt16 -> value) (ref : ModbusRef) (s : ModbusTcpSession) :
    Follows ofSession (readOf ref)
      (ModbusIndustrialAdapter.readPoint lib ofBit ofWord ref s).1.isSome s
      (ModbusIndustrialAdapter.readPoint lib ofBit ofWord ref s).2 := by
  unfold ModbusIndustrialAdapter.readPoint
  split
  · exact follows_failed rfl _
  · rename_i hmapped
    have hread : readOf ref = [.read (some ref.unitId) ref.table ref.address] := by
      unfold readOf
      rw [if_pos]
      cases href : ref.mapped with
      | true => rfl
      | false => simp [href] at hmapped
    rw [hread]
    cases ref.table <;> dsimp only <;> rw [Option.isSome_map] <;>
      exact transact_follows lib ref.unitId rfl _ _ s

theorem writePoint_follows (lib : Libmodbus) (ref : ModbusRef) (bit : Bool)
    (word : UInt16) (link : ModbusLink) :
    Follows ofSession (writeOf ref bit word)
      (ModbusIndustrialAdapter.writePoint
        (ModbusTcpSession.writeCoil lib ref.unitId ref.address bit)
        (ModbusTcpSession.writeHoldingRegister lib ref.unitId ref.address word) ref
        link).1 link.session
      (ModbusIndustrialAdapter.writePoint
        (ModbusTcpSession.writeCoil lib ref.unitId ref.address bit)
        (ModbusTcpSession.writeHoldingRegister lib ref.unitId ref.address word) ref
        link).2.session := by
  have hcoil := transact_follows lib ref.unitId (c := .writeBit ref.address bit) rfl
    "coil write failed" lib.done link.session
  have hword := transact_follows lib ref.unitId (c := .writeRegister ref.address word) rfl
    "holding-register write failed" lib.done link.session
  unfold ModbusIndustrialAdapter.writePoint
  split
  · exact follows_failed rfl _
  · rename_i hmapped
    have hwrite : ¬ ((!ref.mapped) = true) := by
      cases href : ref.mapped with
      | true => simp
      | false => simp [href] at hmapped
    unfold writeOf
    rw [if_neg hwrite]
    dsimp only
    cases ref.table with
    | coil =>
        dsimp only
        split
        · exact hcoil.weaken (fun h => Bool.noConfusion h)
        · rename_i hsome
          exact hcoil.weaken (fun _ => by
            rw [show (ModbusTcpSession.transact lib ref.unitId _ _ lib.done
              link.session).1 = some _ from hsome]
            rfl)
    | holdingRegister =>
        dsimp only
        split
        · exact hword.weaken (fun h => Bool.noConfusion h)
        · rename_i hsome
          exact hword.weaken (fun _ => by
            rw [show (ModbusTcpSession.transact lib ref.unitId _ _ lib.done
              link.session).1 = some _ from hsome]
            rfl)
    | discreteInput => exact follows_failed rfl _
    | inputRegister => exact follows_failed rfl _

theorem refreshSteps_say (lib : Libmodbus) (m : ModbusEquipmentMapping) :
    ReadStep.RefreshSays (fun link : ModbusLink => ofSession link.session)
      (fun _ => True) (scan m) (ModbusIndustrialAdapter.refreshSteps lib m) := by
  have hread : forall {value : Type} (ofBit : Bool -> value) (ofWord : UInt16 -> value)
      (ref : ModbusRef),
      ReadStep.ReadSays (fun link : ModbusLink => ofSession link.session)
        (fun _ => True) (readOf ref)
        (Link.onSession (ModbusIndustrialAdapter.readPoint lib ofBit ofWord ref)) :=
    fun ofBit ofWord ref link _ =>
      ⟨trivial, readPoint_follows lib ofBit ofWord ref link.session⟩
  have hsignal : forall ref : ModbusRef,
      ReadStep.SignalSays (fun link : ModbusLink => ofSession link.session)
        (fun _ => True) (readOf ref)
        (if ref.mapped then some (ModbusIndustrialAdapter.readBoolean lib ref)
          else none) := by
    intro ref
    split
    · exact hread _ _ ref
    · rename_i hmapped
      exact if_neg hmapped
  exact ReadStep.signalSteps_says (fun point _ => hread _ _ point.source)
    (hsignal m.stateCoil) (hsignal m.faultCoil)

theorem runCommand_follows (lib : Libmodbus) (command : String) (parameter : Double)
    (m : ModbusEquipmentMapping) (link : ModbusLink) :
    Follows ofSession
      ((m.commands.find? (fun entry => entry.command = command)).elim []
        (ofCommand command parameter))
      (ModbusIndustrialAdapter.runCommand lib command parameter m link).1.accepted
      link.session
      (ModbusIndustrialAdapter.runCommand lib command parameter m link).2.session := by
  apply Link.execute_follows
  intro mapped
  apply Link.written_follows
  unfold ofCommand
  split
  · exact writePoint_follows lib mapped.target _ _ link
  · exact writePoint_follows lib mapped.target true 1 link

theorem ofSession_connect (lib : Libmodbus) (host : String) (port : UInt16)
    (timeoutMs : Int) (s : ModbusTcpSession) :
    ofSession (s.connect lib host port timeoutMs).2 = ofSession s := by
  have hcreated : ofSession (s.close.call (.newTcp host port.toNat)) = ofSession s :=
    (ofSession_call rfl).trans (ofSession_close s)
  have hasked : ofSession
      ((((s.close.call (.newTcp host port.toNat)).applyTimeout timeoutMs).call
        .setErrorRecoveryNone).call .connect) = ofSession s :=
    (ofSession_call rfl).trans
      ((ofSession_call rfl).trans ((ofSession_call rfl).trans hcreated))
  unfold ModbusTcpSession.connect
  dsimp only
  split
  · exact hcreated
  · split
    · exact (ofSession_close _).trans hasked
    · exact hasked

theorem connect_follows (lib : Libmodbus) (a : ModbusIndustrialAdapter)
    (h : a.link.connectionState ≠ .connected) :
    Follows ofSession [] (ModbusIndustrialAdapter.connect lib a).1 a.link.session
      (ModbusIndustrialAdapter.connect lib a).2.link.session := by
  have hsession := (ofSession_connect lib a.config.host a.config.port a.config.timeoutMs
    a.link.session.close).trans (ofSession_close a.link.session)
  unfold ModbusIndustrialAdapter.connect
  rw [if_neg h]
  split
  · exact follows_nil rfl _
  · dsimp only
    split <;> exact follows_nil hsession _

end ModbusRequest

instance : ProtocolWire ModbusAdapterConfig ModbusEquipmentMapping ModbusTcpSession
    Libmodbus ModbusRequest Unit where
  requests := ModbusRequest.ofSession
  isWrite := ModbusRequest.isWrite
  contextOf _ := ()
  scan _ := ModbusRequest.scan
  commanded _ _ command parameter m :=
    (m.commands.find? (fun entry => entry.command = command)).elim []
      (ModbusRequest.ofCommand command parameter)
  greeting _ := []
  scan_reads _ m := by
    unfold ModbusRequest.scan
    simp [List.filter_append, List.filter_flatMap, ModbusRequest.filter_readOf]
  greeting_reads _ := rfl
  commanded_writes _ _ command parameter m := by
    cases m.commands.find? (fun entry => entry.command = command) with
    | none => rfl
    | some mapped =>
        show List.filter _ (ModbusRequest.ofCommand command parameter mapped) = _
        unfold ModbusRequest.ofCommand
        split <;> exact ModbusRequest.filter_writeOf _ _ _
  commanded_once _ _ command parameter m := by
    cases m.commands.find? (fun entry => entry.command = command) with
    | none => exact Nat.zero_le 1
    | some mapped =>
        show (ModbusRequest.ofCommand command parameter mapped).length ≤ 1
        unfold ModbusRequest.ofCommand
        split <;> exact ModbusRequest.length_writeOf _ _ _
  close_requests := ModbusRequest.ofSession_close
  prepare_requests _ _ := rfl
  prepare_context _ _ := rfl
  fail_session _ := rfl
  connect_follows := ModbusRequest.connect_follows
  plan_follows lib m e link :=
    ⟨rfl, (ModbusRequest.refreshSteps_say lib m e link trivial).right⟩
  run_follows lib _ := ModbusRequest.runCommand_follows lib

end VirtualFactory
