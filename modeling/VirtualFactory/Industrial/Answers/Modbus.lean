import VirtualFactory.Industrial.Answers
import VirtualFactory.Industrial.Modbus

/-!
# What a Modbus device answers to a poll
-/

namespace VirtualFactory

open Foundation

inductive ModbusValue where
  | bit (value : Bool)
  | word (value : UInt16)
  deriving DecidableEq

namespace ModbusValue

def decode {value : Type} (ofBit : Bool -> value) (ofWord : UInt16 -> value) :
    ModbusValue -> value
  | bit b => ofBit b
  | word w => ofWord w

def asBool : ModbusValue -> Bool :=
  decode (fun bit => bit) (fun word => word != 0)

def asDouble : ModbusValue -> Double :=
  decode Double.ofBool (fun word => Double.ofInt word.toNat)

end ModbusValue

/-- What the library answers to a read of a table. -/
def Libmodbus.answer (lib : Libmodbus) :
    ModbusTable -> List ModbusCall -> Except String ModbusValue
  | .coil, calls => (lib.bit calls).map (fun bit => .bit (bit != 0))
  | .discreteInput, calls => (lib.bit calls).map (fun bit => .bit (bit != 0))
  | .holdingRegister, calls => (lib.word calls).map .word
  | .inputRegister, calls => (lib.word calls).map .word

/-- The call that reads one point of a table. -/
def ModbusTable.readAt (address : UInt16) : ModbusTable -> ModbusCall
  | .coil => .readBits address
  | .discreteInput => .readInputBits address
  | .holdingRegister => .readRegisters address
  | .inputRegister => .readInputRegisters address

/-- How a point is read: its unit is selected, and then its table is read at its
address. -/
inductive ModbusRef.Asked (lib : Libmodbus) (ref : ModbusRef) (before : List ModbusCall) :
    Option ModbusValue -> List ModbusCall -> Prop
  | unmapped (h : ref.mapped = false) : Asked lib ref before none before
  | noUnit {text : String} (h : lib.done (.setSlave ref.unitId :: before) = .error text) :
      Asked lib ref before none (.setSlave ref.unitId :: before)
  | answered (h : lib.done (.setSlave ref.unitId :: before) = .ok ()) :
      Asked lib ref before
        (lib.answer ref.table
          (ref.table.readAt ref.address :: .setSlave ref.unitId :: before)).toOption
        (ref.table.readAt ref.address :: .setSlave ref.unitId :: before)

theorem ModbusRef.Asked.suffix {lib : Libmodbus} {ref : ModbusRef}
    {before after : List ModbusCall} {x : Option ModbusValue}
    (h : ref.Asked lib before x after) : before <:+ after := by
  cases h with
  | unmapped => exact List.suffix_refl _
  | noUnit => exact List.suffix_cons _ _
  | answered => exact (List.suffix_cons _ _).trans (List.suffix_cons _ _)

namespace ModbusIndustrialAdapter

/-- The points that a machine reads, with the signal that each is for. -/
def signalSources (m : ModbusEquipmentMapping) : List (SignalEntry × ModbusRef) :=
  m.telemetry.map (fun point => (.telemetry point.name point.unit, point.source)) ++
    ((if m.stateCoil.mapped then [(.state, m.stateCoil)] else []) ++
      (if m.faultCoil.mapped then [(.fault, m.faultCoil)] else []))

/-- The signal at a position is what the device answers at the point of that signal. -/
def Answers (lib : Libmodbus) (m : ModbusEquipmentMapping) (n : Nat)
    (value : Option Reading) (before after : List ModbusCall) : Prop :=
  exists entry ref x, (signalSources m)[n]? = some (entry, ref) ∧
    ref.Asked lib before x after ∧
      value = x.bind (fun v => entry.reading (some v.asDouble) (some v.asBool))

def readSignal (lib : Libmodbus) : SignalEntry -> ModbusRef -> ReadStep ModbusLink
  | .telemetry name unit, ref => .telemetry name unit (readDouble lib ref)
  | .state, ref => .state (readBoolean lib ref)
  | .fault, ref => .fault (readBoolean lib ref)

theorem refreshSteps_eq (lib : Libmodbus) (m : ModbusEquipmentMapping) :
    refreshSteps lib m = (signalSources m).map (fun p => readSignal lib p.1 p.2) := by
  unfold refreshSteps signalSources ReadStep.signalSteps
  rw [List.map_append, List.map_append, List.map_map, List.map_map]
  congr 1
  split <;> split <;> rfl

theorem transact_asked {answer : Type} (lib : Libmodbus) (ref : ModbusRef)
    (reply : List ModbusCall -> Except String answer) (toValue : answer -> ModbusValue)
    (hanswer : forall calls, lib.answer ref.table calls = (reply calls).map toValue)
    (what : String) {s : ModbusTcpSession} (hopen : IsOpen s) :
    let r := s.transact lib ref.unitId (ref.table.readAt ref.address) what reply
    IsOpen r.2 ∧ ref.Asked lib s.calls (r.1.map toValue) r.2.calls := by
  intro r
  have hctx : (!s.ctx) = false := by rw [show s.ctx = true from hopen]; rfl
  cases hunit : lib.done (.setSlave ref.unitId :: s.calls) with
  | error text =>
      have hr : r = (none, (s.call (.setSlave ref.unitId)).captureError
          "failed to set Modbus unit id" text) := by
        simp [r, ModbusTcpSession.transact, ModbusTcpSession.prepare, hctx,
          ModbusTcpSession.call, hunit]
      rw [hr]
      exact ⟨hopen, .noUnit hunit⟩
  | ok _ =>
      have hasked : ref.Asked lib s.calls _ _ := .answered hunit
      rw [hanswer] at hasked
      cases hreply : reply (ref.table.readAt ref.address :: .setSlave ref.unitId :: s.calls) with
      | error text =>
          rw [hreply] at hasked
          have hr : r = (none, ((s.call (.setSlave ref.unitId)).call
              (ref.table.readAt ref.address)).captureError what text) := by
            simp [r, ModbusTcpSession.transact, ModbusTcpSession.prepare, hctx,
              ModbusTcpSession.call, hunit, hreply]
          rw [hr]
          exact ⟨hopen, hasked⟩
      | ok v =>
          rw [hreply] at hasked
          have hr : r = (some v, { (s.call (.setSlave ref.unitId)).call
              (ref.table.readAt ref.address) with lastError := "" }) := by
            simp [r, ModbusTcpSession.transact, ModbusTcpSession.prepare, hctx,
              ModbusTcpSession.call, hunit, hreply]
          rw [hr]
          exact ⟨hopen, hasked⟩

theorem readPoint_asked {value : Type} (lib : Libmodbus) (ofBit : Bool -> value)
    (ofWord : UInt16 -> value) (ref : ModbusRef) {s : ModbusTcpSession} (hopen : IsOpen s) :
    let r := readPoint lib ofBit ofWord ref s
    IsOpen r.2 ∧ exists x, ref.Asked lib s.calls x r.2.calls ∧
      r.1 = x.map (ModbusValue.decode ofBit ofWord) := by
  have hctx : s.connected = true := hopen
  unfold readPoint
  cases hmapped : ref.mapped with
  | false => exact ⟨hopen, none, .unmapped hmapped, rfl⟩
  | true =>
      rw [hctx, if_neg (by decide)]
      cases htable : ref.table with
      | coil =>
          have h := transact_asked lib ref lib.bit (fun bit => .bit (bit != 0))
            (fun _ => by rw [htable]; rfl)
            "coil read failed" hopen
          rw [htable] at h
          exact ⟨h.1, _, h.2, by rw [Option.map_map]; rfl⟩
      | discreteInput =>
          have h := transact_asked lib ref lib.bit (fun bit => .bit (bit != 0))
            (fun _ => by rw [htable]; rfl)
            "discrete-input read failed" hopen
          rw [htable] at h
          exact ⟨h.1, _, h.2, by rw [Option.map_map]; rfl⟩
      | holdingRegister =>
          have h := transact_asked lib ref lib.word .word
            (fun _ => by rw [htable]; rfl)
            "holding-register read failed" hopen
          rw [htable] at h
          exact ⟨h.1, _, h.2, by rw [Option.map_map]; rfl⟩
      | inputRegister =>
          have h := transact_asked lib ref lib.word .word
            (fun _ => by rw [htable]; rfl)
            "input-register read failed" hopen
          rw [htable] at h
          exact ⟨h.1, _, h.2, by rw [Option.map_map]; rfl⟩

theorem readSignal_asked (lib : Libmodbus) (entry : SignalEntry) (ref : ModbusRef)
    {link : ModbusLink} (hopen : IsOpen link.session) :
    let r := (readSignal lib entry ref).perform link
    IsOpen r.2.session ∧ exists x, ref.Asked lib link.session.calls x r.2.session.calls ∧
      r.1 = x.bind (fun v => entry.reading (some v.asDouble) (some v.asBool)) := by
  have hdouble := readPoint_asked lib Double.ofBool
    (fun word => Double.ofInt word.toNat) ref hopen
  have hboolean := readPoint_asked lib (fun bit => bit) (fun word => word != 0) ref hopen
  cases entry with
  | telemetry name unit =>
      rcases hdouble with ⟨hafter, x, hasked, hx⟩
      refine ⟨hafter, x, hasked, (congrArg (Option.map _) hx).trans ?_⟩
      cases x <;> rfl
  | state =>
      rcases hboolean with ⟨hafter, x, hasked, hx⟩
      refine ⟨hafter, x, hasked, (congrArg (Option.map _) hx).trans ?_⟩
      cases x <;> rfl
  | fault =>
      rcases hboolean with ⟨hafter, x, hasked, hx⟩
      refine ⟨hafter, x, hasked, (congrArg (Option.map _) hx).trans ?_⟩
      cases x <;> rfl

instance : SignalAnswers ModbusAdapterConfig ModbusEquipmentMapping ModbusTcpSession
    ModbusCall where
  calls s := s.calls
  Answers lib _ := Answers lib
  Serves _ := IsOpen
  serves_prepare _ _ hopen := hopen
  calls_prepare _ _ := rfl
  calls_fail _ := rfl
  plan_answered lib _ m := by
    show (ReadPlan.fixed (refreshSteps lib m)).Answered _ _ _
    rw [refreshSteps_eq]
    apply ReadPlan.answered_fixed
    intro n p link hp hopen
    rcases readSignal_asked lib p.1 p.2 hopen with ⟨hafter, x, hasked, hx⟩
    exact ⟨hafter, hasked.suffix, p.1, p.2, x, hp, hasked, hx⟩

end ModbusIndustrialAdapter

end VirtualFactory
