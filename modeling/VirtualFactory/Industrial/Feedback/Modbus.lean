import VirtualFactory.Industrial.Answers.Modbus
import VirtualFactory.Industrial.Feedback
import VirtualFactory.Industrial.Requests.Modbus

/-!
# Coils and registers that keep what is written

A coil or a holding register of a Modbus device as a place that commands write to and
polls read from.
-/

namespace VirtualFactory

open Foundation

/-- What a request writes to a point of the device. -/
def ModbusRequest.stores (cell : ModbusRef) : ModbusRequest -> Option ModbusValue
  | .read _ _ _ => none
  | .writeCoil unitId address value =>
      if cell.table = .coil ∧ unitId = some cell.unitId ∧ address = cell.address then
        some (.bit value)
      else none
  | .writeHoldingRegister unitId address value =>
      if cell.table = .holdingRegister ∧ unitId = some cell.unitId ∧
          address = cell.address then
        some (.word value)
      else none

open ModbusRequest (ofCall selectedUnit stores)

namespace Libmodbus

/-- The device keeps what is written to a point: a write that is confirmed is stored,
nothing else changes the point, and a read that succeeds answers with what it holds.  A
write that fails may have been stored or not. -/
structure Keeps (lib : Libmodbus) (cell : ModbusRef)
    (held : List ModbusCall -> ModbusValue) : Prop where
  quiet : forall c calls, (ofCall (selectedUnit calls) c).bind (stores cell) = none ->
    held (c :: calls) = held calls
  stored : forall c calls x, (ofCall (selectedUnit calls) c).bind (stores cell) = some x ->
    lib.done (c :: calls) = .ok () -> held (c :: calls) = x
  answers : forall c calls x,
    ofCall (selectedUnit calls) c =
        some (.read (some cell.unitId) cell.table cell.address) ->
      lib.answer cell.table (c :: calls) = .ok x -> held calls = x

end Libmodbus

namespace ModbusTcpSession

variable {lib : Libmodbus} {cell : ModbusRef} {held : List ModbusCall -> ModbusValue}

theorem held_close (h : lib.Keeps cell held) (s : ModbusTcpSession) :
    held s.close.calls = held s.calls := by
  unfold close
  split
  · exact h.quiet _ _ rfl
  · rfl

theorem held_connect (h : lib.Keeps cell held) (host : String) (port : UInt16)
    (timeoutMs : Int) (s : ModbusTcpSession) :
    held (s.connect lib host port timeoutMs).2.calls = held s.calls := by
  have hcreated : held (s.close.call (.newTcp host port.toNat)).calls = held s.calls :=
    (h.quiet _ _ rfl).trans (held_close h s)
  unfold connect
  dsimp only
  split
  · exact hcreated
  · have hasked : held ((((s.close.call (.newTcp host port.toNat)).applyTimeout
        timeoutMs).call .setErrorRecoveryNone).call .connect).calls = held s.calls :=
      (h.quiet _ _ rfl).trans ((h.quiet _ _ rfl).trans ((h.quiet _ _ rfl).trans hcreated))
    split
    · exact (held_close h _).trans hasked
    · exact hasked

theorem held_prepare (h : lib.Keeps cell held) (unitId : UInt8) (s : ModbusTcpSession) :
    held (s.prepare lib unitId).2.calls = held s.calls := by
  unfold prepare
  split
  · rfl
  · dsimp only
    split
    · exact h.quiet _ _ rfl
    · exact h.quiet _ _ rfl

/-- What a read or a write comes to: nothing was asked, or the call was made for the
unit and the library answered it. -/
theorem transact_cases {answer : Type} (h : lib.Keeps cell held) (unitId : UInt8)
    (c : ModbusCall) (what : String) (reply : List ModbusCall -> Except String answer)
    (s : ModbusTcpSession) :
    ((s.transact lib unitId c what reply).1 = none ∧
        held (s.transact lib unitId c what reply).2.calls = held s.calls) ∨
      exists calls, selectedUnit calls = some unitId ∧ held calls = held s.calls ∧
        (s.transact lib unitId c what reply).2.calls = c :: calls ∧
          forall x, (s.transact lib unitId c what reply).1 = some x ->
            reply (c :: calls) = .ok x := by
  have hprepare := held_prepare h unitId s
  have hselects := (ModbusRequest.prepare_selects lib unitId s).2
  unfold transact
  split
  · rename_i s' hs'
    rw [hs'] at hprepare
    exact Or.inl ⟨rfl, hprepare⟩
  · rename_i s' hs'
    rw [hs'] at hprepare hselects
    refine Or.inr ⟨s'.calls, hselects rfl, hprepare, ?_⟩
    dsimp only
    split
    · exact ⟨rfl, fun x hx => by cases hx⟩
    · rename_i value hreply
      refine ⟨rfl, fun x hx => ?_⟩
      cases hx
      exact hreply

theorem transact_held {answer value : Type} (h : lib.Keeps cell held) {ref : ModbusRef}
    {c : ModbusCall}
    (hc : ofCall (some ref.unitId) c = some (.read (some ref.unitId) ref.table ref.address))
    {reply : List ModbusCall -> Except String answer} {toValue : answer -> ModbusValue}
    (hanswer : forall calls, lib.answer ref.table calls = (reply calls).map toValue)
    (what : String) (decode : ModbusValue -> value) (s : ModbusTcpSession) :
    held (s.transact lib ref.unitId c what reply).2.calls = held s.calls ∧
      (ref = cell -> forall x,
        (s.transact lib ref.unitId c what reply).1.map (fun v => decode (toValue v)) =
            some x -> x = decode (held s.calls)) := by
  rcases transact_cases h ref.unitId c what reply s with
    ⟨hnone, hheld⟩ | ⟨calls, hunit, hheld, hcalls, hreply⟩
  · refine ⟨hheld, fun _ x hx => ?_⟩
    rw [hnone] at hx
    cases hx
  · have hread : ofCall (selectedUnit calls) c =
        some (.read (some ref.unitId) ref.table ref.address) := by
      rw [hunit]
      exact hc
    rw [hcalls, h.quiet c calls (by rw [hread]; rfl)]
    refine ⟨hheld, ?_⟩
    rintro rfl x hx
    rcases Option.map_eq_some_iff.mp hx with ⟨v, hv, rfl⟩
    have hholds := h.answers c calls (toValue v) hread (by
      rw [hanswer, hreply v hv]
      rfl)
    rw [← hheld, hholds]

theorem transact_sent (h : lib.Keeps cell held) {unitId : UInt8} {c : ModbusCall}
    {stored : Option ModbusValue}
    (hc : (ofCall (some unitId) c).bind (stores cell) = stored) (what : String)
    (s : ModbusTcpSession) :
    (stored = none -> held (s.transact lib unitId c what lib.done).2.calls = held s.calls) ∧
      forall x u, stored = some x -> (s.transact lib unitId c what lib.done).1 = some u ->
        held (s.transact lib unitId c what lib.done).2.calls = x := by
  rcases transact_cases h unitId c what lib.done s with
    ⟨hnone, hheld⟩ | ⟨calls, hunit, hheld, hcalls, hreply⟩
  · refine ⟨fun _ => hheld, fun x u _ hu => ?_⟩
    rw [hnone] at hu
    cases hu
  · rw [← hunit] at hc
    rw [hcalls]
    refine ⟨fun hstored => ?_, fun x u hstored hu => ?_⟩
    · rw [h.quiet c calls (hc.trans hstored)]
      exact hheld
    · exact h.stored c calls x (hc.trans hstored) (hreply u hu)

end ModbusTcpSession

namespace ModbusIndustrialAdapter

open ModbusTcpSession

variable {lib : Libmodbus} {cell : ModbusRef} {held : List ModbusCall -> ModbusValue}

theorem readPoint_held {value : Type} (h : lib.Keeps cell held) (ofBit : Bool -> value)
    (ofWord : UInt16 -> value) (ref : ModbusRef) (s : ModbusTcpSession) :
    held (readPoint lib ofBit ofWord ref s).2.calls = held s.calls ∧
      (ref = cell -> forall x, (readPoint lib ofBit ofWord ref s).1 = some x ->
        x = (held s.calls).decode ofBit ofWord) := by
  unfold readPoint
  split
  · exact ⟨rfl, fun _ x hx => by cases hx⟩
  · split
    · rename_i htable
      exact transact_held h (c := ModbusCall.readBits ref.address) (by rw [htable]; rfl)
        (fun _ => by rw [htable]; rfl) _ (ModbusValue.decode ofBit ofWord) s
    · rename_i htable
      exact transact_held h (c := ModbusCall.readInputBits ref.address) (by rw [htable]; rfl)
        (fun _ => by rw [htable]; rfl) _ (ModbusValue.decode ofBit ofWord) s
    · rename_i htable
      exact transact_held h (c := ModbusCall.readRegisters ref.address) (by rw [htable]; rfl)
        (fun _ => by rw [htable]; rfl) _ (ModbusValue.decode ofBit ofWord) s
    · rename_i htable
      exact transact_held h (c := ModbusCall.readInputRegisters ref.address) (by rw [htable]; rfl)
        (fun _ => by rw [htable]; rfl) _ (ModbusValue.decode ofBit ofWord) s

/-- What a command sends to a point. -/
def sentTo (cell : ModbusRef) (command : String) (parameter : Double) : ModbusValue :=
  match cell.table with
  | .coil => .bit (if isSetCommand command then !parameter.isZero else true)
  | _ => .word (if isSetCommand command then registerValue parameter else 1)

theorem stores_writeBit {ref : ModbusRef} (htable : ref.table = .coil) (bit : Bool) :
    (ofCall (some ref.unitId) (.writeBit ref.address bit)).bind (stores cell) =
      if cell.table = ref.table ∧ some ref.unitId = some cell.unitId ∧
          ref.address = cell.address then some (.bit bit) else none := by
  rw [htable]
  rfl

theorem stores_writeRegister {ref : ModbusRef} (htable : ref.table = .holdingRegister)
    (word : UInt16) :
    (ofCall (some ref.unitId) (.writeRegister ref.address word)).bind (stores cell) =
      if cell.table = ref.table ∧ some ref.unitId = some cell.unitId ∧
          ref.address = cell.address then some (.word word) else none := by
  rw [htable]
  rfl

theorem finish_held (h : lib.Keeps cell held) {ref : ModbusRef}
    (hmapped : ref.mapped = cell.mapped) {c : ModbusCall} {x : ModbusValue}
    (hc : (ofCall (some ref.unitId) c).bind (stores cell) =
      if cell.table = ref.table ∧ some ref.unitId = some cell.unitId ∧
          ref.address = cell.address then some x else none)
    (what : String) (s : ModbusTcpSession) :
    (ref ≠ cell ->
        held (s.transact lib ref.unitId c what lib.done).2.calls = held s.calls) ∧
      forall u, ref = cell -> (s.transact lib ref.unitId c what lib.done).1 = some u ->
        held (s.transact lib ref.unitId c what lib.done).2.calls = x := by
  have hsent := transact_sent h hc what s
  refine ⟨fun hother => hsent.1 (if_neg ?_), fun u hsame hu => hsent.2 x u (if_pos ?_) hu⟩
  · rintro ⟨htable, hunit, haddress⟩
    apply hother
    rcases ref with ⟨_, _, _, _⟩
    cases hmapped
    cases htable
    cases hunit
    cases haddress
    rfl
  · rw [hsame]
    exact ⟨rfl, rfl, rfl⟩

theorem writePoint_cases (writeBit writeWord : ModbusTcpSession -> Option Unit × ModbusTcpSession)
    (ref : ModbusRef) (link : ModbusLink) :
    let r := writePoint writeBit writeWord ref link
    (r.1 = false ∧ r.2.session = link.session) ∨
      ref.mapped = true ∧
        ((ref.table = .coil ∧ r.2.session = (writeBit link.session).2 ∧
            (r.1 = true -> exists u, (writeBit link.session).1 = some u)) ∨
          (ref.table = .holdingRegister ∧ r.2.session = (writeWord link.session).2 ∧
            (r.1 = true -> exists u, (writeWord link.session).1 = some u))) := by
  intro r
  have hfinish : forall write : ModbusTcpSession -> Option Unit × ModbusTcpSession,
      ((write link.session).1 = none ->
        exists reason, r = (false, (link.onSession write).2.enterFault reason)) ->
      (forall u, (write link.session).1 = some u -> r = (true, (link.onSession write).2)) ->
        r.2.session = (write link.session).2 ∧
          (r.1 = true -> exists u, (write link.session).1 = some u) := by
    intro write hnone hsome
    cases hwrite : (write link.session).1 with
    | none =>
        rcases hnone hwrite with ⟨reason, hr⟩
        rw [hr]
        exact ⟨rfl, fun hok => Bool.noConfusion hok⟩
    | some u =>
        rw [hsome u hwrite]
        exact ⟨rfl, fun _ => ⟨u, rfl⟩⟩
  by_cases hguard : (!ref.mapped || !link.session.connected) = true
  · have hr : r = (false, link.enterFault "Modbus write failed: invalid mapping or client") :=
      if_pos hguard
    exact Or.inl (by rw [hr]; exact ⟨rfl, rfl⟩)
  · have hmapped : ref.mapped = true := by
      simp only [Bool.or_eq_true, Bool.not_eq_true', not_or, Bool.not_eq_false] at hguard
      exact hguard.1
    have hr : r = _ := if_neg hguard
    cases htable : ref.table with
    | coil =>
        rw [htable] at hr
        exact Or.inr ⟨hmapped, Or.inl ⟨rfl, hfinish writeBit
          (fun hnone => ⟨"Modbus write failed: " ++
            (link.onSession writeBit).2.session.lastError, by
              rw [hr]
              simp only [Link.onSession, hnone]⟩)
          (fun u hu => by
            rw [hr]
            simp only [Link.onSession, hu])⟩⟩
    | holdingRegister =>
        rw [htable] at hr
        exact Or.inr ⟨hmapped, Or.inr ⟨rfl, hfinish writeWord
          (fun hnone => ⟨"Modbus write failed: " ++
            (link.onSession writeWord).2.session.lastError, by
              rw [hr]
              simp only [Link.onSession, hnone]⟩)
          (fun u hu => by
            rw [hr]
            simp only [Link.onSession, hu])⟩⟩
    | discreteInput =>
        rw [htable] at hr
        rw [hr]
        exact Or.inl ⟨rfl, rfl⟩
    | inputRegister =>
        rw [htable] at hr
        rw [hr]
        exact Or.inl ⟨rfl, rfl⟩

theorem writePoint_held (h : lib.Keeps cell held) (hcell : cell.mapped = true)
    (bit : Bool) (word : UInt16) (ref : ModbusRef) (link : ModbusLink) :
    let r := writePoint (writeCoil lib ref.unitId ref.address bit)
      (writeHoldingRegister lib ref.unitId ref.address word) ref link
    (ref ≠ cell -> held r.2.session.calls = held link.session.calls) ∧
      (ref = cell -> r.1 = true ->
        held r.2.session.calls =
          match cell.table with
          | .coil => .bit bit
          | _ => .word word) := by
  intro r
  rcases writePoint_cases (writeCoil lib ref.unitId ref.address bit)
    (writeHoldingRegister lib ref.unitId ref.address word) ref link with
    ⟨hrejected, hsession⟩ | ⟨hmapped, ⟨htable, hsession, hok⟩ | ⟨htable, hsession, hok⟩⟩
  · rw [show r.2.session = _ from hsession, show r.1 = _ from hrejected]
    exact ⟨fun _ => rfl, fun _ h => Bool.noConfusion h⟩
  · have hsent := finish_held h (hmapped.trans hcell.symm) (stores_writeBit htable bit)
      "coil write failed" link.session
    rw [show r.2.session = _ from hsession]
    refine ⟨hsent.1, fun hsame haccepted => ?_⟩
    rcases hok haccepted with ⟨u, hu⟩
    rw [← hsame, htable]
    exact hsent.2 u hsame hu
  · have hsent := finish_held h (hmapped.trans hcell.symm) (stores_writeRegister htable word)
      "holding-register write failed" link.session
    rw [show r.2.session = _ from hsession]
    refine ⟨hsent.1, fun hsame haccepted => ?_⟩
    rcases hok haccepted with ⟨u, hu⟩
    rw [← hsame, htable]
    exact hsent.2 u hsame hu

instance : SignalSources ModbusAdapterConfig ModbusEquipmentMapping ModbusTcpSession
    ModbusRef where
  sources := signalSources
  read := readSignal
  entries_sources m := by
    show signalEntries _ _ _ = _
    unfold signalEntries signalSources
    rw [List.map_append, List.map_append, List.map_map, List.map_map]
    congr 1
    split <;> split <;> rfl
  plan_reads lib m _ _ _ h := by
    cases h
    exact refreshSteps_eq lib m

/-- A coil or a register as a place that commands write to. -/
def sourceCell (cell : ModbusRef) (held : List ModbusCall -> ModbusValue) :
    SourceCell ModbusEquipmentMapping ModbusTcpSession ModbusRef ModbusValue where
  ref := cell
  held s := held s.calls
  decode entry x :=
    match entry with
    | .telemetry name unit =>
        some (.telemetry name
          (x.decode Double.ofBool (fun word => Double.ofInt word.toNat)) unit)
    | .state => some (.state (x.decode (fun bit => bit) (fun word => word != 0)))
    | .fault => some (.fault (x.decode (fun bit => bit) (fun word => word != 0)))
  targeted command m :=
    exists mapped, m.commands.find? (fun entry => entry.command = command) = some mapped ∧
      mapped.target = cell
  sent := sentTo cell

theorem connect_held (h : lib.Keeps cell held) {a : ModbusIndustrialAdapter}
    (hstate : a.link.connectionState ≠ .connected) :
    held (connect lib a).2.link.session.calls = held a.link.session.calls := by
  have hopened := (held_connect h a.config.host a.config.port a.config.timeoutMs
    a.link.session.close).trans (held_close h a.link.session)
  unfold connect
  rw [if_neg hstate]
  split
  · rfl
  · dsimp only
    split
    · exact hopened
    · exact hopened

theorem readSignal_held (h : lib.Keeps cell held) (entry : SignalEntry) (ref : ModbusRef)
    (link : ModbusLink) :
    held ((readSignal lib entry ref).perform link).2.session.calls =
        held link.session.calls ∧
      (ref = cell -> forall r, ((readSignal lib entry ref).perform link).1 = some r ->
        (sourceCell cell held).decode entry (held link.session.calls) = some r) := by
  have hdouble := readPoint_held h Double.ofBool (fun word => Double.ofInt word.toNat) ref
    link.session
  have hboolean := readPoint_held h (fun bit => bit) (fun word => word != 0) ref
    link.session
  cases entry with
  | telemetry name unit =>
      refine ⟨hdouble.1, fun hsame r hr => ?_⟩
      rcases Option.map_eq_some_iff.mp hr with ⟨x, hx, rfl⟩
      rw [hdouble.2 hsame x hx]
      rfl
  | state =>
      refine ⟨hboolean.1, fun hsame r hr => ?_⟩
      rcases Option.map_eq_some_iff.mp hr with ⟨x, hx, rfl⟩
      rw [hboolean.2 hsame x hx]
      rfl
  | fault =>
      refine ⟨hboolean.1, fun hsame r hr => ?_⟩
      rcases Option.map_eq_some_iff.mp hr with ⟨x, hx, rfl⟩
      rw [hboolean.2 hsame x hx]
      rfl

theorem runCommand_held (h : lib.Keeps cell held) (hcell : cell.mapped = true)
    (command : String) (parameter : Double) (m : ModbusEquipmentMapping)
    (link : ModbusLink) :
    (¬ (sourceCell cell held).targeted command m ->
        held (runCommand lib command parameter m link).2.session.calls =
          held link.session.calls) ∧
      ((sourceCell cell held).targeted command m ->
        (runCommand lib command parameter m link).1.accepted = true ->
          held (runCommand lib command parameter m link).2.session.calls =
            sentTo cell command parameter) := by
  apply @Link.execute_held ModbusCommandMapping ModbusTcpSession ModbusValue
    (fun s => held s.calls) (fun mapped => mapped.target = cell)
  intro mapped link
  rw [Link.written_snd]
  have haccepted := @Link.written_of_accepted ModbusTcpSession "modbus write failed"
  unfold sentTo
  cases hset : isSetCommand command with
  | true =>
      have hheld := writePoint_held h hcell (!parameter.isZero) (registerValue parameter)
        mapped.target link
      exact ⟨hheld.1, fun hsame hok => hheld.2 hsame (haccepted hok)⟩
  | false =>
      have hheld := writePoint_held h hcell true 1 mapped.target link
      exact ⟨hheld.1, fun hsame hok => hheld.2 hsame (haccepted hok)⟩

theorem retains (h : lib.Keeps cell held) (hcell : cell.mapped = true) :
    Retains ModbusAdapterConfig lib (sourceCell cell held) where
  connect_held _ hstate := connect_held h hstate
  close_held s := held_close h s
  prepare_held _ _ := rfl
  fail_session _ := rfl
  plan_held m x := by
    apply ReadPlan.keeps_fixed
    intro step hstep link hlink
    rw [refreshSteps_eq] at hstep
    rcases List.mem_map.mp hstep with ⟨p, _, rfl⟩
    have hkept := (readSignal_held h p.1 p.2 link).1.trans hlink
    exact ⟨fun _ => hkept, fun _ => hkept⟩
  read_held entry link r hr := (readSignal_held h entry cell link).2 rfl r hr
  run_held _ command parameter m link hother :=
    (runCommand_held h hcell command parameter m link).1 hother
  run_sent _ command parameter m link htargeted haccepted :=
    (runCommand_held h hcell command parameter m link).2 htargeted haccepted

end ModbusIndustrialAdapter

end VirtualFactory
