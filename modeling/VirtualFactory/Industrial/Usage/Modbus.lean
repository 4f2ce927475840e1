import VirtualFactory.Industrial.LibraryUse
import VirtualFactory.Industrial.Requests.Modbus

/-!
# The use of libmodbus

A session creates its context for the configured endpoint, reads mapped sources and
writes mapped targets, and frees the context when it closes.
-/

namespace VirtualFactory

open Foundation LibraryCalls

namespace ModbusAdapterConfig

def sources (cfg : ModbusAdapterConfig) : List ModbusRef :=
  cfg.equipment.flatMap fun m =>
    m.telemetry.map ModbusTelemetryMapping.source ++ [m.stateCoil, m.faultCoil]

def targets (cfg : ModbusAdapterConfig) : List ModbusRef :=
  cfg.equipment.flatMap fun m => m.commands.map ModbusCommandMapping.target

end ModbusAdapterConfig

/-- The configuration maps what a request is for. -/
def ModbusRequest.Mapped (cfg : ModbusAdapterConfig) : ModbusRequest -> Prop
  | read unitId table address =>
      exists ref, ref ∈ cfg.sources ∧ ref.mapped = true ∧ unitId = some ref.unitId ∧
        table = ref.table ∧ address = ref.address
  | writeCoil unitId address _ =>
      exists ref, ref ∈ cfg.targets ∧ ref.mapped = true ∧ unitId = some ref.unitId ∧
        ref.table = .coil ∧ address = ref.address
  | writeHoldingRegister unitId address _ =>
      exists ref, ref ∈ cfg.targets ∧ ref.mapped = true ∧ unitId = some ref.unitId ∧
        ref.table = .holdingRegister ∧ address = ref.address

namespace ModbusCall

/-- How libmodbus is to be used.  Only a context that could be created is a handle. -/
def usage (lib : Libmodbus) (cfg : ModbusAdapterConfig) : Usage ModbusCall where
  custody earlier
    | .newTcp host port =>
        if lib.newTcp (.newTcp host port :: earlier) then .acquire else .refuse
    | .closeAndFree => .release
    | _ => .use
  permits earlier
    | .newTcp host port => host = cfg.host ∧ port = cfg.port.toNat
    | c => forall r, ModbusRequest.ofCall (ModbusRequest.selectedUnit earlier) c = some r ->
        r.Mapped cfg

variable {lib : Libmodbus} {cfg : ModbusAdapterConfig} {earlier : List ModbusCall}

theorem custody_of_request {unitId : Option UInt8} {c : ModbusCall} {r : ModbusRequest}
    (h : ModbusRequest.ofCall unitId c = some r) :
    (usage lib cfg).custody earlier c = .use := by
  cases c <;> first | rfl | cases h

theorem permits_of_request {c : ModbusCall} {r : ModbusRequest} (hr : r.Mapped cfg)
    (h : ModbusRequest.ofCall (ModbusRequest.selectedUnit earlier) c = some r) :
    (usage lib cfg).permits earlier c := by
  have hpermits : forall q,
      ModbusRequest.ofCall (ModbusRequest.selectedUnit earlier) c = some q ->
        q.Mapped cfg := by
    intro q hq
    cases h.symm.trans hq
    exact hr
  cases c <;> first | exact hpermits | cases h

/-- A call on the context that asks the device for nothing. -/
theorem holds_of_silent {c : ModbusCall} (h : (usage lib cfg).Holds earlier true)
    (hcustody : (usage lib cfg).custody earlier c = .use)
    (hsilent : ModbusRequest.ofCall (ModbusRequest.selectedUnit earlier) c = none) :
    (usage lib cfg).Holds (c :: earlier) true := by
  have hpermits : forall r,
      ModbusRequest.ofCall (ModbusRequest.selectedUnit earlier) c = some r ->
        r.Mapped cfg := by
    intro r hr
    cases hsilent.symm.trans hr
  refine h.use hcustody ?_
  cases c with
  | newTcp host port =>
      change (if _ then Custody.acquire else Custody.refuse) = .use at hcustody
      split at hcustody <;> cases hcustody
  | _ => exact hpermits

end ModbusCall

instance : LibraryCalls ModbusAdapterConfig ModbusEquipmentMapping ModbusTcpSession
    Libmodbus ModbusCall where
  usage := ModbusCall.usage
  calls := ModbusTcpSession.calls
  holding := ModbusTcpSession.ctx
  ready _ _ := True

namespace ModbusTcpSession

variable {lib : Libmodbus} {cfg : ModbusAdapterConfig} {s : ModbusTcpSession}

abbrev Kept (lib : Libmodbus) (cfg : ModbusAdapterConfig) (s : ModbusTcpSession) : Prop :=
  LibraryCalls.Kept ModbusEquipmentMapping lib cfg s

theorem Kept.call (h : Kept lib cfg s) (hctx : s.ctx = true) {c : ModbusCall}
    (hcustody : (ModbusCall.usage lib cfg).custody s.calls c = .use)
    (hpermits : (ModbusCall.usage lib cfg).permits s.calls c) :
    Kept lib cfg (s.call c) := by
  have hholds : (ModbusCall.usage lib cfg).Holds s.calls s.ctx := h
  rw [hctx] at hholds
  have hcall := hholds.use hcustody hpermits
  rw [← hctx] at hcall
  exact hcall

theorem kept_close (h : Kept lib cfg s) :
    Kept lib cfg s.close ∧ s.close.ctx = false := by
  have hholds : (ModbusCall.usage lib cfg).Holds s.calls s.ctx := h
  unfold close
  split
  · rename_i hctx
    rw [hctx] at hholds
    exact ⟨hholds.release rfl (fun r hr => by cases hr), rfl⟩
  · rename_i hctx
    exact ⟨h, Bool.eq_false_of_not_eq_true hctx⟩

theorem kept_prepare (unitId : UInt8) (h : Kept lib cfg s) :
    Kept lib cfg (s.prepare lib unitId).2 := by
  unfold prepare
  split
  · exact h
  · rename_i hctx
    have hselected := h.call (c := .setSlave unitId) (by simpa using hctx) rfl
      (fun r hr => by cases hr)
    dsimp only
    split
    · exact hselected
    · exact hselected

theorem prepare_of_true {unitId : UInt8} {t : ModbusTcpSession}
    (h : s.prepare lib unitId = (true, t)) : t.ctx = true := by
  unfold prepare at h
  split at h
  · cases h
  · rename_i hctx
    dsimp only at h
    split at h
    · cases h
    · cases h
      show s.ctx = true
      simpa using hctx

theorem kept_transact {answer : Type} {unitId : UInt8} {c : ModbusCall}
    {r : ModbusRequest} (hcall : ModbusRequest.ofCall (some unitId) c = some r)
    (hr : r.Mapped cfg) (what : String) (reply : List ModbusCall -> Except String answer)
    (h : Kept lib cfg s) : Kept lib cfg (s.transact lib unitId c what reply).2 := by
  have hprepared := kept_prepare unitId h
  have hselects := ModbusRequest.prepare_selects lib unitId s
  unfold transact
  split
  · rename_i t ht
    rw [ht] at hprepared
    exact hprepared
  · rename_i t ht
    rw [ht] at hprepared hselects
    rw [← hselects.right rfl] at hcall
    have hasked := hprepared.call (prepare_of_true ht)
      (ModbusCall.custody_of_request hcall) (ModbusCall.permits_of_request hr hcall)
    dsimp only
    split
    · exact hasked
    · exact hasked

theorem kept_connect (h : Kept lib cfg s) (timeoutMs : Int) :
    Kept lib cfg (s.connect lib cfg.host cfg.port timeoutMs).2 := by
  rcases kept_close h with ⟨hclosed, hnone⟩
  have hholds : (ModbusCall.usage lib cfg).Holds s.close.calls s.close.ctx := hclosed
  rw [hnone] at hholds
  unfold connect
  dsimp only
  split
  · rename_i hnew
    have hfailed : lib.newTcp (s.close.call (.newTcp cfg.host cfg.port.toNat)).calls =
        false := by simpa using hnew
    have hrefused : (ModbusCall.usage lib cfg).custody s.close.calls
        (.newTcp cfg.host cfg.port.toNat) = .refuse :=
      if_neg (Bool.not_eq_true _ ▸ hfailed)
    have hafter := hholds.refuse hrefused ⟨rfl, rfl⟩
    rw [← hnone] at hafter
    exact hafter
  · rename_i hnew
    have hdone : lib.newTcp (s.close.call (.newTcp cfg.host cfg.port.toNat)).calls =
        true := by simpa using hnew
    have hacquired : (ModbusCall.usage lib cfg).custody s.close.calls
        (.newTcp cfg.host cfg.port.toNat) = .acquire := if_pos hdone
    have hcreated := hholds.acquire hacquired ⟨rfl, rfl⟩
    have hset : (ModbusCall.usage lib cfg).Holds
        ((((s.close.call (.newTcp cfg.host cfg.port.toNat)).applyTimeout timeoutMs).call
          .setErrorRecoveryNone).call .connect).calls true :=
      ModbusCall.holds_of_silent
        (ModbusCall.holds_of_silent (ModbusCall.holds_of_silent hcreated rfl rfl) rfl rfl)
        rfl rfl
    split
    · refine (kept_close ?_).1
      exact hset
    · exact hset

end ModbusTcpSession

namespace ModbusIndustrialAdapter

open ModbusTcpSession

variable {lib : Libmodbus} {cfg : ModbusAdapterConfig}

theorem kept_readPoint {value : Type} (ofBit : Bool -> value) (ofWord : UInt16 -> value)
    {ref : ModbusRef} (href : ref ∈ cfg.sources) {s : ModbusTcpSession}
    (h : Kept lib cfg s) : Kept lib cfg (readPoint lib ofBit ofWord ref s).2 := by
  unfold readPoint
  split
  · exact h
  · rename_i hmapped
    have hread : (ModbusRequest.read (some ref.unitId) ref.table ref.address).Mapped cfg :=
      ⟨ref, href, by cases hm : ref.mapped <;> simp [hm] at hmapped ⊢, rfl, rfl, rfl⟩
    cases htable : ref.table <;> rw [htable] at hread
    case coil => exact kept_transact rfl hread _ _ h
    case discreteInput => exact kept_transact rfl hread _ _ h
    case holdingRegister => exact kept_transact rfl hread _ _ h
    case inputRegister => exact kept_transact rfl hread _ _ h

theorem kept_writePoint (bit : Bool) (word : UInt16) {ref : ModbusRef}
    (href : ref ∈ cfg.targets) {link : ModbusLink} (h : Kept lib cfg link.session) :
    Kept lib cfg
      (writePoint (writeCoil lib ref.unitId ref.address bit)
        (writeHoldingRegister lib ref.unitId ref.address word) ref link).2.session := by
  unfold writePoint
  split
  · exact h
  · rename_i hmapped
    have hm : ref.mapped = true := by
      cases hm : ref.mapped <;> simp [hm] at hmapped ⊢
    dsimp only
    cases htable : ref.table with
    | coil =>
        have hwrite : (ModbusRequest.writeCoil (some ref.unitId) ref.address bit).Mapped
            cfg := ⟨ref, href, hm, rfl, htable, rfl⟩
        have hsent := kept_transact (c := .writeBit ref.address bit) rfl hwrite
          "coil write failed" lib.done h
        dsimp only
        split
        · exact hsent
        · exact hsent
    | holdingRegister =>
        have hwrite : (ModbusRequest.writeHoldingRegister (some ref.unitId) ref.address
            word).Mapped cfg := ⟨ref, href, hm, rfl, htable, rfl⟩
        have hsent := kept_transact (c := .writeRegister ref.address word) rfl hwrite
          "holding-register write failed" lib.done h
        dsimp only
        split
        · exact hsent
        · exact hsent
    | discreteInput => exact h
    | inputRegister => exact h

theorem kept_refreshSteps {m : ModbusEquipmentMapping} (hm : m ∈ cfg.equipment) :
    forall step, step ∈ refreshSteps lib m ->
      step.Keeps (fun link : ModbusLink => Ready ModbusEquipmentMapping lib cfg link.session)
        (fun link => Ready ModbusEquipmentMapping lib cfg link.session) := by
  have hread : forall {value : Type} (ofBit : Bool -> value) (ofWord : UInt16 -> value)
      {ref : ModbusRef}, ref ∈ m.telemetry.map ModbusTelemetryMapping.source ++
        [m.stateCoil, m.faultCoil] ->
      ReadStep.ReadKeeps
        (fun link : ModbusLink => Ready ModbusEquipmentMapping lib cfg link.session)
        (fun link => Ready ModbusEquipmentMapping lib cfg link.session)
        (Link.onSession (readPoint lib ofBit ofWord ref)) := by
    intro value ofBit ofWord ref href
    exact ReadStep.readKeeps_self fun link hlink =>
      ⟨kept_readPoint ofBit ofWord (List.mem_flatMap.mpr ⟨m, hm, href⟩) hlink.1, trivial⟩
  apply ReadStep.signalSteps_keep
  · intro p hp
    rcases List.mem_map.mp hp with ⟨point, hpoint, rfl⟩
    exact hread _ _ (List.mem_append_left _ (List.mem_map_of_mem hpoint))
  · intro read hr
    split at hr <;> cases hr
    exact hread _ _ (List.mem_append_right _ List.mem_cons_self)
  · intro read hr
    split at hr <;> cases hr
    exact hread _ _ (List.mem_append_right _ (List.mem_cons_of_mem _ List.mem_cons_self))

theorem kept_runCommand (command : String) (parameter : Double)
    {m : ModbusEquipmentMapping} (hm : m ∈ cfg.equipment) {link : ModbusLink}
    (h : Kept lib cfg link.session) :
    Kept lib cfg (runCommand lib command parameter m link).2.session := by
  unfold runCommand Link.execute runMapped
  cases link.connectionState with
  | disconnected => exact h
  | faulted => exact h
  | connected =>
      cases hfind : m.commands.find? (fun entry => entry.command = command) with
      | none => exact h
      | some mapped =>
          have htarget : mapped.target ∈ cfg.targets :=
            List.mem_flatMap.mpr
              ⟨m, hm, List.mem_map_of_mem (List.mem_of_find?_eq_some hfind)⟩
          dsimp only
          rw [Link.written_snd]
          split
          · exact kept_writePoint _ _ htarget h
          · exact kept_writePoint true 1 htarget h

theorem kept_connect_adapter {a : ModbusIndustrialAdapter}
    (h : Kept lib a.config a.link.session) :
    Kept lib a.config (connect lib a).2.link.session := by
  unfold connect
  split
  · exact h
  · split
    · exact h
    · have hconnected := ModbusTcpSession.kept_connect (kept_close h).1 a.config.timeoutMs
      dsimp only
      split
      · exact hconnected
      · exact hconnected

end ModbusIndustrialAdapter

instance : LawfulUse ModbusAdapterConfig ModbusEquipmentMapping ModbusTcpSession where
  close_kept _ _ _ := ModbusTcpSession.kept_close
  prepare_ready _ _ _ h := h
  connect_kept _ _ _ h := ⟨ModbusIndustrialAdapter.kept_connect_adapter h, fun _ => trivial⟩
  plan_ready _ _ _ hm := ReadPlan.keeps_fixed (ModbusIndustrialAdapter.kept_refreshSteps hm)
  fail_session _ := rfl
  run_ready _ _ command parameter _ _ hm h :=
    ⟨ModbusIndustrialAdapter.kept_runCommand command parameter hm h.1, trivial⟩

end VirtualFactory
