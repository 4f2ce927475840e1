import VirtualFactory.Foundation.FloatValue
import VirtualFactory.Industrial.MappedTags
import VirtualFactory.Industrial.Modbus

/-!
# Setpoints as integers

A Modbus register and an EtherNet/IP DINT tag take integers.  Both adapters narrow the
parameter of a command to one, the first after clipping it to the register range.
-/

namespace VirtualFactory

open Foundation

/-!
# Clipping and rounding
-/

namespace Double

theorem emin_nonpos : binary64.emin ≤ 0 := by
  decide

theorem value_ofInt {n : Int} (hn : n.natAbs < 2 ^ 53) :
    (Double.ofInt n).value = some (n : Rat) :=
  BinaryFloat.value_ofInt emin_nonpos (by decide) hn

theorem value_zero : Double.zero.value = some 0 := by
  have h := value_ofInt (n := 0) (by decide)
  rw [Int.cast_zero] at h
  exact h

theorem value_stdMin {x y : Double} {r s : Rat} (hx : x.value = some r)
    (hy : y.value = some s) : (stdMin x y).value = some (min r s) := by
  have hlt := BinaryFloat.lt_iff_of_value hy hx
  unfold stdMin
  split
  · rename_i hless
    rw [min_eq_right (hlt.mp hless).le, hy]
  · rename_i hnot
    rw [min_eq_left (not_lt.mp (mt hlt.mpr hnot)), hx]

theorem value_stdMax {x y : Double} {r s : Rat} (hx : x.value = some r)
    (hy : y.value = some s) : (stdMax x y).value = some (max r s) := by
  have hlt := BinaryFloat.lt_iff_of_value hx hy
  unfold stdMax
  split
  · rename_i hless
    rw [max_eq_right (hlt.mp hless).le, hy]
  · rename_i hnot
    rw [max_eq_left (not_lt.mp (mt hlt.mpr hnot)), hx]

theorem lround_of_value {x : Double} {r : Rat} (hx : x.value = some r) :
    exists n, BinaryFloat.NearestAway r n ∧
      x.lround = if -2 ^ 63 ≤ n ∧ n < 2 ^ 63 then n else -2 ^ 63 := by
  cases x with
  | nan => cases hx
  | infinite negative => cases hx
  | finite negative m e h =>
      cases hx
      exact ⟨_, BinaryFloat.nearestAway_scaled emin_nonpos h.2.1 negative m, rfl⟩

end Double

theorem abs_sub_clamp_le {c x low high bound : Rat} (h : |c - x| ≤ bound)
    (hlow : low ≤ c) (hhigh : c ≤ high) : |c - max low (min high x)| ≤ bound := by
  have habs := abs_le.mp h
  have hupper : max low (min high x) ≤ max c x :=
    max_le (hlow.trans (le_max_left c x)) ((min_le_right high x).trans (le_max_right c x))
  have hlower : min c x ≤ max low (min high x) :=
    (min_le_min hhigh le_rfl).trans (le_max_right low _)
  rw [abs_le]
  constructor
  · rcases max_choice c x with hmax | hmax <;> rw [hmax] at hupper <;> linarith
  · rcases min_choice c x with hmin | hmin <;> rw [hmin] at hlower <;> linarith

/-- An integer is the number clamped to a range and rounded to a nearest integer. -/
def NarrowsTo (low high : Int) : Double -> Int -> Prop
  | .nan, _ => False
  | .infinite negative, n => n = if negative then low else high
  | .finite negative m e _, n =>
      |(n : Rat) - max (low : Rat) (min high (BinaryFloat.ratOf negative m e))| ≤ 1 / 2

namespace NarrowsTo

variable {low high : Int}

theorem iff_of_value {x : Double} {r : Rat} (hx : x.value = some r) (n : Int) :
    NarrowsTo low high x n <-> |(n : Rat) - max (low : Rat) (min high r)| ≤ 1 / 2 := by
  cases x with
  | nan => cases hx
  | infinite negative => cases hx
  | finite negative m e h =>
      cases hx
      exact Iff.rfl

theorem range {x : Double} {n : Int} (h : NarrowsTo low high x n)
    (hrange : low ≤ high) : low ≤ n ∧ n ≤ high := by
  cases x with
  | nan => exact h.elim
  | infinite negative =>
      have hn : n = if negative then low else high := h
      cases negative with
      | false => exact ⟨hn ▸ hrange, hn.le⟩
      | true => exact ⟨hn.ge, hn ▸ hrange⟩
  | finite negative m e hcanonical =>
      have habs := abs_le.mp ((iff_of_value rfl n).mp h)
      generalize BinaryFloat.ratOf negative m e = r at habs
      have hcast : (low : Rat) ≤ high := Int.cast_le.mpr hrange
      have hlow := le_max_left (low : Rat) (min high r)
      have hhigh := max_le hcast (min_le_left (high : Rat) r)
      have hbelow : ((low - 1 : Int) : Rat) < n := by
        push_cast
        linarith
      have habove : (n : Rat) < (high + 1 : Int) := by
        push_cast
        linarith
      exact ⟨Int.le_of_sub_one_lt (Int.cast_lt.mp hbelow),
        Int.lt_add_one_iff.mp (Int.cast_lt.mp habove)⟩

theorem add_half_ne (n bound : Int) : (n : Rat) + 1 / 2 ≠ bound := by
  intro h
  have hdouble : ((2 * n + 1 : Int) : Rat) = (2 * bound : Int) := by
    push_cast
    linarith
  have hodd := Int.cast_inj.mp hdouble
  omega

/-- Of two numbers the smaller one never gives the larger integer. -/
theorem mono {x y : Double} {m n : Int} (hx : NarrowsTo low high x m)
    (hy : NarrowsTo low high y n) (hrange : low ≤ high)
    (hlt : BinaryFloat.lt x y = true) : m ≤ n := by
  cases x with
  | nan => exact hx.elim
  | infinite a =>
      have hm : m = if a then low else high := hx
      cases a with
      | true => exact hm ▸ (hy.range hrange).1
      | false => cases y <;> cases hlt
  | finite a k e hk =>
      cases y with
      | nan => cases hlt
      | infinite b =>
          have hn : n = if b then low else high := hy
          cases b with
          | true => cases hlt
          | false => exact hn ▸ (hx.range hrange).2
      | finite b l d hl =>
          have hless := (BinaryFloat.lt_iff_of_value rfl rfl).mp hlt
          have hm := abs_le.mp ((iff_of_value rfl m).mp hx)
          have hn := abs_le.mp ((iff_of_value rfl n).mp hy)
          generalize BinaryFloat.ratOf a k e = r at hless hm
          generalize BinaryFloat.ratOf b l d = s at hless hn
          have hclamped : max (low : Rat) (min high r) ≤ max (low : Rat) (min high s) :=
            max_le_max le_rfl (min_le_min le_rfl hless.le)
          by_contra hnot
          have hstep : ((n + 1 : Int) : Rat) ≤ m := Int.cast_le.mpr (by omega)
          push_cast at hstep
          -- both numbers are clamped to the middle between two integers
          have hr : max (low : Rat) (min high r) = n + 1 / 2 := by linarith
          have hs : max (low : Rat) (min high s) = n + 1 / 2 := by linarith
          have hinside : forall t : Rat, max (low : Rat) (min high t) = n + 1 / 2 ->
              t = n + 1 / 2 := by
            intro t ht
            rcases max_choice (low : Rat) (min high t) with hmax | hmax
            · exact absurd (ht.symm.trans hmax) (add_half_ne n low)
            · rcases min_choice (high : Rat) t with hmin | hmin
              · exact absurd (ht.symm.trans (hmax.trans hmin)) (add_half_ne n high)
              · rw [← ht, hmax, hmin]
          rw [hinside r hr, hinside s hs] at hless
          exact lt_irrefl _ hless

theorem nonneg {x : Double} {n : Int} (h : NarrowsTo low high x n)
    (hhigh : 0 ≤ high) (hx : BinaryFloat.lt x Double.zero = false) : 0 ≤ n := by
  cases x with
  | nan => exact h.elim
  | infinite negative =>
      have hn : n = if negative then low else high := h
      cases negative with
      | false => exact hn ▸ hhigh
      | true => exact absurd hx (by decide)
  | finite negative m e hcanonical =>
      have habs := abs_le.mp ((iff_of_value rfl n).mp h)
      have hzero := BinaryFloat.lt_iff_of_value
        (x := BinaryFloat.finite negative m e hcanonical) rfl Double.value_zero
      generalize BinaryFloat.ratOf negative m e = r at habs hzero
      have hr : 0 ≤ r := not_lt.mp (mt hzero.mpr (Bool.eq_false_iff.mp hx))
      have hcast : (0 : Rat) ≤ high := by exact_mod_cast hhigh
      have hclamped := (le_min hcast hr).trans (le_max_right (low : Rat) _)
      have hbelow : ((-1 : Int) : Rat) < n := by
        push_cast
        linarith
      exact Int.cast_lt.mp hbelow

theorem nonpos {x : Double} {n : Int} (h : NarrowsTo low high x n)
    (hlow : low ≤ 0) (hx : BinaryFloat.lt Double.zero x = false) : n ≤ 0 := by
  cases x with
  | nan => exact h.elim
  | infinite negative =>
      have hn : n = if negative then low else high := h
      cases negative with
      | false => exact absurd hx (by decide)
      | true => exact hn ▸ hlow
  | finite negative m e hcanonical =>
      have habs := abs_le.mp ((iff_of_value rfl n).mp h)
      have hzero := BinaryFloat.lt_iff_of_value Double.value_zero
        (y := BinaryFloat.finite negative m e hcanonical) rfl
      generalize BinaryFloat.ratOf negative m e = r at habs hzero
      have hr : r ≤ 0 := not_lt.mp (mt hzero.mpr (Bool.eq_false_iff.mp hx))
      have hcast : (low : Rat) ≤ 0 := by exact_mod_cast hlow
      have hclamped := max_le hcast ((min_le_right (high : Rat) r).trans hr)
      have habove : (n : Rat) < (1 : Int) := by
        push_cast
        linarith
      exact Int.lt_add_one_iff.mp (Int.cast_lt.mp habove)

end NarrowsTo

/-- What a setpoint asks of the integer that is written for it: it is the setpoint
clamped and rounded, and it has not changed its sign. -/
structure Faithful (low high : Int) (v : Double) (n : Int) : Prop where
  isNumber : v ≠ .nan
  narrows : NarrowsTo low high v n
  nonneg : BinaryFloat.lt v Double.zero = false -> 0 ≤ n
  nonpos : BinaryFloat.lt Double.zero v = false -> n ≤ 0

theorem NarrowsTo.faithful {low high : Int} {v : Double} {n : Int}
    (h : NarrowsTo low high v n) (hlow : low ≤ 0) (hhigh : 0 ≤ high) :
    Faithful low high v n where
  isNumber := by
    rintro rfl
    exact h.elim
  narrows := h
  nonneg := h.nonneg hhigh
  nonpos := h.nonpos hlow

/-!
# Registers
-/

namespace ModbusIndustrialAdapter

theorem registerValue_nan : registerValue .nan = 65535 := by
  decide +kernel

theorem registerValue_infinite (negative : Bool) :
    registerValue (.infinite negative) = if negative then 0 else 65535 := by
  cases negative <;> decide +kernel

theorem registerValue_of_value {v : Double} {r : Rat} (hv : v.value = some r) :
    |((registerValue v).toNat : Rat) - max 0 (min 65535 r)| ≤ 1 / 2 := by
  have hclipped : (Double.stdMax Double.zero
      (Double.stdMin (Double.ofInt 65535) v)).value = some (max 0 (min 65535 r)) := by
    have hlimit := Double.value_ofInt (n := 65535) (by decide)
    push_cast at hlimit
    exact Double.value_stdMax Double.value_zero (Double.value_stdMin hlimit hv)
  rcases Double.lround_of_value hclipped with ⟨n, hnearest, hlround⟩
  have hnonneg : (0 : Rat) ≤ max 0 (min 65535 r) := le_max_left _ _
  have hlimit : max 0 (min 65535 r) ≤ (65535 : Rat) :=
    max_le (by norm_num) (min_le_left _ _)
  have habs := abs_le.mp hnearest.abs_sub_le
  have hbelow : ((-1 : Int) : Rat) < n := by
    push_cast
    linarith
  have habove : (n : Rat) < (65536 : Int) := by
    push_cast
    linarith
  have hlow := Int.cast_lt.mp hbelow
  have hhigh := Int.cast_lt.mp habove
  have hregister : ((registerValue v).toNat : Int) = n := by
    unfold registerValue
    dsimp only
    rw [hlround, if_pos ⟨by omega, by omega⟩]
    show ((UInt16.ofNat (n % 2 ^ 16).toNat).toNat : Int) = n
    rw [UInt16.toNat_ofNat']
    omega
  have hcast : ((registerValue v).toNat : Rat) = n := by
    rw [← hregister, Int.cast_natCast]
  rw [hcast]
  exact hnearest.abs_sub_le

theorem registerValue_narrows {v : Double} (hv : v ≠ .nan) :
    NarrowsTo 0 65535 v (registerValue v).toNat := by
  cases v with
  | nan => exact absurd rfl hv
  | infinite negative =>
      rw [registerValue_infinite]
      cases negative <;> rfl
  | finite negative m e h =>
      rw [NarrowsTo.iff_of_value rfl]
      push_cast
      exact registerValue_of_value rfl

/-- An accepted set command that is mapped to a holding register. -/
structure SetpointRun (v : Double) where
  lib : Libmodbus
  adapter : ModbusIndustrialAdapter
  equipmentId : String
  command : String
  machine : BoundEquipment ModbusEquipmentMapping
  mapped : ModbusCommandMapping
  result : CommandResult × ModbusIndustrialAdapter
  isSet : isSetCommand command = true
  found : adapter.boundById equipmentId = some machine
  isMapped :
    machine.mapping.commands.find? (fun entry => entry.command = command) = some mapped
  toRegister : mapped.target.table = .holdingRegister
  executed : execute lib adapter equipmentId command v = some result
  accepted : result.1.accepted = true

/-- The run selects the unit and writes the integer to the register, and makes no other
call. -/
def SetpointRun.Writes {v : Double} (run : SetpointRun v) (n : Int) : Prop :=
  exists register : UInt16, (register.toNat : Int) = n ∧
    run.result.2.link.session.calls =
      .writeRegister run.mapped.target.address register ::
        .setSlave run.mapped.target.unitId :: run.adapter.link.session.calls

theorem calls_transact {answer : Type} {lib : Libmodbus} {unitId : UInt8}
    {c : ModbusCall} {what : String}
    {reply : List ModbusCall -> Except String answer} {s : ModbusTcpSession}
    (h : (s.transact lib unitId c what reply).1 ≠ none) :
    (s.transact lib unitId c what reply).2.calls = c :: .setSlave unitId :: s.calls := by
  unfold ModbusTcpSession.transact ModbusTcpSession.prepare at h ⊢
  by_cases hclosed : (!s.ctx) = true
  · simp only [if_pos hclosed] at h
    exact absurd rfl h
  · simp only [if_neg hclosed] at h ⊢
    cases hprepared : lib.done (s.call (.setSlave unitId)).calls with
    | error text =>
        rw [hprepared] at h
        exact absurd rfl h
    | ok _ =>
        rw [hprepared] at h
        dsimp only at h ⊢
        cases hreply : reply ((s.call (.setSlave unitId)).call c).calls with
        | error text =>
            rw [hreply] at h
            exact absurd rfl h
        | ok value => rfl

theorem calls_writePoint {lib : Libmodbus} {ref : ModbusRef} {register : UInt16}
    {writeBit : ModbusTcpSession -> Option Unit × ModbusTcpSession} {link : ModbusLink}
    (htable : ref.table = .holdingRegister)
    (h : (writePoint writeBit
      (ModbusTcpSession.writeHoldingRegister lib ref.unitId ref.address register) ref
        link).1 = true) :
    (writePoint writeBit
      (ModbusTcpSession.writeHoldingRegister lib ref.unitId ref.address register) ref
        link).2.session.calls =
      .writeRegister ref.address register :: .setSlave ref.unitId ::
        link.session.calls := by
  unfold writePoint at h ⊢
  split at h
  · cases h
  · rename_i hvalid
    rw [if_neg hvalid]
    rw [htable] at h ⊢
    dsimp only at h ⊢
    split at h
    · cases h
    · rename_i hwritten
      apply calls_transact
      intro hnone
      exact Option.some_ne_none _ (hwritten.symm.trans hnone)

theorem SetpointRun.writes {v : Double} (run : SetpointRun v) :
    run.Writes (registerValue v).toNat := by
  have hexecuted := run.executed
  have haccepted := run.accepted
  unfold execute ProtocolAdapter.executeWith at hexecuted
  rw [run.found] at hexecuted
  have hresult := Option.some_inj.mp hexecuted
  refine ⟨registerValue v, rfl, ?_⟩
  rw [← hresult] at haccepted ⊢
  rcases Link.execute_of_accepted haccepted with ⟨_, mapped, hmapped, hwrite⟩
  cases Option.some_inj.mp (hmapped.symm.trans run.isMapped)
  have hrun : runCommand run.lib run.command v run.machine.mapping run.adapter.link =
      Link.written "modbus write failed"
        (writeDouble run.lib run.mapped.target v run.adapter.link) := by
    rw [if_pos run.isSet] at hwrite
    exact hwrite
  dsimp only at haccepted ⊢
  rw [hrun] at haccepted ⊢
  rw [Link.written_snd]
  exact calls_writePoint run.toRegister (Link.written_of_accepted haccepted)

theorem SetpointRun.eq_of_writes {v : Double} {run : SetpointRun v} {n : Int}
    (h : run.Writes n) : n = (registerValue v).toNat := by
  rcases h with ⟨register, rfl, hcalls⟩
  rcases run.writes with ⟨register', hregister', hcalls'⟩
  rw [hcalls'] at hcalls
  injection hcalls with hcall _
  injection hcall with _ hregister
  rw [← hregister', hregister]

/-- Every accepted set command keeps the setpoint. -/
def KeepsSetpoint (v : Double) : Prop :=
  forall run : SetpointRun v, exists n, run.Writes n ∧ Faithful 0 65535 v n

/-- The smaller setpoint is never written as the larger integer. -/
def InOrder (v w : Double) : Prop :=
  forall (first : SetpointRun v) (second : SetpointRun w) (m n : Int),
    first.Writes m -> second.Writes n -> m ≤ n

def speedMachine : ModbusEquipmentMapping where
  id := "PUMP-001"
  type := "pump"
  commands := [⟨"set_speed", makeModbusRef 1 .holdingRegister 0⟩]

def agreeable : Libmodbus where
  newTcp _ := true
  done _ := .ok ()
  bit _ := .ok 0
  word _ := .ok 0

def speedAdapter : ModbusIndustrialAdapter :=
  (connect agreeable (new "plc" { equipment := [speedMachine] })).2

def speedRun (v : Double) : SetpointRun v where
  lib := agreeable
  adapter := speedAdapter
  equipmentId := "PUMP-001"
  command := "set_speed"
  machine := BoundEquipment.bind speedMachine
  mapped := ⟨"set_speed", makeModbusRef 1 .holdingRegister 0⟩
  result := _
  isSet := by decide
  found := by rfl
  isMapped := by rfl
  toRegister := rfl
  executed := by rfl
  accepted := by rfl

theorem keepsSetpoint_iff (v : Double) : KeepsSetpoint v <-> v ≠ .nan := by
  constructor
  · intro h
    rcases h (speedRun v) with ⟨n, _, hfaithful⟩
    exact hfaithful.isNumber
  · intro hv run
    exact ⟨_, run.writes,
      (registerValue_narrows hv).faithful (by norm_num) (by norm_num)⟩

theorem inOrder_of_lt {v w : Double} (h : BinaryFloat.lt v w = true) : InOrder v w := by
  have hv : v ≠ .nan := by
    rintro rfl
    cases h
  have hw : w ≠ .nan := by
    rintro rfl
    cases v <;> cases h
  intro first second m n hm hn
  rw [SetpointRun.eq_of_writes hm, SetpointRun.eq_of_writes hn]
  exact (registerValue_narrows hv).mono (registerValue_narrows hw) (by norm_num) h

end ModbusIndustrialAdapter

/-!
# DINT tags
-/

namespace EtherNetIpIndustrialAdapter

/-- The integer that is sent to a DINT tag for a number. -/
def dintValue (v : Double) : Int32 :=
  Int32.ofInt v.lround

/-- A number rounds into the range of a DINT. -/
def RoundsToDint (x : Rat) : Prop :=
  -2 ^ 31 - 1 / 2 < x ∧ x < 2 ^ 31 - 1 / 2

/-- A number out of that range rounds to the nearer limit of the range, some multiples
of `2 ^ 32` away, and still to a `long`. -/
def WrapsToLimit (x : Rat) : Prop :=
  exists k : Nat, 0 < k ∧ k < 2 ^ 31 ∧
    ((2 ^ 31 - 1 + k * 2 ^ 32 - 1 / 2 ≤ x ∧ x < 2 ^ 31 - 1 + k * 2 ^ 32 + 1 / 2) ∨
      (-2 ^ 31 - k * 2 ^ 32 - 1 / 2 < x ∧ x ≤ -2 ^ 31 - k * 2 ^ 32 + 1 / 2))

/-- The numbers that a DINT tag receives clamped and rounded. -/
def SurvivesDint (v : Double) : Prop :=
  exists x, v.value = some x ∧ (RoundsToDint x ∨ WrapsToLimit x)

/-- The same of the integer that a number is rounded to. -/
def LandsInDint (n : Int) : Prop :=
  (-2 ^ 31 ≤ n ∧ n < 2 ^ 31) ∨
    exists k : Nat, 0 < k ∧ k < 2 ^ 31 ∧
      (n = 2 ^ 31 - 1 + k * 2 ^ 32 ∨ n = -2 ^ 31 - k * 2 ^ 32)

theorem landsInDint_iff {x : Rat} {n : Int} (h : BinaryFloat.NearestAway x n) :
    LandsInDint n <-> RoundsToDint x ∨ WrapsToLimit x := by
  have hrounds : (-2 ^ 31 ≤ n ∧ n < 2 ^ 31) <-> RoundsToDint x := by
    have hlow := h.le_iff_of_nonpos (b := -2 ^ 31) (by norm_num)
    have hhigh := not_congr (h.le_iff_of_pos (b := 2 ^ 31) (by norm_num))
    have hlimit : ((-2 ^ 31 : Int) : Rat) = -2 ^ 31 := by norm_num
    have hlimit' : ((2 ^ 31 : Int) : Rat) = 2 ^ 31 := by norm_num
    rw [hlimit] at hlow
    rw [hlimit', not_le, not_le] at hhigh
    rw [hlow, hhigh]
    exact Iff.rfl
  have habove : forall k : Nat, n = 2 ^ 31 - 1 + k * 2 ^ 32 <->
      2 ^ 31 - 1 + k * 2 ^ 32 - 1 / 2 ≤ x ∧ x < 2 ^ 31 - 1 + k * 2 ^ 32 + 1 / 2 := by
    intro k
    have hlimit : ((2 ^ 31 - 1 + k * 2 ^ 32 : Int) : Rat) = 2 ^ 31 - 1 + k * 2 ^ 32 := by
      push_cast
      ring
    rw [h.eq_iff_of_pos (by omega), hlimit]
  have hbelow : forall k : Nat, n = -2 ^ 31 - k * 2 ^ 32 <->
      -2 ^ 31 - k * 2 ^ 32 - 1 / 2 < x ∧ x ≤ -2 ^ 31 - k * 2 ^ 32 + 1 / 2 := by
    intro k
    have hlimit : ((-2 ^ 31 - k * 2 ^ 32 : Int) : Rat) = -2 ^ 31 - k * 2 ^ 32 := by
      push_cast
      ring
    rw [h.eq_iff_of_neg (by omega), hlimit]
  unfold LandsInDint WrapsToLimit
  simp only [hrounds, habove, hbelow]

def wrapped (n : Int) : Int :=
  (if -2 ^ 63 ≤ n ∧ n < 2 ^ 63 then n else -2 ^ 63).bmod (2 ^ 32)

theorem dintValue_of_value {v : Double} {x : Rat} (hv : v.value = some x) :
    exists n, BinaryFloat.NearestAway x n ∧ (dintValue v).toInt = wrapped n := by
  rcases Double.lround_of_value hv with ⟨n, hnearest, hlround⟩
  refine ⟨n, hnearest, ?_⟩
  unfold dintValue wrapped
  rw [Int32.toInt_ofInt, hlround]
  rfl

theorem wrapped_of_inside {n : Int} (hlow : -2 ^ 31 ≤ n) (hhigh : n < 2 ^ 31) :
    wrapped n = n := by
  unfold wrapped
  rw [if_pos ⟨by omega, by omega⟩]
  unfold Int.bmod
  dsimp only
  split <;> omega

/-- Beyond the upper limit only some integers wrap to the limit. -/
theorem wrapped_eq_high_iff {n : Int} (hn : 2 ^ 31 ≤ n) :
    wrapped n = 2 ^ 31 - 1 <-> LandsInDint n := by
  unfold wrapped
  constructor
  · intro h
    refine Or.inr ⟨((n - (2 ^ 31 - 1)) / 2 ^ 32).toNat, ?_⟩
    unfold Int.bmod at h
    dsimp only at h
    split at h <;> split at h <;> omega
  · rintro (hinside | ⟨k, hpos, hlt, heq | heq⟩)
    · omega
    · rw [if_pos ⟨by omega, by omega⟩]
      unfold Int.bmod
      dsimp only
      split <;> omega
    · omega

theorem wrapped_eq_low_iff {n : Int} (hn : n < -2 ^ 31) :
    wrapped n = -2 ^ 31 <-> LandsInDint n := by
  unfold wrapped
  constructor
  · intro h
    refine Or.inr ⟨((-2 ^ 31 - n) / 2 ^ 32).toNat, ?_⟩
    unfold Int.bmod at h
    dsimp only at h
    split at h <;> split at h <;> omega
  · rintro (hinside | ⟨k, hpos, hlt, heq | heq⟩)
    · omega
    · omega
    · rw [if_pos ⟨by omega, by omega⟩]
      unfold Int.bmod
      dsimp only
      split <;> omega

theorem abs_sub_le_half_iff (m n : Int) : |(m : Rat) - n| ≤ 1 / 2 <-> m = n := by
  constructor
  · intro h
    have habs := abs_le.mp h
    have hlow : ((n - 1 : Int) : Rat) < m := by
      push_cast
      linarith
    have hhigh : (m : Rat) < (n + 1 : Int) := by
      push_cast
      linarith
    have hlow' := Int.cast_lt.mp hlow
    have hhigh' := Int.cast_lt.mp hhigh
    omega
  · rintro rfl
    rw [sub_self, abs_zero]
    norm_num

theorem dintValue_narrows_of_value {v : Double} {x : Rat} (hv : v.value = some x) :
    NarrowsTo (-2 ^ 31) (2 ^ 31 - 1) v (dintValue v).toInt <->
      RoundsToDint x ∨ WrapsToLimit x := by
  rcases dintValue_of_value hv with ⟨n, hnearest, hvalue⟩
  rw [NarrowsTo.iff_of_value hv, ← landsInDint_iff hnearest, hvalue]
  have hbounds := abs_le.mp hnearest.abs_sub_le
  rcases lt_or_ge n (-2 ^ 31) with hlow | hlow
  · have hx : x ≤ ((-2 ^ 31 : Int) : Rat) := by
      have hcast : (n : Rat) ≤ ((-2 ^ 31 - 1 : Int) : Rat) := Int.cast_le.mpr (by omega)
      push_cast at hcast ⊢
      linarith
    have hclamp : max ((-2 ^ 31 : Int) : Rat) (min ((2 ^ 31 - 1 : Int) : Rat) x) =
        ((-2 ^ 31 : Int) : Rat) := max_eq_left ((min_le_right _ _).trans hx)
    rw [hclamp, abs_sub_le_half_iff, wrapped_eq_low_iff hlow]
  · rcases lt_or_ge n (2 ^ 31) with hhigh | hhigh
    · have hlands : LandsInDint n := Or.inl ⟨hlow, hhigh⟩
      have hlow' : ((-2 ^ 31 : Int) : Rat) ≤ n := Int.cast_le.mpr hlow
      have hhigh' : (n : Rat) ≤ ((2 ^ 31 - 1 : Int) : Rat) := Int.cast_le.mpr (by omega)
      have hclose := abs_sub_clamp_le hnearest.abs_sub_le hlow' hhigh'
      rw [← wrapped_of_inside hlow hhigh] at hclose
      exact iff_of_true hclose hlands
    · have hx : ((2 ^ 31 - 1 : Int) : Rat) ≤ x := by
        have hcast : ((2 ^ 31 : Int) : Rat) ≤ (n : Rat) := Int.cast_le.mpr hhigh
        push_cast at hcast ⊢
        linarith
      have hclamp : max ((-2 ^ 31 : Int) : Rat) (min ((2 ^ 31 - 1 : Int) : Rat) x) =
          ((2 ^ 31 - 1 : Int) : Rat) := by
        rw [min_eq_left hx]
        exact max_eq_right (by norm_num)
      rw [hclamp, abs_sub_le_half_iff, wrapped_eq_high_iff hhigh]

theorem dintValue_narrows_iff (v : Double) :
    NarrowsTo (-2 ^ 31) (2 ^ 31 - 1) v (dintValue v).toInt <-> SurvivesDint v := by
  cases v with
  | nan =>
      constructor
      · intro h
        exact h.elim
      · rintro ⟨x, hx, _⟩
        cases hx
  | infinite negative =>
      constructor
      · intro h
        have hzero : (dintValue (.infinite negative)).toInt =
          if negative then -2 ^ 31 else 2 ^ 31 - 1 := h
        cases negative <;> exact absurd hzero (by decide)
      · rintro ⟨x, hx, _⟩
        cases hx
  | finite negative m e h =>
      rw [dintValue_narrows_of_value rfl]
      constructor
      · intro hx
        exact ⟨_, rfl, hx⟩
      · rintro ⟨x, hx, hsurvives⟩
        cases hx
        exact hsurvives

/-- An accepted set command that is mapped to a DINT tag, to an adapter in any state
that operations lead to. -/
structure SetpointRun (v : Double) where
  lib : Libplctag
  adapter : EtherNetIpIndustrialAdapter
  equipmentId : String
  command : String
  machine : BoundEquipment EtherNetIpEquipmentMapping
  mapped : EtherNetIpCommandMapping × Nat
  result : CommandResult × EtherNetIpIndustrialAdapter
  reached : Reached adapter
  isSet : isSetCommand command = true
  found : adapter.boundById equipmentId = some machine
  isMapped :
    machine.mapping.commands.zipIdx.find? (fun entry => entry.1.command = command) =
      some mapped
  toDint : mapped.1.valueType = .dint
  executed : execute lib adapter equipmentId command v = some result
  accepted : result.1.accepted = true

/-- The run puts the integer into the tag of the command and sends the tag, and makes no
other call. -/
def SetpointRun.Writes {v : Double} (run : SetpointRun v) (n : Int) : Prop :=
  exists (tag : TagEntry) (dint : Int32) (timeoutMs : Int),
    run.adapter.link.session.tags.find?
        (tagKey run.machine.mapping.id "cmd" run.mapped.2) = some tag ∧
      dint.toInt = n ∧
      run.result.2.link.session.calls =
        .write tag.id timeoutMs :: .setInt32 tag.id dint ::
          run.adapter.link.session.calls

theorem calls_writeDint {lib : Libplctag} {key : String} {dint : Int32}
    {s : EipSession} {tag : TagEntry} (hfind : s.tags.find? key = some tag)
    (htype : tag.valueType = .dint) (h : (EipSession.writeDint lib key dint s).1 = true) :
    (EipSession.writeDint lib key dint s).2.calls =
      .write tag.id s.timeoutMs :: .setInt32 tag.id dint :: s.calls := by
  unfold EipSession.writeDint EipSession.writeTag EipSession.findTag at h ⊢
  rw [hfind] at h ⊢
  dsimp only at h ⊢
  by_cases hid : tag.id < 0
  · simp only [if_pos hid] at h
    cases h
  · simp only [if_neg hid, htype] at h ⊢
    split at h
    · cases h
    · rename_i hset
      rw [if_neg hset]
      split at h
      · cases h
      · rename_i hsent
        rw [if_neg hsent]
        rfl

theorem Reached.created {a : EtherNetIpIndustrialAdapter} (h : Reached a)
    (hstate : a.link.connectionState = .connected) {equipmentId : String}
    {machine : BoundEquipment EtherNetIpEquipmentMapping}
    (hfound : a.boundById equipmentId = some machine)
    {mapped : EtherNetIpCommandMapping × Nat}
    (hmapped : mapped ∈ machine.mapping.commands.zipIdx) :
    Created (tagKey machine.mapping.id "cmd" mapped.2, mapped.1.tag, mapped.1.valueType)
      a.link.session := by
  rcases h.hasTags hstate with ⟨hbound, hcreated⟩
  apply hcreated
  have hmachine : machine ∈ a.bound := by
    have hmem := List.mem_of_find?_eq_some hfound
    unfold ProtocolAdapter.exposedBound at hmem
    rw [if_neg (by rw [hstate]; decide)] at hmem
    exact hmem
  apply List.mem_flatMap.mpr
  refine ⟨machine.mapping, ?_, ?_⟩
  · rw [← hbound]
    exact List.mem_map_of_mem hmachine
  · unfold mappedTags
    apply List.mem_append.mpr
    apply Or.inr
    apply List.mem_append.mpr
    apply Or.inl
    exact List.mem_map_of_mem (f := fun p : EtherNetIpCommandMapping × Nat =>
      (tagKey machine.mapping.id "cmd" p.2, p.1.tag, p.1.valueType)) hmapped

theorem calls_writeThrough {lib : Libplctag} {timeoutMs : Int} {key : String}
    {dint : Int32} {link : EtherNetIpLink} {tag : TagEntry}
    (hfind : link.session.tags.find? key = some tag) (htype : tag.valueType = .dint)
    (h : (writeThrough timeoutMs (EipSession.writeDint lib key dint) link).1 = true) :
    (writeThrough timeoutMs (EipSession.writeDint lib key dint) link).2.session.calls =
      .write tag.id (link.session.setTimeoutMs timeoutMs).timeoutMs ::
        .setInt32 tag.id dint :: link.session.calls := by
  unfold writeThrough at h ⊢
  split at h
  · cases h
  · rename_i hopen
    rw [if_neg hopen]
    dsimp only at h ⊢
    split at h
    · rename_i hok
      rw [if_pos hok]
      exact calls_writeDint hfind htype hok
    · cases h

theorem SetpointRun.writes {v : Double} (run : SetpointRun v) :
    run.Writes (dintValue v).toInt := by
  have hexecuted := run.executed
  have haccepted := run.accepted
  unfold execute ProtocolAdapter.executeWith at hexecuted
  rw [run.found] at hexecuted
  have hresult := Option.some_inj.mp hexecuted
  unfold SetpointRun.Writes
  rw [← hresult] at haccepted ⊢
  rcases Link.execute_of_accepted haccepted with ⟨hstate, mapped, hmapped, hwrite⟩
  cases Option.some_inj.mp (hmapped.symm.trans run.isMapped)
  rcases run.reached.created hstate run.found
    (List.mem_of_find?_eq_some run.isMapped) with ⟨tag, hfind, htype⟩
  rw [run.toDint] at htype
  have hrun : runCommand run.lib (operationTimeoutMs run.adapter.config) run.command v
      run.machine.mapping run.adapter.link =
        Link.written "ethernetip write failed"
          (writeDouble run.lib (operationTimeoutMs run.adapter.config)
            (tagKey run.machine.mapping.id "cmd" run.mapped.2) .dint v
            run.adapter.link) := by
    dsimp only at hwrite
    rw [if_pos run.isSet, run.toDint] at hwrite
    exact hwrite
  dsimp only at haccepted ⊢
  rw [hrun] at haccepted ⊢
  rw [Link.written_snd]
  have hcalls := calls_writeThrough hfind htype (Link.written_of_accepted haccepted)
  exact ⟨tag, dintValue v, _, hfind, rfl, hcalls⟩

theorem SetpointRun.eq_of_writes {v : Double} {run : SetpointRun v} {n : Int}
    (h : run.Writes n) : n = (dintValue v).toInt := by
  rcases h with ⟨_, dint, _, _, rfl, hcalls⟩
  rcases run.writes with ⟨_, dint', _, _, hdint', hcalls'⟩
  rw [hcalls'] at hcalls
  injection hcalls with _ hrest
  injection hrest with hcall _
  injection hcall with _ hdint
  rw [← hdint', hdint]

def KeepsSetpoint (v : Double) : Prop :=
  forall run : SetpointRun v, exists n,
    run.Writes n ∧ Faithful (-2 ^ 31) (2 ^ 31 - 1) v n

def InOrder (v w : Double) : Prop :=
  forall (first : SetpointRun v) (second : SetpointRun w) (m n : Int),
    first.Writes m -> second.Writes n -> m ≤ n

def speedMachine : EtherNetIpEquipmentMapping where
  id := "PUMP-001"
  type := "pump"
  commands := [⟨"set_speed", "Speed", .dint⟩]

def agreeable : Libplctag where
  create _ := 1
  status _ := plctagStatusOk
  uint8 _ := 0
  int32 _ := 0
  float32 _ := .nan
  decodeError _ := ""

def speedAdapter : EtherNetIpIndustrialAdapter :=
  (connect agreeable (new "plc" { equipment := [speedMachine] })).2

theorem reached_speedAdapter : Reached speedAdapter := by
  have hfresh : Reached (new "plc" { equipment := [speedMachine] }) :=
    IndustrialAdapter.Operated.created ⟨_, _, rfl⟩
  exact IndustrialAdapter.Operated.operated ⟨.connect, agreeable⟩ {} hfresh

def speedRun (v : Double) : SetpointRun v where
  lib := agreeable
  adapter := speedAdapter
  equipmentId := "PUMP-001"
  command := "set_speed"
  machine := BoundEquipment.bind speedMachine
  mapped := (⟨"set_speed", "Speed", .dint⟩, 0)
  result := _
  reached := reached_speedAdapter
  isSet := by decide
  found := by rfl
  isMapped := by rfl
  toDint := rfl
  executed := by rfl
  accepted := by rfl

theorem keepsSetpoint_iff (v : Double) : KeepsSetpoint v <-> SurvivesDint v := by
  rw [← dintValue_narrows_iff]
  constructor
  · intro h
    rcases h (speedRun v) with ⟨n, hn, hfaithful⟩
    rw [← SetpointRun.eq_of_writes hn]
    exact hfaithful.narrows
  · intro hnarrows run
    exact ⟨_, run.writes, hnarrows.faithful (by norm_num) (by norm_num)⟩

theorem inOrder_of_lt {v w : Double} (hv : SurvivesDint v) (hw : SurvivesDint w)
    (h : BinaryFloat.lt v w = true) : InOrder v w := by
  rw [← dintValue_narrows_iff] at hv hw
  intro first second m n hm hn
  rw [SetpointRun.eq_of_writes hm, SetpointRun.eq_of_writes hn]
  exact hv.mono hw (by norm_num) h

end EtherNetIpIndustrialAdapter

/-!
# Both adapters
-/

/-- A register keeps every setpoint but one that is not a number.  A DINT tag keeps only
the setpoints that round into its range, and those that happen to wrap to the limit. -/
theorem setpoints_kept_iff (v : Double) :
    (ModbusIndustrialAdapter.KeepsSetpoint v <-> v ≠ .nan) ∧
      (EtherNetIpIndustrialAdapter.KeepsSetpoint v <->
        EtherNetIpIndustrialAdapter.SurvivesDint v) ∧
      forall w : Double, BinaryFloat.lt v w = true ->
        ModbusIndustrialAdapter.InOrder v w ∧
          (EtherNetIpIndustrialAdapter.SurvivesDint v ->
            EtherNetIpIndustrialAdapter.SurvivesDint w ->
              EtherNetIpIndustrialAdapter.InOrder v w) := by
  refine ⟨ModbusIndustrialAdapter.keepsSetpoint_iff v,
    EtherNetIpIndustrialAdapter.keepsSetpoint_iff v, ?_⟩
  intro w hlt
  constructor
  · exact ModbusIndustrialAdapter.inOrder_of_lt hlt
  · intro hv hw
    exact EtherNetIpIndustrialAdapter.inOrder_of_lt hv hw hlt

/-- Not a number is written to a register as its largest value, and the setpoint behind
the range of a DINT as its smallest one. -/
theorem not_kept_beyondRange :
    (exists run : ModbusIndustrialAdapter.SetpointRun .nan, run.Writes 65535) ∧
      Not (ModbusIndustrialAdapter.KeepsSetpoint .nan) ∧
      (exists run : EtherNetIpIndustrialAdapter.SetpointRun (Double.ofInt 2147483648),
        run.Writes (-2147483648)) ∧
      Not (EtherNetIpIndustrialAdapter.KeepsSetpoint (Double.ofInt 2147483648)) := by
  have hwritten : (EtherNetIpIndustrialAdapter.dintValue
      (Double.ofInt 2147483648)).toInt = -2147483648 := by
    decide +kernel
  have hnarrows : Not (NarrowsTo (-2 ^ 31) (2 ^ 31 - 1) (Double.ofInt 2147483648)
      (EtherNetIpIndustrialAdapter.dintValue (Double.ofInt 2147483648)).toInt) := by
    intro h
    have hnonneg := h.nonneg (by norm_num) (by decide +kernel)
    rw [hwritten] at hnonneg
    omega
  refine ⟨⟨ModbusIndustrialAdapter.speedRun .nan, ?_⟩, ?_,
    ⟨EtherNetIpIndustrialAdapter.speedRun _, ?_⟩, ?_⟩
  · have h := (ModbusIndustrialAdapter.speedRun .nan).writes
    rw [ModbusIndustrialAdapter.registerValue_nan] at h
    exact h
  · rw [ModbusIndustrialAdapter.keepsSetpoint_iff]
    exact fun h => h rfl
  · rw [← hwritten]
    exact (EtherNetIpIndustrialAdapter.speedRun _).writes
  · rw [EtherNetIpIndustrialAdapter.keepsSetpoint_iff,
      ← EtherNetIpIndustrialAdapter.dintValue_narrows_iff]
    exact hnarrows

end VirtualFactory
