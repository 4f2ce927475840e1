import VirtualFactory.Foundation.Machine
import VirtualFactory.Industrial.IndustrialAdapter

/-!
# Runs of one adapter

One adapter as a machine: every event is an operation together with the device that
answers during it.
-/

namespace VirtualFactory

open Foundation

inductive AdapterOperation (stimulus : Type) where
  | connect
  | disconnect
  | poll
  | execute (equipmentId command : String) (parameter : Double)
  | stimulate (s : stimulus)

structure AdapterEvent (device stimulus : Type) where
  operation : AdapterOperation stimulus
  device : device

inductive AdapterAnswer where
  | connected (ok : Bool)
  | disconnected
  | polled
  | executed (result : Option CommandResult)
  | stimulated
  deriving DecidableEq

namespace IndustrialAdapter

variable {adapter device stimulus : Type}
  [IndustrialAdapter adapter device stimulus]

def operate (event : AdapterEvent device stimulus) (s : adapter × ClientIds) :
    AdapterAnswer × adapter × ClientIds :=
  match event.operation with
  | .connect =>
      let r := connect event.device s.1 s.2
      (.connected r.1, r.2)
  | .disconnect => (.disconnected, disconnect event.device s.1 s.2)
  | .poll => (.polled, poll event.device s.1 s.2)
  | .execute equipmentId command parameter =>
      match execute event.device s.1 equipmentId command parameter s.2 with
      | none => (.executed none, s)
      | some r => (.executed (some r.1), r.2)
  | .stimulate stimulus => (.stimulated, stimulate stimulus s.1, s.2)

theorem operate_execute_of_none {d : device} {a : adapter} {ids : ClientIds}
    {equipmentId command : String} {parameter : Double}
    (h : execute d a equipmentId command parameter ids = none) :
    operate ⟨.execute equipmentId command parameter, d⟩ (a, ids) =
      (.executed none, a, ids) := by
  simp only [operate, h]

theorem operate_execute_of_some {d : device} {a : adapter} {ids : ClientIds}
    {equipmentId command : String} {parameter : Double}
    {r : CommandResult × adapter × ClientIds}
    (h : execute d a equipmentId command parameter ids = some r) :
    operate ⟨.execute equipmentId command parameter, d⟩ (a, ids) =
      (.executed (some r.1), r.2) := by
  simp only [operate, h]

theorem adapterId_operate (event : AdapterEvent device stimulus) (a : adapter)
    (ids : ClientIds) : adapterId (operate event (a, ids)).2.1 = adapterId a := by
  rcases event with ⟨operation, d⟩
  cases operation with
  | connect => exact id_connect d a ids
  | disconnect => exact id_disconnect d a ids
  | poll => exact id_poll d a ids
  | execute equipmentId command parameter =>
      cases hr : execute d a equipmentId command parameter ids with
      | none => rw [operate_execute_of_none hr]
      | some r =>
          rw [operate_execute_of_some hr]
          exact id_execute d a equipmentId command parameter ids r hr
  | stimulate s => exact id_stimulate s a

def operations (adapter : Type) {device stimulus : Type}
    [IndustrialAdapter adapter device stimulus] :
    Machine (adapter × ClientIds) (AdapterEvent device stimulus) AdapterAnswer where
  step := operate

theorem operation_of_connected {event : AdapterEvent device stimulus}
    {s : adapter × ClientIds} {ok : Bool} (h : (operate event s).1 = .connected ok) :
    event.operation = .connect := by
  unfold operate at h
  split at h
  · assumption
  · cases h
  · cases h
  · split at h <;> cases h
  · cases h

theorem operation_of_disconnected {event : AdapterEvent device stimulus}
    {s : adapter × ClientIds} (h : (operate event s).1 = .disconnected) :
    event.operation = .disconnect := by
  unfold operate at h
  split at h
  · cases h
  · assumption
  · cases h
  · split at h <;> cases h
  · cases h

/-- A property of an adapter that no operation breaks, whatever is claimed. -/
def Stable (kept : adapter -> Prop) : Prop :=
  forall (event : AdapterEvent device stimulus) (a : adapter) (ids : ClientIds),
    kept a -> kept (operate event (a, ids)).2.1

/-- The adapters that operations make of the fresh ones, with anything happening to
the shared client identifiers in between. -/
inductive Operated (fresh : adapter -> Prop) : adapter -> Prop
  | created {a : adapter} (h : fresh a) : Operated fresh a
  | operated {a : adapter} (event : AdapterEvent device stimulus) (ids : ClientIds)
      (h : Operated fresh a) : Operated fresh (operate event (a, ids)).2.1

theorem stable_operated (fresh : adapter -> Prop) : Stable (Operated fresh) :=
  fun event _ ids h => Operated.operated event ids h

theorem Operated.invariant {fresh kept : adapter -> Prop} (hkept : Stable kept)
    (hfresh : forall a, fresh a -> kept a) {a : adapter} (h : Operated fresh a) :
    kept a := by
  induction h with
  | created h => exact hfresh _ h
  | operated event ids _ ih => exact hkept event _ ids ih

/-!
# The contract of the interface
-/

/-- The contract of the interface, for adapters that obey it: machines are hidden while
the adapter is disconnected, appear only by a connect that returns true, and have
identifiers of their own. -/
structure Contract (obeys : adapter -> Prop) : Prop where
  stable : Stable obeys
  hidden : forall a, obeys a -> connectionState a = .disconnected -> exposed a = []
  gained : forall (own : AdapterEvent device stimulus) a ids, obeys a ->
    (operate own (a, ids)).1 ≠ .connected true ->
      exposedIds (operate own (a, ids)).2.1 ⊆ exposedIds a
  disconnects : forall (d : device) a ids, obeys a ->
    connectionState (disconnect d a ids).1 = .disconnected
  distinct : forall a, obeys a -> (exposedIds a).Nodup
  lookup : forall a id, obeys a ->
    equipmentById a id = (exposed a).find? (fun e => e.id = id)

namespace Contract

theorem exposedIds_of_disconnected {obeys : adapter -> Prop}
    (hcontract : Contract obeys) {a : adapter} (ha : obeys a)
    (h : connectionState a = .disconnected) : exposedIds a = [] := by
  unfold exposedIds
  rw [hcontract.hidden a ha h, List.map_nil]

theorem equipmentById_eq_some_iff {obeys : adapter -> Prop}
    (hcontract : Contract obeys) {a : adapter} (ha : obeys a) (id : String)
    (e : EquipmentView) :
    equipmentById a id = some e <-> e ∈ exposed a ∧ e.id = id := by
  rw [hcontract.lookup a id ha]
  constructor
  · intro h
    exact ⟨List.mem_of_find?_eq_some h, by simpa using List.find?_some h⟩
  · rintro ⟨hmem, hid⟩
    cases hfind : (exposed a).find? (fun e => e.id = id) with
    | none =>
        have hnone := List.find?_eq_none.mp hfind e hmem
        exact absurd hid (by simpa using hnone)
    | some d =>
        have hd := List.mem_of_find?_eq_some hfind
        have hdid : d.id = id := by simpa using List.find?_some hfind
        rw [List.inj_on_of_nodup_map (hcontract.distinct a ha) hd hmem
          (hdid.trans hid.symm)]

theorem equipmentById_eq_none_iff {obeys : adapter -> Prop}
    (hcontract : Contract obeys) {a : adapter} (ha : obeys a) (id : String) :
    equipmentById a id = none <-> id ∉ exposedIds a := by
  rw [hcontract.lookup a id ha, List.find?_eq_none, mem_exposedIds_iff]
  simp

end Contract

end IndustrialAdapter

end VirtualFactory
