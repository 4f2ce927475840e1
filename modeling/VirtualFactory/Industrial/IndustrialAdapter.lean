import VirtualFactory.Equipment.Equipment
import Mathlib.Data.Finset.Basic

/-!
# The adapter interface

An adapter translates one industrial source into normalized equipment.  The
connection state describes the link to the source and is distinct from the machine
fault of the equipment.

Operations take the device as an argument: the libraries and the hardware behind the
adapter, whose answers are arbitrary.
-/

namespace VirtualFactory

inductive ConnectionState where
  | disconnected
  | connected
  | faulted
  deriving DecidableEq

/-- The variables that all MQTT adapters of the process share: the client keys in
use and the counter behind generated client identifiers. -/
structure ClientIds where
  claimed : Finset String := ∅
  serial : UInt64 := 1

/-- The virtual functions of an adapter.  `adapterId` is its `id`; `equipment` lists the exposed machines and
may contain null entries; `execute` runs a command on the machine that
`equipmentById` finds; `stimulate` is what happens to the adapter from outside
between two operations.  The identifier of an adapter never changes. -/
class IndustrialAdapter (adapter : Type)
    (device stimulus : outParam Type) where
  adapterId : adapter -> String
  protocol : adapter -> String
  connectionState : adapter -> ConnectionState
  lastError : adapter -> String
  connect : device -> adapter -> ClientIds -> Bool × adapter × ClientIds
  disconnect : device -> adapter -> ClientIds -> adapter × ClientIds
  equipment : adapter -> List (Option EquipmentView)
  equipmentById : adapter -> String -> Option EquipmentView
  poll : device -> adapter -> ClientIds -> adapter × ClientIds
  execute : device -> adapter -> (equipmentId command : String) -> Double ->
    ClientIds -> Option (CommandResult × adapter × ClientIds)
  stimulate : stimulus -> adapter -> adapter
  id_connect : forall d a ids, adapterId (connect d a ids).2.1 = adapterId a
  id_disconnect : forall d a ids, adapterId (disconnect d a ids).1 = adapterId a
  id_poll : forall d a ids, adapterId (poll d a ids).1 = adapterId a
  id_execute : forall d a equipmentId command parameter ids result,
    execute d a equipmentId command parameter ids = some result ->
      adapterId result.2.1 = adapterId a
  id_stimulate : forall s a, adapterId (stimulate s a) = adapterId a

namespace IndustrialAdapter

variable {adapter device stimulus : Type}
  [IndustrialAdapter adapter device stimulus]

/-- The machines an adapter exposes, without the null entries. -/
def exposed (a : adapter) : List EquipmentView :=
  (equipment a).filterMap (fun e => e)

def exposedIds (a : adapter) : List String :=
  (exposed a).map EquipmentView.id

theorem exposed_of_map {item : Type} {a : adapter} {xs : List item}
    {view : item -> EquipmentView}
    (h : equipment a = xs.map (fun x => some (view x))) :
    exposed a = xs.map view := by
  simp [exposed, h, List.filterMap_map]

theorem find?_exposed_of_map {item : Type} {a : adapter} {xs : List item}
    {view : item -> EquipmentView}
    (h : equipment a = xs.map (fun x => some (view x))) (id : String) :
    (exposed a).find? (fun e => e.id = id) =
      (xs.find? (fun x => (view x).id = id)).map view := by
  rw [exposed_of_map h, List.find?_map]
  rfl

theorem mem_exposedIds_iff (a : adapter) (id : String) :
    id ∈ exposedIds a <-> exists e : EquipmentView, e ∈ exposed a ∧ e.id = id :=
  List.mem_map

end IndustrialAdapter

/-- What the scheduler relies on when it polls a connected adapter: the adapter keeps
its machines and does not disconnect, and the claims of other clients neither matter
to it nor change. -/
class LawfulPoll (adapter : Type) {device stimulus : Type}
    [IndustrialAdapter adapter device stimulus] : Prop where
  poll_exposedIds : forall (d : device) (a : adapter) (ids : ClientIds),
    IndustrialAdapter.connectionState a = .connected ->
      IndustrialAdapter.exposedIds (IndustrialAdapter.poll d a ids).1 =
        IndustrialAdapter.exposedIds a
  poll_connectionState : forall (d : device) (a : adapter) (ids : ClientIds),
    IndustrialAdapter.connectionState a = .connected ->
      IndustrialAdapter.connectionState (IndustrialAdapter.poll d a ids).1 ≠
        .disconnected
  poll_local : forall (d : device) (a : adapter),
    IndustrialAdapter.connectionState a = .connected ->
      exists (b : adapter) (dropped : Finset String), forall ids : ClientIds,
        IndustrialAdapter.poll d a ids =
          (b, { ids with claimed := ids.claimed \ dropped })

theorem append_ne_empty {text : String} (h : text ≠ "") (more : String) :
    text ++ more ≠ "" := by
  intro happend
  apply h
  have hlist := congrArg String.toList happend
  rw [String.toList_append] at hlist
  exact String.toList_inj.mp (List.append_eq_nil_iff.mp hlist).1

/-- Commands named `set_*` write their parameter. -/
def isSetCommand (command : String) : Bool :=
  decide (4 < command.length) && "set_".toList.isPrefixOf command.toList

end VirtualFactory
