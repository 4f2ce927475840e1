import VirtualFactory.Icp.AdapterFactory
import VirtualFactory.Icp.Runtime
import VirtualFactory.Industrial.Actuation
import VirtualFactory.Industrial.Requests.EtherNetIp
import VirtualFactory.Industrial.Requests.Modbus
import VirtualFactory.Industrial.Requests.OpcUa
import VirtualFactory.Industrial.Requests.Rest

/-!
# Commands and writes

Over a run of the runtime, what an adapter writes to its source is what the commands
routed to it ask for: nothing is written without a command, nothing is written twice, and
the writes of the accepted commands are all there.
-/

namespace VirtualFactory
namespace Icp

open Foundation IndustrialAdapter

/-- The answer tells of a command that the adapter under a key has accepted. -/
def Answer.acceptedBy (key : String) : Answer -> Bool
  | executed k result => decide (k = key) && result.accepted
  | nothing => false
  | managed _ _ => false

namespace Runtime

section

variable {adapter device stimulus write : Type}
  [IndustrialAdapter adapter device stimulus] [Actuates adapter device stimulus write]

/-- What an event asks the adapter under a key to write: the write of a command that is
routed to it. -/
def orderOf (event : Event adapter device stimulus) (s : Runtime adapter)
    (key : String) : List write :=
  match event.operation with
  | .execute equipmentId command parameter =>
      if (s.manager.locate equipmentId).map Prod.fst = some key then
        (s.manager.find? key).elim [] fun a =>
          Actuates.commanded (event.devices key) a equipmentId command parameter
      else []
  | _ => []

/-- The adapter under a key accepts the command of an event. -/
def accepts (event : Event adapter device stimulus) (s : Runtime adapter)
    (key : String) : Bool :=
  (step event s).1.acceptedBy key

/-- What the commands of a run ask the adapter under a key to write. -/
def orders : List (Event adapter device stimulus) -> Runtime adapter -> String ->
    List write
  | [], _, _ => []
  | event :: rest, s, key =>
      orderOf event s key ++ orders rest (step event s).2 key

def acceptedOrders : List (Event adapter device stimulus) -> Runtime adapter -> String ->
    List write
  | [], _, _ => []
  | event :: rest, s, key =>
      (if accepts event s key then orderOf event s key else []) ++
        acceptedOrders rest (step event s).2 key

theorem length_orderOf (event : Event adapter device stimulus) (s : Runtime adapter)
    (key : String) : (orderOf event s key).length ≤ 1 := by
  unfold orderOf
  split
  · split
    · cases s.manager.find? key with
      | none => exact Nat.zero_le 1
      | some a => exact Actuates.commanded_once (event.devices key) a _ _ _
    · exact Nat.zero_le 1
  · exact Nat.zero_le 1

/-!
# One step
-/

theorem writes_connectChecked (d : device) (key : String) (m : AdapterManager adapter)
    (a : adapter) (ids : ClientIds) :
    Actuates.writes (AdapterManager.connectChecked d key m a ids).2.1 =
      Actuates.writes a := by
  have hconnect := Actuates.writes_connect d a ids
  have hchecked := AdapterManager.checked_connectChecked d key m a ids
  generalize AdapterManager.connectChecked d key m a ids = result at hchecked ⊢
  cases hchecked with
  | already hstate => rfl
  | refused hstate hresult =>
      rw [hresult] at hconnect
      exact hconnect
  | collided hstate hresult hcheck =>
      rw [hresult] at hconnect
      exact (Actuates.writes_disconnect d _ _).trans hconnect
  | connected hstate hresult hcheck =>
      rw [hresult] at hconnect
      exact hconnect

theorem writes_pollAdapterLocked (d : device) (a : adapter) (s : Shared) :
    Actuates.writes (pollAdapterLocked d a s).1 = Actuates.writes a := by
  unfold pollAdapterLocked
  cases connectionState a with
  | disconnected => rfl
  | connected => exact Actuates.writes_poll d a s.2
  | faulted => rfl

theorem find?_visit_of_some {state : Type} {m : AdapterManager adapter} {key : String}
    {a : adapter} (ha : m.find? key = some a) (f : adapter -> state -> adapter × state)
    (hf : forall a s, adapterId (f a s).1 = adapterId a) (s : state) :
    exists s', (m.visit f hf s).1.find? key = some (f a s').1 := by
  have hkey : key ∈ (m.visit f hf s).1.adapters.keys := by
    show key ∈ (m.adapters.visit (fun _ => f) s).1.keys
    rw [Table.keys_visit, Table.mem_keys_iff]
    exact ⟨a, ha⟩
  rcases (Table.mem_keys_iff _ key).mp hkey with ⟨b, hb⟩
  rcases Table.find?_visit hb with ⟨a', s', ha', rfl⟩
  cases ha'.symm.trans ha
  exact ⟨s', hb⟩

theorem step_execute (devices : String -> device) (equipmentId command : String)
    (parameter : Double) (s : Runtime adapter) :
    step ⟨.execute equipmentId command parameter, devices⟩ s =
      (((s.manager.execute devices equipmentId command parameter s.clientIds).1.map
          (fun p => Answer.executed p.1 p.2)).getD .nothing,
        { s with
          manager :=
            (s.manager.execute devices equipmentId command parameter s.clientIds).2.1
          clientIds :=
            (s.manager.execute devices equipmentId command parameter
              s.clientIds).2.2 }) :=
  rfl

theorem execute_orders (devices : String -> device) (equipmentId command : String)
    (parameter : Double) {s : Runtime adapter} {key : String} {a : adapter}
    (ha : s.manager.find? key = some a) :
    exists b, (step ⟨.execute equipmentId command parameter, devices⟩ s).2.manager.find?
        key = some b ∧
      Follows Actuates.writes
        (orderOf ⟨.execute equipmentId command parameter, devices⟩ s key)
        (accepts ⟨.execute equipmentId command parameter, devices⟩ s key) a b := by
  have horder : orderOf ⟨.execute equipmentId command parameter, devices⟩ s key =
      if (s.manager.locate equipmentId).map Prod.fst = some key then
        (s.manager.find? key).elim [] fun a =>
          Actuates.commanded (devices key) a equipmentId command parameter
      else [] := rfl
  unfold accepts
  rw [horder, step_execute]
  cases hlocate : s.manager.locate equipmentId with
  | none =>
      rw [AdapterManager.execute_of_none hlocate]
      exact ⟨a, ha, follows_nil rfl _⟩
  | some found =>
      rcases found with ⟨k, e⟩
      rcases AdapterManager.find?_of_locate hlocate with ⟨owner, howner, _⟩
      rw [AdapterManager.execute_of_some hlocate howner]
      cases hresult : IndustrialAdapter.execute (devices k) owner equipmentId command
          parameter s.clientIds with
      | none => exact ⟨a, ha, follows_failed rfl _⟩
      | some r =>
          have hon : AdapterManager.executeOn (devices k) equipmentId command parameter
              s.clientIds owner = r.2.1 := by
            unfold AdapterManager.executeOn
            rw [hresult]
          have hmodify := s.manager.find?_modify k
            (AdapterManager.executeOn (devices k) equipmentId command parameter
              s.clientIds)
            (AdapterManager.adapterId_executeOn (devices k) equipmentId command parameter
              s.clientIds) key
          by_cases hk : k = key
          · subst hk
            cases ha.symm.trans howner
            rw [if_pos rfl, ha, Option.map_some, hon] at hmodify
            refine ⟨r.2.1, hmodify, ?_⟩
            rw [Option.map_some, if_pos rfl, ha]
            have hfollows := Actuates.execute_follows (devices k) a equipmentId command
              parameter s.clientIds r hresult
            exact hfollows.weaken (fun haccepted => by
              simpa [Answer.acceptedBy] using haccepted)
          · rw [if_neg (Ne.symm hk), ha] at hmodify
            refine ⟨a, hmodify, ?_⟩
            rw [Option.map_some, if_neg (fun heq => hk (Option.some.inj heq))]
            exact follows_nil rfl _

/-- In one step, the adapter under a key writes what it is ordered. -/
theorem step_orders {event : Event adapter device stimulus} {s : Runtime adapter}
    {key : String} {a : adapter} (ha : s.manager.find? key = some a)
    (hstays : event.operation ≠ .removeAdapter key) :
    exists b, (step event s).2.manager.find? key = some b ∧
      Follows Actuates.writes (orderOf event s key) (accepts event s key) a b := by
  rcases event with ⟨operation, devices⟩
  cases operation with
  | addAdapter newAdapter =>
      exact ⟨a, AdapterManager.find?_addAdapter_of_some ha _ newAdapter s.clientIds,
        follows_nil rfl _⟩
  | removeAdapter removed =>
      have hne : key ≠ removed := fun heq => hstays (by rw [heq])
      have hfind := AdapterManager.find?_removeAdapter (devices removed) removed
        s.manager s.clientIds key
      rw [if_neg hne] at hfind
      exact ⟨a, hfind.trans ha, follows_nil rfl _⟩
  | connectAdapter connected =>
      have hfind := AdapterManager.find?_connectAdapter (devices connected) connected
        s.manager s.clientIds key
      by_cases hk : key = connected
      · rw [if_pos hk, ha] at hfind
        exact ⟨_, hfind, follows_nil (writes_connectChecked _ connected s.manager a _) _⟩
      · rw [if_neg hk] at hfind
        exact ⟨a, hfind.trans ha, follows_nil rfl _⟩
  | disconnectAdapter disconnected =>
      have hfind := AdapterManager.find?_disconnectAdapter (devices disconnected)
        disconnected s.manager s.clientIds key
      by_cases hk : key = disconnected
      · rw [if_pos hk, ha] at hfind
        exact ⟨_, hfind, follows_nil (Actuates.writes_disconnect _ a _) _⟩
      · rw [if_neg hk] at hfind
        exact ⟨a, hfind.trans ha, follows_nil rfl _⟩
  | disconnectAll =>
      rcases find?_visit_of_some ha
        (fun a ids => disconnect (devices (adapterId a)) a ids)
        (fun a ids => id_disconnect (devices (adapterId a)) a ids) s.clientIds with
        ⟨ids, hfind⟩
      exact ⟨_, hfind, follows_nil (Actuates.writes_disconnect _ a ids) _⟩
  | pollOnce =>
      rcases find?_visit_of_some ha
        (fun a shared => pollAdapterLocked (devices (adapterId a)) a shared)
        (fun a shared => adapterId_pollAdapterLocked (devices (adapterId a)) a shared)
        (s.cache, s.clientIds) with ⟨shared, hfind⟩
      exact ⟨_, hfind, follows_nil (writes_pollAdapterLocked _ a shared) _⟩
  | execute equipmentId command parameter =>
      exact execute_orders devices equipmentId command parameter ha
  | stimulate stimulated st =>
      have hfind := s.manager.find?_modify stimulated
        (IndustrialAdapter.stimulate st) (id_stimulate st) key
      by_cases hk : key = stimulated
      · rw [if_pos hk, ha] at hfind
        exact ⟨_, hfind, follows_nil (Actuates.writes_stimulate st a) _⟩
      · rw [if_neg hk] at hfind
        exact ⟨a, hfind.trans ha, follows_nil rfl _⟩
  | rehash order =>
      exact ⟨a, (s.manager.find?_rehash order key).trans ha, follows_nil rfl _⟩

/-!
# Whole runs
-/

theorem run_orders (es : List (Event adapter device stimulus)) {s : Runtime adapter}
    {key : String} {a : adapter} (ha : s.manager.find? key = some a)
    (hes : forall event, event ∈ es -> event.operation ≠ .removeAdapter key) :
    exists b said, ((runtime adapter).run es s).manager.find? key = some b ∧
      Actuates.writes b = Actuates.writes a ++ said ∧
      List.Sublist (acceptedOrders es s key) said ∧
      List.Sublist said (orders es s key) := by
  induction es generalizing s a with
  | nil => exact ⟨a, [], ha, (List.append_nil _).symm, List.Sublist.slnil, List.Sublist.slnil⟩
  | cons event es ih =>
      rcases step_orders ha (hes event List.mem_cons_self) with ⟨b, hb, hfollows⟩
      rcases ih hb (fun e he => hes e (List.mem_cons_of_mem event he)) with
        ⟨c, later, hc, hlater, haccepted, hordered⟩
      rcases hfollows with ⟨now, hnow, hbegin, hall⟩
      refine ⟨c, now ++ later, hc, ?_, ?_, hbegin.sublist.append hordered⟩
      · rw [hlater, hnow, List.append_assoc]
      · refine List.Sublist.append ?_ haccepted
        split
        · rename_i haccepts
          rw [hall haccepts]
        · exact List.nil_sublist now

end

/-- Whatever runs on a runtime with adapters of all kinds: as long as an adapter is not
removed, what it writes to its source lies between what the accepted commands to it ask
for and what all the commands to it ask for, in the order of the commands.  A command
asks for one write at most. -/
theorem commands_actuate (es : List (Event Adapter AdapterDevice AdapterStimulus))
    (s : Runtime Adapter) (key : String) {a : Adapter}
    (ha : s.manager.find? key = some a)
    (hes : forall event, event ∈ es -> event.operation ≠ .removeAdapter key) :
    (exists b said, ((runtime Adapter).run es s).manager.find? key = some b ∧
      Actuates.writes b = Actuates.writes a ++ said ∧
      List.Sublist (acceptedOrders es s key) said ∧
      List.Sublist said (orders es s key)) ∧
    forall (event : Event Adapter AdapterDevice AdapterStimulus) (t : Runtime Adapter),
      (orderOf event t key).length ≤ 1 :=
  ⟨run_orders es ha hes, fun event t => length_orderOf event t key⟩

def pumpStation : ModbusAdapterConfig where
  equipment :=
    [{ id := "PUMP-1", type := "pump", commands := [⟨"start", makeModbusRef 1 .coil 7⟩] }]

def obligingDevices : String -> AdapterDevice := fun _ =>
  ((), default,
    { newTcp := fun _ => true
      done := fun _ => .ok ()
      bit := fun _ => .ok 0
      word := fun _ => .ok 0 },
    default, default, default, default, default)

def pumpRuntime : Runtime Adapter :=
  (runtime Adapter).run
    [⟨.addAdapter (some (AdapterFactory.createModbus "modbus-a" pumpStation)),
        obligingDevices⟩,
      ⟨.connectAdapter "modbus-a", obligingDevices⟩] Runtime.empty

def startPump : Event Adapter AdapterDevice AdapterStimulus :=
  ⟨.execute "PUMP-1" "start" Double.zero, obligingDevices⟩

theorem commands_actuate_pump :
    acceptedOrders [startPump] pumpRuntime "modbus-a" =
        [.inr (.inr (.inl (ModbusRequest.writeCoil (some 1) 7 true)))] ∧
      exists b said, ((runtime Adapter).run [startPump] pumpRuntime).manager.find?
          "modbus-a" = some b ∧
        Actuates.writes b = [] ++ said ∧
        List.Sublist (acceptedOrders [startPump] pumpRuntime "modbus-a") said ∧
        List.Sublist said (orders [startPump] pumpRuntime "modbus-a") := by
  refine ⟨rfl, (commands_actuate [startPump] pumpRuntime "modbus-a" rfl ?_).1⟩
  intro event hevent
  rw [List.mem_singleton.mp hevent]
  intro hremove
  cases hremove

end Runtime

end Icp
end VirtualFactory
