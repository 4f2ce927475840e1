import VirtualFactory.Industrial.Actuation
import VirtualFactory.Industrial.Footprint
import VirtualFactory.Industrial.Requests.EtherNetIp
import VirtualFactory.Industrial.Requests.Modbus
import VirtualFactory.Industrial.Requests.OpcUa
import VirtualFactory.Industrial.Requests.Rest

/-!
# The traffic of an adapter

Over a whole run an adapter sends what its operations are there to send, in their order:
nothing is asked for twice, nothing is left out by an operation that completes, and
nothing else is sent.
-/

namespace VirtualFactory

open Foundation
open IndustrialAdapter (operate operations operate_execute_of_none operate_execute_of_some)

namespace ProtocolAdapter

open ProtocolDriver ProtocolWire

section

variable {config mapping session library request context : Type}
  [EquipmentMapping mapping] [ProtocolDriver config mapping session library]
  [ProtocolWire config mapping session library request context]

/-- What an operation asks its source for: a connect for the greeting, a poll for the
points of every configured machine, and a command for its write. -/
def script (event : AdapterEvent library Empty)
    (a : ProtocolAdapter config mapping session) : List request :=
  match event.operation with
  | .connect =>
      if a.link.connectionState = .connected then []
      else ProtocolWire.greeting mapping session a.config
  | .disconnect => []
  | .poll =>
      if a.link.connectionState = .connected then
        (ProtocolDriver.equipment session a.config : List mapping).flatMap
          (ProtocolWire.scan config session (contextOf config mapping a.link.session))
      else []
  | .execute equipmentId command parameter =>
      a.commanded event.device equipmentId command parameter
  | .stimulate s => s.elim

/-- An operation has done what it is there for. -/
def completes (event : AdapterEvent library Empty)
    (s : ProtocolAdapter config mapping session × ClientIds) : Bool :=
  match (operate event s).1 with
  | .connected ok => ok
  | .executed result => result.elim false CommandResult.accepted
  | .polled => decide ((operate event s).2.1.link.connectionState = .connected)
  | .disconnected => true
  | .stimulated => true

theorem scan_of_lived {a : ProtocolAdapter config mapping session} (h : a.Lived)
    (hstate : a.link.connectionState = .connected) :
    a.scan = (ProtocolDriver.equipment session a.config : List mapping).flatMap
      (ProtocolWire.scan config session (contextOf config mapping a.link.session)) := by
  rcases h with ⟨l, hl⟩
  have hopened := hl.coherent.connected (hl.sameState.symm.trans hstate)
  have hbound := hl.bound
  rw [if_pos hopened] at hbound
  unfold scan
  rw [← hbound, List.flatMap_map]

theorem up_of_lived {a : ProtocolAdapter config mapping session} (h : a.Lived)
    (hstate : a.link.connectionState = .connected) :
    a.link.Up (isOpen config mapping) := by
  rcases h with ⟨l, hl⟩
  exact hl.connected (hl.sameState.symm.trans hstate)

theorem requests_poll_idle (lib : library) {a : ProtocolAdapter config mapping session}
    (h : a.link.connectionState ≠ .connected) :
    requests (poll lib a) = requests a := by
  have hsession : (poll lib a).link.session = a.link.session := by
    rw [poll_eq]
    unfold pollWith
    rw [if_pos h]
    split <;> rfl
  unfold requests
  rw [hsession]

theorem operate_follows (event : AdapterEvent library Empty)
    {a : ProtocolAdapter config mapping session} (ids : ClientIds) (h : a.Lived) :
    Follows requests (script event a) (completes event (a, ids)) a
      (operate event (a, ids)).2.1 := by
  rcases event with ⟨operation, lib⟩
  cases operation with
  | connect =>
      by_cases hstate : a.link.connectionState = .connected
      · have hscript : script ⟨.connect, lib⟩ a = [] := if_pos hstate
        rw [hscript]
        refine follows_nil ?_ _
        show requests (connect lib a).2 = requests a
        rw [connect_of_connected lib a hstate]
      · have hscript : script ⟨.connect, lib⟩ a = greeting mapping session a.config :=
          if_neg hstate
        rw [hscript]
        exact connect_follows lib a hstate
  | disconnect =>
      refine follows_nil ?_ _
      show requests (disconnect a) = requests a
      rw [disconnect_eq]
      exact close_requests a.link.session
  | poll =>
      by_cases hstate : a.link.connectionState = .connected
      · have hscript : script ⟨.poll, lib⟩ a =
            (ProtocolDriver.equipment session a.config : List mapping).flatMap
              (ProtocolWire.scan config session
                (contextOf config mapping a.link.session)) := if_pos hstate
        rw [hscript, ← scan_of_lived h hstate]
        exact poll_follows lib (up_of_lived h hstate)
      · have hscript : script ⟨.poll, lib⟩ a = [] := if_neg hstate
        rw [hscript]
        exact follows_nil (requests_poll_idle lib hstate) _
  | execute equipmentId command parameter =>
      rcases execute_cases lib a equipmentId command parameter with
        ⟨hnone, hresult⟩ | ⟨b, hb, hresult⟩
      · have hoperate := operate_execute_of_none
          (show IndustrialAdapter.execute lib a equipmentId command parameter ids = none by
            show (execute lib a equipmentId command parameter).map _ = none
            rw [hresult, Option.map_none])
        unfold completes
        rw [hoperate]
        exact follows_failed rfl _
      · have hoperate := operate_execute_of_some
          (show IndustrialAdapter.execute lib a equipmentId command parameter ids = some _ by
            show (execute lib a equipmentId command parameter).map _ = some _
            rw [hresult, Option.map_some])
        have hscript : script ⟨.execute equipmentId command parameter, lib⟩ a =
            ProtocolWire.commanded config session lib
              (contextOf config mapping a.link.session) command parameter b.mapping := by
          show a.commanded lib equipmentId command parameter = _
          unfold commanded
          rw [hb]
          rfl
        unfold completes
        rw [hoperate, hscript]
        exact run_follows lib a.config command parameter b.mapping a.link
  | stimulate s => exact s.elim

/-- Whatever operations run, the requests of an adapter are those of their scripts. -/
def KeepsToScript (a : ProtocolAdapter config mapping session) : Prop :=
  forall (es : List (AdapterEvent library Empty)) (ids : ClientIds),
    exists said,
      requests ((operations (ProtocolAdapter config mapping session)).run es
          (a, ids)).1 = requests a ++ said ∧
        Scripted ((operations (ProtocolAdapter config mapping session)).along
          (fun e s => (script e s.1, completes e s)) es (a, ids)) said

theorem Lived.keepsToScript {a : ProtocolAdapter config mapping session} (h : a.Lived) :
    KeepsToScript a := by
  intro es ids
  have hstep : forall (e : AdapterEvent library Empty)
      (s : ProtocolAdapter config mapping session × ClientIds), s.1.Lived ->
        ((operations (ProtocolAdapter config mapping session)).step e s).2.1.Lived ∧
          Follows (fun s => requests s.1) (script e s.1) (completes e s) s
            ((operations (ProtocolAdapter config mapping session)).step e s).2 :=
    fun e s hs => ⟨(lived_operate e s.2 hs).1, operate_follows e s.2 hs⟩
  exact Machine.run_scripted hstep es h

end

/-- The adapters of the polled protocols send what their operations are there to send:
connecting sends the greeting, polling reads every mapped point once in the order of the
configuration, a command writes its target. -/
theorem adapters_keep_to_script :
    (forall id cfg, KeepsToScript (ModbusIndustrialAdapter.new id cfg)) ∧
      (forall id cfg, KeepsToScript (OpcUaIndustrialAdapter.new id cfg)) ∧
      (forall id cfg, KeepsToScript (RestIndustrialAdapter.new id cfg)) ∧
      (forall id cfg, KeepsToScript (EtherNetIpIndustrialAdapter.new id cfg)) :=
  ⟨fun id cfg => (lived_create id cfg _).keepsToScript,
    fun id cfg => (lived_create id cfg _).keepsToScript,
    fun id cfg => (lived_create id cfg _).keepsToScript,
    fun id cfg => (lived_create id cfg _).keepsToScript⟩

end ProtocolAdapter

end VirtualFactory
