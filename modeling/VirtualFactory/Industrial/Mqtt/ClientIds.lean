import VirtualFactory.Foundation.Separator
import VirtualFactory.Industrial.Mqtt.Adapter
import VirtualFactory.Industrial.Operations
import Mathlib.Data.Finset.Dedup

/-!
# Client identifiers

A broker knows a client by its identifier, so no two clients of one process may use
the same one.  The adapters of a process claim the key of their client while they are
connected.
-/

namespace VirtualFactory

open Foundation IndustrialAdapter

/-!
# Keys
-/

theorem toList_clientKey (host : String) (port : UInt16) (clientId : String) :
    (clientKey host port clientId).toList =
      (host.toList ++ ':' :: Nat.toDigits 10 port.toNat) ++ '\n' ::
        clientId.toList := by
  simp [clientKey]

/-- The key determines the host, the port and the identifier of a client. -/
theorem clientKey_injective {host host' : String} {port port' : UInt16}
    {clientId clientId' : String} (hhost : '\n' ∉ host.toList)
    (hhost' : '\n' ∉ host'.toList)
    (h : clientKey host port clientId = clientKey host' port' clientId') :
    host = host' ∧ port = port' ∧ clientId = clientId' := by
  have hcolon := not_mem_digits (c := ':') (by decide)
  have hnewline := not_mem_digits (c := '\n') (by decide)
  have hlist := congrArg String.toList h
  rw [toList_clientKey, toList_clientKey] at hlist
  rcases append_cons_inj (by simp [hhost, hnewline]) (by simp [hhost', hnewline])
    hlist with ⟨haddress, hclient⟩
  rcases append_separator_inj (hcolon port.toNat) (hcolon port'.toNat) haddress with
    ⟨hhosts, hdigits⟩
  have hport := congrArg (fun digits => Nat.ofDigitChars 10 digits 0) hdigits
  simp only [Nat.ofDigitChars_ten_toDigits] at hport
  exact ⟨String.toList_inj.mp hhosts,
    UInt16.toNat_inj.mp hport, String.toList_inj.mp hclient⟩

namespace MqttIndustrialAdapter

def claimOf (a : MqttIndustrialAdapter) : Option String :=
  if a.connectionState = .connected then some (a.keyOf a.activeClientId) else none

/-- An adapter has an active client exactly while it is connected. -/
def Settled (a : MqttIndustrialAdapter) : Prop :=
  a.activeClientId ≠ "" <-> a.connectionState = .connected

theorem claimOf_of_not_connected {a : MqttIndustrialAdapter}
    (h : a.connectionState ≠ .connected) : a.claimOf = none :=
  if_neg h

theorem releaseClientId_claimed (a : MqttIndustrialAdapter) (ids : ClientIds)
    (serial : UInt64) :
    (a.releaseClientId { ids with serial := serial }).claimed =
      (a.releaseClientId ids).claimed := by
  by_cases h : a.activeClientId = "" <;> simp [releaseClientId, h]

theorem Stays.claimOf_eq {a b : MqttIndustrialAdapter} (h : Stays a b) :
    b.claimOf = a.claimOf := by
  unfold claimOf keyOf
  rw [h.sameState, h.sameClient, h.sameConfig]

theorem Stays.settled {a b : MqttIndustrialAdapter} (h : Stays a b)
    (ha : a.Settled) : b.Settled := by
  unfold Settled
  rw [h.sameState, h.sameClient]
  exact ha

theorem Faults.claimOf_eq {a b : MqttIndustrialAdapter} (h : Faults a b) :
    b.claimOf = none :=
  claimOf_of_not_connected (by rw [h.faulted]; decide)

theorem Faults.settled {a b : MqttIndustrialAdapter} (h : Faults a b) :
    b.Settled := by
  unfold Settled
  rw [h.faulted, h.noClient]
  simp

/-- What an operation does to the claims: it keeps the claim of its adapter, it gives
it back, or it takes a free one. -/
inductive ClaimStep (a : MqttIndustrialAdapter) (ids : ClientIds)
    (b : MqttIndustrialAdapter) (ids' : ClientIds) : Prop
  | keeps (hclaim : b.claimOf = a.claimOf) (hids : ids'.claimed = ids.claimed)
  | releases (hclaim : b.claimOf = none)
      (hids : ids'.claimed = (a.releaseClientId ids).claimed)
  | takes (key : String) (hold : a.claimOf = none) (hclaim : b.claimOf = some key)
      (hfree : key ∉ ids.claimed) (hids : ids'.claimed = insert key ids.claimed)

/-- What an operation leaves of an adapter. -/
structure Serves (a : MqttIndustrialAdapter) (ids : ClientIds)
    (b : MqttIndustrialAdapter) (ids' : ClientIds) : Prop where
  sameConfig : b.config = a.config
  settled : b.Settled
  claim : ClaimStep a ids b ids'

theorem serves_of_operated {a b : MqttIndustrialAdapter} {ids ids' : ClientIds}
    (ha : a.Settled) (h : Operated a ids b ids') : Serves a ids b ids' := by
  rcases h with ⟨hstays, hids⟩ | ⟨hfaults, hids⟩
  · exact ⟨hstays.sameConfig, hstays.settled ha,
      ClaimStep.keeps hstays.claimOf_eq (by rw [hids])⟩
  · exact ⟨hfaults.sameConfig, hfaults.settled,
      ClaimStep.releases hfaults.claimOf_eq (by rw [hids])⟩

theorem serves_connect (paho : Paho) {a : MqttIndustrialAdapter}
    (ha : a.Settled) (ids : ClientIds) :
    Serves a ids (a.connect paho ids).2.1 (a.connect paho ids).2.2 := by
  by_cases h : a.connectionState = .connected
  · unfold connect
    rw [if_pos h]
    exact ⟨rfl, ha, ClaimStep.keeps rfl rfl⟩
  · have hout := connect_outcome paho h ids
    have hnone := claimOf_of_not_connected h
    generalize a.connect paho ids = r at hout ⊢
    rcases r with ⟨ok, b, ids'⟩
    cases hout with
    | refused serial hfaults =>
        refine ⟨hfaults.sameConfig, hfaults.settled,
          ClaimStep.releases hfaults.claimOf_eq ?_⟩
        exact releaseClientId_claimed a ids serial
    | failed serial hfaults =>
        exact ⟨hfaults.sameConfig, hfaults.settled,
          ClaimStep.keeps (hfaults.claimOf_eq.trans hnone.symm) rfl⟩
    | opened serial _ sameConfig connected _ client _ hfree =>
        have hclient := a.resolveClientId_ne_empty ids
        refine ⟨sameConfig, ?_, ClaimStep.takes _ hnone ?_ hfree rfl⟩
        · unfold Settled
          rw [client, connected]
          simpa using hclient
        · unfold claimOf keyOf
          rw [if_pos connected, client, sameConfig]

theorem serves_operate (event : AdapterEvent MqttLib PahoCallback)
    {a : MqttIndustrialAdapter} (ha : a.Settled) (ids : ClientIds) :
    Serves a ids (operate event (a, ids)).2.1 (operate event (a, ids)).2.2 := by
  have hsame : Serves a ids a ids := ⟨rfl, ha, ClaimStep.keeps rfl rfl⟩
  rcases event with ⟨operation, lib⟩
  cases operation with
  | connect => exact serves_connect lib.paho ha ids
  | disconnect =>
      refine ⟨rfl, ?_, ClaimStep.releases (claimOf_of_not_connected ?_) rfl⟩
      · exact ⟨fun h => absurd rfl h, fun h => ConnectionState.noConfusion h⟩
      · exact fun h => ConnectionState.noConfusion h
  | poll =>
      show Serves a ids (a.poll lib.text lib.paho ids).1 (a.poll lib.text lib.paho ids).2
      by_cases h : a.connectionState = .connected
      · rw [poll_of_connected lib.text lib.paho h]
        exact serves_of_operated ha (pollLoop_operated lib.text lib.paho _ _ a ids)
      · unfold poll
        rw [if_pos h]
        split
        · exact ⟨rfl, ha, ClaimStep.keeps rfl rfl⟩
        · exact hsame
  | execute equipmentId command parameter =>
      cases hr : IndustrialAdapter.execute lib a equipmentId command parameter ids with
      | none =>
          rw [operate_execute_of_none hr]
          exact hsame
      | some r =>
          rw [operate_execute_of_some hr]
          rcases execute_some hr with ⟨b, _, hrun⟩
          have hoperated := (runCommand_operated lib.text lib.paho command parameter
            b.mapping a ids).1
          rw [hrun] at hoperated
          exact serves_of_operated ha hoperated
  | stimulate c =>
      exact serves_of_operated ha (Or.inl ⟨stays_withSession a _, rfl⟩)

theorem claimed_of_connect_failed (paho : Paho) {a : MqttIndustrialAdapter}
    (ha : a.Settled) (ids : ClientIds) (h : (a.connect paho ids).1 = false) :
    (a.connect paho ids).2.2.claimed = ids.claimed := by
  have hstate : a.connectionState ≠ .connected := by
    intro hstate
    unfold connect at h
    rw [if_pos hstate] at h
    cases h
  have hclient : a.activeClientId = "" := by
    by_contra hactive
    exact hstate (ha.mp hactive)
  have hout := connect_outcome paho hstate ids
  generalize a.connect paho ids = r at hout h ⊢
  rcases r with ⟨ok, b, ids'⟩
  cases hout with
  | refused serial =>
      show (a.releaseClientId { ids with serial := serial }).claimed = ids.claimed
      rw [releaseClientId, if_pos hclient]
  | failed serial => rfl
  | opened => cases h

/-!
# The claims of a process
-/

/-- The claimed keys are those of a list, each once. -/
def Holds (ids : ClientIds) (keys : List String) : Prop :=
  keys.Nodup ∧ ids.claimed = keys.toFinset

theorem Holds.perm {ids : ClientIds} {keys keys' : List String} (h : Holds ids keys)
    (hperm : keys.Perm keys') : Holds ids keys' :=
  ⟨hperm.nodup_iff.mp h.1, h.2.trans (List.toFinset_eq_of_perm keys keys' hperm)⟩

theorem holds_releaseClientId {a : MqttIndustrialAdapter} (ha : a.Settled)
    {ids : ClientIds} {others : List String}
    (h : Holds ids (a.claimOf.toList ++ others)) :
    Holds (a.releaseClientId ids) others := by
  unfold releaseClientId
  by_cases hclient : a.activeClientId = ""
  · have hnone := claimOf_of_not_connected (fun hstate => ha.mpr hstate hclient)
    rw [if_pos hclient]
    rw [hnone] at h
    exact h
  · have hsome : a.claimOf = some (a.keyOf a.activeClientId) :=
      if_pos (ha.mp hclient)
    rw [if_neg hclient]
    rw [hsome] at h
    have hnodup := List.nodup_cons.mp h.1
    refine ⟨hnodup.2, ?_⟩
    show ids.claimed.erase _ = _
    rw [h.2]
    show (List.toFinset (_ :: others)).erase _ = _
    rw [List.toFinset_cons, Finset.erase_insert]
    rw [List.mem_toFinset]
    exact hnodup.1

/-- What an operation does to the claims leaves those of the others. -/
theorem ClaimStep.holds {a b : MqttIndustrialAdapter} {ids ids' : ClientIds}
    (h : ClaimStep a ids b ids') (ha : a.Settled) {others : List String}
    (hheld : Holds ids (a.claimOf.toList ++ others)) :
    Holds ids' (b.claimOf.toList ++ others) := by
  cases h with
  | keeps hclaim hids =>
      rw [hclaim]
      exact ⟨hheld.1, hids.trans hheld.2⟩
  | releases hclaim hids =>
      have hreleased := holds_releaseClientId ha hheld
      rw [hclaim]
      exact ⟨hreleased.1, hids.trans hreleased.2⟩
  | takes key hold hclaim hfree hids =>
      rw [hold] at hheld
      rw [hclaim]
      have hothers : ids.claimed = others.toFinset := hheld.2
      rw [hothers, List.mem_toFinset] at hfree
      refine ⟨List.nodup_cons.mpr ⟨hfree, hheld.1⟩, ?_⟩
      rw [hids, hothers]
      exact (List.toFinset_cons (a := key) (l := others)).symm

end MqttIndustrialAdapter

structure MqttProcess where
  clients : List MqttIndustrialAdapter := []
  clientIds : ClientIds := {}

/-- What happens in a process: an adapter is built, runs one of its operations, or is
destroyed. -/
inductive MqttProcessOperation where
  | create (id : String) (config : MqttAdapterConfig)
  | operate (client : Nat) (operation : AdapterOperation PahoCallback)
  | destroy (client : Nat)

structure MqttProcessEvent where
  operation : MqttProcessOperation
  lib : MqttLib

namespace MqttProcess

open MqttIndustrialAdapter

def step (event : MqttProcessEvent) (s : MqttProcess) :
    Option AdapterAnswer × MqttProcess :=
  match event.operation with
  | .create id config =>
      (none, { s with clients := s.clients ++ [MqttIndustrialAdapter.new id config] })
  | .operate client operation =>
      match s.clients[client]? with
      | none => (none, s)
      | some a =>
          let r := operate ⟨operation, event.lib⟩ (a, s.clientIds)
          (some r.1,
            { clients := s.clients.set client r.2.1, clientIds := r.2.2 })
  | .destroy client =>
      match s.clients[client]? with
      | none => (none, s)
      | some a =>
          (none,
            { clients := s.clients.eraseIdx client
              clientIds := (a.disconnect event.lib.paho s.clientIds).2 })

def machine : Machine MqttProcess MqttProcessEvent (Option AdapterAnswer) where
  step := step

def claims (clients : List MqttIndustrialAdapter) : List String :=
  clients.filterMap claimOf

theorem claims_cons (a : MqttIndustrialAdapter) (rest : List MqttIndustrialAdapter) :
    claims (a :: rest) = a.claimOf.toList ++ claims rest := by
  unfold claims
  cases h : a.claimOf <;> simp [h]

theorem claims_set_perm {clients : List MqttIndustrialAdapter} {client : Nat}
    (h : client < clients.length) (b : MqttIndustrialAdapter) :
    (claims (clients.set client b)).Perm
      (b.claimOf.toList ++ claims (clients.eraseIdx client)) := by
  rw [← claims_cons]
  exact (List.set_perm_cons_eraseIdx h b).filterMap claimOf

theorem claims_perm {clients : List MqttIndustrialAdapter} {client : Nat}
    {a : MqttIndustrialAdapter} (h : clients[client]? = some a) :
    (claims clients).Perm (a.claimOf.toList ++ claims (clients.eraseIdx client)) := by
  rcases List.getElem?_eq_some_iff.mp h with ⟨hlength, rfl⟩
  rw [← claims_cons]
  exact (List.getElem_cons_eraseIdx_perm hlength).symm.filterMap claimOf

/-- Every adapter is settled and has a host without a newline, and the claims are those
of the connected adapters. -/
structure Consistent (s : MqttProcess) : Prop where
  settled : forall a : MqttIndustrialAdapter, a ∈ s.clients -> a.Settled
  host : forall a : MqttIndustrialAdapter, a ∈ s.clients -> '\n' ∉ a.config.host.toList
  held : Holds s.clientIds (claims s.clients)

/-- The adapters that are built have hosts without a newline. -/
def NamesHosts (event : MqttProcessEvent) : Prop :=
  forall id config, event.operation = .create id config ->
    '\n' ∉ config.host.toList

theorem consistent_step {event : MqttProcessEvent} (hevent : NamesHosts event)
    {s : MqttProcess} (hs : Consistent s) : Consistent (step event s).2 := by
  rcases event with ⟨operation, lib⟩
  cases operation with
  | create id config =>
      have hnew : forall a, a ∈ s.clients ++ [MqttIndustrialAdapter.new id config] ->
          a ∈ s.clients ∨ a = MqttIndustrialAdapter.new id config := by
        intro a ha
        rcases List.mem_append.mp ha with hold | hlast
        · exact Or.inl hold
        · exact Or.inr (List.mem_singleton.mp hlast)
      refine ⟨fun a ha => ?_, fun a ha => ?_, ?_⟩
      · rcases hnew a ha with hold | rfl
        · exact hs.settled a hold
        · exact ⟨fun h => absurd rfl h, fun h => ConnectionState.noConfusion h⟩
      · rcases hnew a ha with hold | rfl
        · exact hs.host a hold
        · exact hevent id config rfl
      · show Holds s.clientIds (List.filterMap claimOf (s.clients ++ [_]))
        rw [List.filterMap_append]
        show Holds s.clientIds (claims s.clients ++ [])
        rw [List.append_nil]
        exact hs.held
  | operate client operation =>
      unfold step
      dsimp only
      split
      · exact hs
      · rename_i a ha
        have hmem := List.mem_of_getElem? ha
        have hlength := (List.getElem?_eq_some_iff.mp ha).1
        have hserves := serves_operate ⟨operation, lib⟩ (hs.settled a hmem) s.clientIds
        have hchanged : forall b, b ∈ s.clients.set client
            (operate ⟨operation, lib⟩ (a, s.clientIds)).2.1 ->
              b ∈ s.clients ∨ b = (operate ⟨operation, lib⟩ (a, s.clientIds)).2.1 :=
          fun b hb => List.mem_or_eq_of_mem_set hb
        refine ⟨fun b hb => ?_, fun b hb => ?_, ?_⟩
        · rcases hchanged b hb with hold | rfl
          · exact hs.settled b hold
          · exact hserves.settled
        · rcases hchanged b hb with hold | rfl
          · exact hs.host b hold
          · rw [hserves.sameConfig]
            exact hs.host a hmem
        · exact (hserves.claim.holds (hs.settled a hmem)
            (hs.held.perm (claims_perm ha))).perm (claims_set_perm hlength _).symm
  | destroy client =>
      unfold step
      dsimp only
      split
      · exact hs
      · rename_i a ha
        have hmem := List.mem_of_getElem? ha
        exact
          { settled := fun b hb => hs.settled b (List.mem_of_mem_eraseIdx hb)
            host := fun b hb => hs.host b (List.mem_of_mem_eraseIdx hb)
            held := holds_releaseClientId (hs.settled a hmem)
              (hs.held.perm (claims_perm ha)) }

theorem consistent_start : Consistent {} where
  settled a ha := by cases ha
  host a ha := by cases ha
  held := ⟨List.nodup_nil, rfl⟩

/-- What a process promises about the identifiers of its clients. -/
structure Exclusive (s : MqttProcess) : Prop where
  claimed : s.clientIds.claimed = (claims s.clients).toFinset
  distinct : forall (i j : Nat) (a b : MqttIndustrialAdapter), s.clients[i]? = some a -> s.clients[j]? = some b ->
    a.connectionState = .connected -> b.connectionState = .connected ->
      a.config.host = b.config.host -> a.config.port = b.config.port ->
        a.activeClientId = b.activeClientId -> i = j
  inUse : forall (host : String) (port : UInt16) (clientId : String), '\n' ∉ host.toList ->
    (clientKey host port clientId ∈ s.clientIds.claimed <->
      exists a : MqttIndustrialAdapter,
        a ∈ s.clients ∧ a.connectionState = .connected ∧ a.config.host = host ∧
          a.config.port = port ∧ a.activeClientId = clientId)
  refused : forall client lib,
    (step ⟨.operate client .connect, lib⟩ s).1 = some (.connected false) ->
      (step ⟨.operate client .connect, lib⟩ s).2.clientIds.claimed =
        s.clientIds.claimed
  idle : forall a : MqttIndustrialAdapter, a ∈ s.clients -> a.connectionState ≠ .connected ->
    a.activeClientId = ""

theorem mem_claims_iff (clients : List MqttIndustrialAdapter) (key : String) :
    key ∈ claims clients <->
      exists a : MqttIndustrialAdapter,
        a ∈ clients ∧ a.connectionState = .connected ∧
          a.keyOf a.activeClientId = key := by
  unfold claims
  rw [List.mem_filterMap]
  constructor
  · rintro ⟨a, ha, hclaim⟩
    unfold claimOf at hclaim
    split at hclaim
    · rename_i hstate
      exact ⟨a, ha, hstate, Option.some.inj hclaim⟩
    · cases hclaim
  · rintro ⟨a, ha, hstate, hkey⟩
    exact ⟨a, ha, by rw [claimOf, if_pos hstate, hkey]⟩

theorem Consistent.exclusive {s : MqttProcess} (hs : Consistent s) : Exclusive s where
  claimed := hs.held.2
  distinct i j a b ha hb hastate hbstate hhost hport hclient := by
    by_contra hij
    have hnodup := (hs.held.perm (claims_perm ha)).1
    have hclaim : a.claimOf = some (a.keyOf a.activeClientId) := if_pos hastate
    rw [hclaim] at hnodup
    apply (List.nodup_cons.mp hnodup).1
    refine (mem_claims_iff _ _).mpr
      ⟨b, List.mem_eraseIdx_iff_getElem?.mpr ⟨j, Ne.symm hij, hb⟩, hbstate, ?_⟩
    unfold keyOf
    rw [hhost, hport, hclient]
  inUse host port clientId hnewline := by
    rw [hs.held.2, List.mem_toFinset, mem_claims_iff]
    constructor
    · rintro ⟨a, ha, hstate, hkey⟩
      exact ⟨a, ha, hstate, clientKey_injective (hs.host a ha) hnewline hkey⟩
    · rintro ⟨a, ha, hstate, rfl, rfl, rfl⟩
      exact ⟨a, ha, hstate, rfl⟩
  refused client lib h := by
    unfold step at h ⊢
    dsimp only at h ⊢
    split at h
    · cases h
    · rename_i a ha
      have hmem := List.mem_of_getElem? ha
      have hfailed : (a.connect lib.paho s.clientIds).1 = false :=
        AdapterAnswer.connected.inj (Option.some.inj h)
      exact claimed_of_connect_failed lib.paho (hs.settled a hmem) s.clientIds hfailed
  idle a ha hstate := by
    by_contra hactive
    exact hstate ((hs.settled a ha).mp hactive)

/-- After every operation of any clients, the claims are those of the connected ones
and no two of them share an identifier. -/
theorem clients_exclusive {es : List MqttProcessEvent}
    (hes : forall event, event ∈ es -> NamesHosts event) :
    Exclusive (machine.run es {}) := by
  have hstep : forall (event : MqttProcessEvent) (s : MqttProcess),
      NamesHosts event -> Consistent s -> Consistent (machine.step event s).2 :=
    fun _ _ hevent hs => consistent_step hevent hs
  exact (Machine.run_invariant hstep consistent_start
    (Machine.admissible_of_forall _ hes)).exclusive

def rivalClients : List MqttProcessEvent :=
  let config : MqttAdapterConfig := { host := "broker", clientId := "line-1" }
  let lib : MqttLib := { text := default, paho := Paho.obliging }
  [⟨.create "mqtt-a" config, lib⟩, ⟨.create "mqtt-b" config, lib⟩,
    ⟨.operate 0 .connect, lib⟩, ⟨.operate 1 .connect, lib⟩]

theorem clients_exclusive_rivalClients : Exclusive (machine.run rivalClients {}) := by
  apply clients_exclusive
  intro event hevent id config hcreate
  simp only [rivalClients, List.mem_cons, List.not_mem_nil, or_false] at hevent
  rcases hevent with rfl | rfl | rfl | rfl
  · cases hcreate
    decide
  · cases hcreate
    decide
  · cases hcreate
  · cases hcreate

end MqttProcess

end VirtualFactory
