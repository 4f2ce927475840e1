import VirtualFactory.Industrial.Footprint
import VirtualFactory.Industrial.Mqtt.Bindings

/-!
# The footprint of an MQTT adapter

An adapter with a configured client identifier reads and writes the claim of that
identifier and no other.
-/

namespace VirtualFactory

open Foundation IndustrialAdapter ClientIds

namespace MqttIndustrialAdapter

def configuredIds (a : MqttIndustrialAdapter) : List String :=
  a.config.equipment.map MqttEquipmentMapping.id

def clientKeys (a : MqttIndustrialAdapter) : Set String :=
  {a.keyOf a.config.clientId}

/-- An adapter that uses a configured client identifier. -/
structure Named (a : MqttIndustrialAdapter) : Prop where
  binds : Binds a.config a
  named : a.config.clientId ≠ ""

theorem named_operate (event : AdapterEvent MqttLib PahoCallback)
    {a : MqttIndustrialAdapter} (ids : ClientIds) (h : a.Named) :
    Named (operate event (a, ids)).2.1 ∧
      (operate event (a, ids)).2.1.config = a.config := by
  have hbinds := stable_binds a.config event a ids h.binds
  have hconfig := hbinds.sameConfig
  refine ⟨⟨?_, ?_⟩, hconfig⟩
  · rw [hconfig]
    exact hbinds
  · rw [hconfig]
    exact h.named

theorem Named.activeClientId {a : MqttIndustrialAdapter} (h : a.Named)
    (hactive : a.activeClientId ≠ "") : a.activeClientId = a.config.clientId :=
  h.binds.client h.named (h.binds.settled.mp hactive)

/-!
# Operations that take no claim
-/

/-- What does not depend on the claims, and at most gives some back. -/
def Releases {answer : Type}
    (f : ClientIds -> answer × MqttIndustrialAdapter × ClientIds) : Prop :=
  exists (r : answer) (b : MqttIndustrialAdapter) (dropped : Finset String),
    forall ids, f ids = (r, b, { ids with claimed := ids.claimed \ dropped })

theorem Releases.agreeing {answer : Type}
    {f : ClientIds -> answer × MqttIndustrialAdapter × ClientIds} (h : Releases f)
    {keys : Set String} {ids ids' : ClientIds} (hids : AgreeOn keys ids ids') :
    Agreeing keys (f ids) (f ids') := by
  rcases h with ⟨r, b, dropped, hf⟩
  rw [hf, hf]
  exact ⟨rfl, rfl, hids.sdiff dropped⟩

theorem releases_stays {answer : Type} (r : answer) (b : MqttIndustrialAdapter) :
    Releases (fun ids => (r, b, ids)) :=
  ⟨r, b, ∅, fun ids => by rw [Finset.sdiff_empty]⟩

theorem releases_enterFault {answer : Type} (r : answer) (paho : Paho)
    (reason : String) (b : MqttIndustrialAdapter) :
    Releases (fun ids => (r, b.enterFault paho reason ids)) := by
  rcases b.releaseClientId_local with ⟨dropped, hdropped⟩
  refine ⟨r, (b.enterFault paho reason {}).1, dropped, fun ids => ?_⟩
  show (r, (b.enterFault paho reason {}).1, b.releaseClientId ids) = _
  rw [hdropped]

theorem releases_disconnect {answer : Type} (r : answer) (paho : Paho)
    (b : MqttIndustrialAdapter) :
    Releases (fun ids => (r, b.disconnect paho ids)) := by
  rcases b.releaseClientId_local with ⟨dropped, hdropped⟩
  refine ⟨r, (b.disconnect paho {}).1, dropped, fun ids => ?_⟩
  show (r, (b.disconnect paho {}).1, b.releaseClientId ids) = _
  rw [hdropped]

theorem releases_poll (text : TextLib) (paho : Paho) (a : MqttIndustrialAdapter) :
    Releases (fun ids => (AdapterAnswer.polled, a.poll text paho ids)) := by
  by_cases hstate : a.connectionState = .connected
  · rcases pollLoop_local text paho kMaxMessagesPerPoll (pollTimeout a.config) a with
      ⟨b, dropped, hloop⟩
    refine ⟨.polled, b, dropped, fun ids => ?_⟩
    dsimp only
    rw [poll_of_connected text paho hstate, hloop]
  · unfold poll
    simp only [ne_eq, hstate, not_false_eq_true, if_true]
    split
    · exact releases_stays _ _
    · exact releases_stays _ _

theorem releases_runCommand (text : TextLib) (paho : Paho) (command : String)
    (parameter : Double) (m : MqttEquipmentMapping) (a : MqttIndustrialAdapter) :
    Releases (runCommand text paho command parameter m a) := by
  unfold runCommand runMapped
  cases a.connectionState with
  | disconnected => exact releases_stays _ a
  | faulted => exact releases_stays _ a
  | connected =>
      cases m.commands.find? (fun entry => entry.command = command) with
      | none => exact releases_stays _ a
      | some mapped =>
          dsimp only
          split
          · exact releases_stays _ a
          · unfold publishCommand
            dsimp only
            rcases a.session.publish paho _ _ _ _ with ⟨ok, s⟩
            cases ok with
            | false => exact releases_enterFault _ paho _ _
            | true => exact releases_stays _ _

theorem releases_subscribeMappedTopics (paho : Paho) (a : MqttIndustrialAdapter) :
    Releases (a.subscribeMappedTopics paho) := by
  unfold subscribeMappedTopics
  cases collectSubs (a.config.equipment.flatMap subscribedTopics) [] with
  | error what => exact releases_enterFault _ paho _ a
  | ok subs =>
      dsimp only
      rcases untilFailure (subscribeSub paho) subs a.session with ⟨ok, s⟩
      cases ok with
      | false => exact releases_enterFault _ paho _ _
      | true => exact releases_stays _ _

theorem releases_openSession (paho : Paho) (clientId : String)
    (a : MqttIndustrialAdapter) : Releases (a.openSession paho clientId) := by
  unfold openSession
  rcases (a.session.close paho).connect paho (sessionConfig a.config clientId) with
    ⟨ok, s⟩
  cases ok with
  | false => exact releases_enterFault _ paho _ _
  | true =>
      rcases releases_subscribeMappedTopics paho (a.withSession s).bindOrReuse with
        ⟨r, b, dropped, hsubscribe⟩
      simp only [hsubscribe]
      cases r with
      | false => exact ⟨_, _, dropped, fun _ => rfl⟩
      | true => exact ⟨_, _, dropped, fun _ => rfl⟩

/-!
# Reads and writes
-/

theorem agreeing_connect (paho : Paho) {a : MqttIndustrialAdapter} (h : a.Named)
    {ids ids' : ClientIds} (hids : AgreeOn a.clientKeys ids ids') :
    Agreeing a.clientKeys (a.connect paho ids) (a.connect paho ids') := by
  have hkey := hids (a.keyOf a.config.clientId) rfl
  have hresolve : forall ids, a.resolveClientId ids = (a.config.clientId, ids) :=
    fun _ => if_pos h.named
  unfold connect
  by_cases hstate : a.connectionState = .connected
  · rw [if_pos hstate, if_pos hstate]
    exact ⟨rfl, rfl, hids⟩
  · rw [if_neg hstate, if_neg hstate]
    split
    · exact (releases_enterFault false paho _ a).agreeing hids
    · split
      · exact (releases_enterFault false paho _ a).agreeing hids
      · simp only [hresolve]
        unfold claimClientId
        by_cases hclaimed : a.keyOf a.config.clientId ∈ ids.claimed
        · rw [if_pos hclaimed, if_pos (hkey.mp hclaimed)]
          exact (releases_enterFault false paho _ a).agreeing hids
        · rw [if_neg hclaimed, if_neg (fun hother => hclaimed (hkey.mpr hother))]
          exact (releases_openSession paho _ _).agreeing (hids.insert _)

theorem agreeing_operate (event : AdapterEvent MqttLib PahoCallback)
    {a : MqttIndustrialAdapter} (h : a.Named) {ids ids' : ClientIds}
    (hids : AgreeOn a.clientKeys ids ids') :
    Agreeing a.clientKeys (operate event (a, ids)) (operate event (a, ids')) := by
  rcases event with ⟨operation, lib⟩
  cases operation with
  | connect =>
      rcases agreeing_connect lib.paho h hids with ⟨hok, hadapter, hagree⟩
      exact ⟨congrArg AdapterAnswer.connected hok, hadapter, hagree⟩
  | disconnect =>
      exact (releases_disconnect AdapterAnswer.disconnected lib.paho a).agreeing hids
  | poll => exact (releases_poll lib.text lib.paho a).agreeing hids
  | execute equipmentId command parameter =>
      cases hb : a.core.boundById equipmentId with
      | none =>
          have hnone : forall ids, IndustrialAdapter.execute lib a equipmentId command
              parameter ids = none := by
            intro ids
            show Option.map _ (a.core.boundById equipmentId) = none
            rw [hb, Option.map_none]
          rw [operate_execute_of_none (hnone ids), operate_execute_of_none (hnone ids')]
          exact ⟨rfl, rfl, hids⟩
      | some b =>
          have hsome : forall ids, IndustrialAdapter.execute lib a equipmentId command
              parameter ids =
                some (runCommand lib.text lib.paho command parameter b.mapping a
                  ids) := by
            intro ids
            show Option.map _ (a.core.boundById equipmentId) = _
            rw [hb, Option.map_some]
          rw [operate_execute_of_some (hsome ids), operate_execute_of_some (hsome ids')]
          rcases (releases_runCommand lib.text lib.paho command parameter b.mapping
            a).agreeing hids with ⟨hresult, hadapter, hagree⟩
          exact ⟨by rw [hresult], hadapter, hagree⟩
  | stimulate c => exact ⟨rfl, rfl, hids⟩

theorem agreeOn_releaseClientId {a : MqttIndustrialAdapter} (h : a.Named)
    (ids : ClientIds) : AgreeOn a.clientKeysᶜ (a.releaseClientId ids) ids := by
  unfold releaseClientId
  by_cases hactive : a.activeClientId = ""
  · rw [if_pos hactive]
    exact agreeOn_refl _ ids
  · rw [if_neg hactive, h.activeClientId hactive]
    intro key hkey
    have hne : key ≠ a.keyOf a.config.clientId := hkey
    simp [hne]

theorem agreeOn_operate (event : AdapterEvent MqttLib PahoCallback)
    {a : MqttIndustrialAdapter} (h : a.Named) (ids : ClientIds) :
    AgreeOn a.clientKeysᶜ (operate event (a, ids)).2.2 ids := by
  have hserves := serves_operate event h.binds.settled ids
  have hnamed := named_operate event ids h
  cases hserves.claim with
  | keeps _ hids =>
      intro key _
      rw [hids]
  | releases _ hids =>
      intro key hkey
      rw [hids]
      exact agreeOn_releaseClientId h ids key hkey
  | takes key _ hclaim _ hids =>
      have hactive : key = a.keyOf a.config.clientId := by
        unfold claimOf at hclaim
        split at hclaim
        · rename_i hstate
          rw [← Option.some.inj hclaim, hnamed.1.activeClientId
            (hnamed.1.binds.settled.mpr hstate), hnamed.2]
          unfold keyOf
          rw [hnamed.2]
        · cases hclaim
      intro other hother
      have hne : other ≠ key := by
        rw [hactive]
        exact hother
      rw [hids, Finset.mem_insert]
      simp [hne]

theorem footprint :
    Footprint Named MqttIndustrialAdapter.configuredIds clientKeys where
  stable event a ids h := (named_operate event ids h).1
  sameIds event a ids h := by
    unfold configuredIds
    rw [(named_operate event ids h).2]
  sameKeys event a ids h := by
    unfold clientKeys keyOf
    rw [(named_operate event ids h).2]
  exposes a h := h.binds.exposedIds_subset
  lookup a id _ := (find?_exposed_of_map (a := a) rfl id).symm
  reads event a ids ids' h hids := agreeing_operate event h hids
  writes event a ids h := agreeOn_operate event h ids

end MqttIndustrialAdapter

end VirtualFactory
