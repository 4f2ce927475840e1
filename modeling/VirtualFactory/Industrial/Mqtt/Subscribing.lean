import VirtualFactory.Industrial.Mqtt.Bindings

/-!
# Connects that fail behind the open

A connect binds the machines between the open of the session and the subscriptions.
A refused subscription faults the adapter with its machines bound.
-/

namespace VirtualFactory

open Foundation IndustrialAdapter

namespace MqttIndustrialAdapter

/-!
# Subscriptions
-/

def subscriptions (config : MqttAdapterConfig) : List Sub :=
  match collectSubs (config.equipment.flatMap subscribedTopics) [] with
  | .ok subs => subs
  | .error _ => []

theorem collectSubs_ok {topics : List MappedTopic}
    (h : forall t, t ∈ topics -> (t.topic != "" && topicHasWildcard t.topic) = false)
    (subs : List Sub) : exists collected, collectSubs topics subs = .ok collected := by
  induction topics generalizing subs with
  | nil => exact ⟨subs, rfl⟩
  | cons t rest ih =>
      have hrest := ih (fun t ht => h t (List.mem_cons_of_mem _ ht))
      have ht := h t List.mem_cons_self
      unfold collectSubs
      by_cases hempty : t.topic = ""
      · rw [if_pos hempty]
        exact hrest subs
      · have hplain : topicHasWildcard t.topic = false := by simpa [hempty] using ht
        rw [if_neg hempty, if_neg (by simp [hplain])]
        cases raiseQos t.topic t.qos subs with
        | some raised => exact hrest raised
        | none => exact hrest _

theorem collectSubs_of_valid {config : MqttAdapterConfig}
    (h : invalidTopic config = none) :
    collectSubs (config.equipment.flatMap subscribedTopics) [] =
      .ok (subscriptions config) := by
  have hplain : forall t, t ∈ config.equipment.flatMap subscribedTopics ->
      (t.topic != "" && topicHasWildcard t.topic) = false := by
    intro t ht
    rcases List.mem_flatMap.mp ht with ⟨m, hm, hmem⟩
    have hvalidated : t ∈ config.equipment.flatMap validatedTopics :=
      List.mem_flatMap.mpr ⟨m, hm, List.mem_append_left _ hmem⟩
    exact Bool.eq_false_iff.mpr (List.find?_eq_none.mp h t hvalidated)
  rcases collectSubs_ok hplain [] with ⟨subs, hsubs⟩
  unfold subscriptions
  rw [hsubs]

theorem subscribeMappedTopics_of_valid (paho : Paho) {a : MqttIndustrialAdapter}
    (h : invalidTopic a.config = none) (ids : ClientIds) :
    a.subscribeMappedTopics paho ids =
      match untilFailure (subscribeSub paho) (subscriptions a.config) a.session with
      | (false, s) =>
          (false,
            (a.withSession s).enterFault paho
              ("MQTT subscribe failed: " ++ s.lastError) ids)
      | (true, s) => (true, a.withSession s, ids) := by
  have hvalid := collectSubs_of_valid h
  unfold subscribeMappedTopics
  cases hsubs : collectSubs (a.config.equipment.flatMap subscribedTopics) [] with
  | error what =>
      rw [hsubs] at hvalid
      cases hvalid
  | ok subs =>
      rw [hsubs] at hvalid
      cases hvalid
      rfl

/-!
# Refused subscriptions
-/

/-- The session that a connect opens, with the answer of the broker. -/
def opening (paho : Paho) (a : MqttIndustrialAdapter) (ids : ClientIds) :
    Bool × MqttSession :=
  (a.session.close paho).connect paho
    (sessionConfig a.config (a.resolveClientId ids).1)

/-- The configuration passes all checks and the broker accepts the client, but it
refuses one of the subscriptions. -/
structure SubscribeFails (paho : Paho) (a : MqttIndustrialAdapter) (ids : ClientIds) :
    Prop where
  address : ¬ (a.config.host = "" ∨ a.config.port = 0)
  valid : invalidTopic a.config = none
  free : a.keyOf (a.resolveClientId ids).1 ∉ ids.claimed
  opens : (a.opening paho ids).1 = true
  refuses : (untilFailure (subscribeSub paho) (subscriptions a.config)
    (a.opening paho ids).2).1 = false

theorem SubscribeFails.equipment_ne_nil {paho : Paho} {a : MqttIndustrialAdapter}
    {ids : ClientIds} (h : SubscribeFails paho a ids) : a.config.equipment ≠ [] := by
  intro hnone
  have hsubs : subscriptions a.config = [] := by
    unfold subscriptions
    rw [hnone]
    rfl
  have hrefuses := h.refuses
  rw [hsubs] at hrefuses
  cases hrefuses

/-- An adapter that is faulted with some machines bound. -/
structure FaultedWith (mappings : List MqttEquipmentMapping)
    (a : MqttIndustrialAdapter) : Prop where
  faulted : a.connectionState = .faulted
  bound : a.core.bound.map BoundEquipment.mapping = mappings

theorem faultedWith_enterFault (paho : Paho) (reason : String)
    (a : MqttIndustrialAdapter) (ids : ClientIds) :
    FaultedWith (a.core.bound.map BoundEquipment.mapping)
      (a.enterFault paho reason ids).1 :=
  ⟨rfl, rfl⟩

theorem openSession_of_refused {paho : Paho} {a : MqttIndustrialAdapter}
    {clientId : String} {s : MqttSession}
    (h : (a.session.close paho).connect paho (sessionConfig a.config clientId) =
      (false, s)) (ids : ClientIds) :
    a.openSession paho clientId ids =
      (false,
        (a.withSession s).enterFault paho
          ("MQTT broker connect failed: " ++ s.lastError) ids) := by
  unfold openSession
  rw [h]

/-- The machines are bound before the topics are subscribed. -/
theorem openSession_of_accepted {paho : Paho} {a : MqttIndustrialAdapter}
    (hstate : a.connectionState = .disconnected) (hvalid : invalidTopic a.config = none)
    {clientId : String} {s : MqttSession}
    (h : (a.session.close paho).connect paho (sessionConfig a.config clientId) =
      (true, s)) (ids : ClientIds) :
    (a.openSession paho clientId ids).1 =
        (untilFailure (subscribeSub paho) (subscriptions a.config) s).1 ∧
      ((a.openSession paho clientId ids).1 = false ->
        FaultedWith a.config.equipment (a.openSession paho clientId ids).2.1) := by
  have hbind : (a.withSession s).bindOrReuse =
      { a.withSession s with
        core := (a.withSession s).core.bindEquipment a.config.equipment } := by
    unfold bindOrReuse
    rw [if_neg]
    · rfl
    · rintro ⟨_, hfaulted⟩
      cases hstate.symm.trans hfaulted
  have hsubscribe := subscribeMappedTopics_of_valid paho
    (a := (a.withSession s).bindOrReuse) (by rw [hbind]; exact hvalid) ids
  have hsession : (a.withSession s).bindOrReuse.session = s := by rw [hbind]; rfl
  have hconfig : (a.withSession s).bindOrReuse.config = a.config := by rw [hbind]; rfl
  rw [hsession, hconfig] at hsubscribe
  unfold openSession
  rw [h]
  dsimp only
  rw [hsubscribe]
  rcases untilFailure (subscribeSub paho) (subscriptions a.config) s with ⟨ok, t⟩
  cases ok with
  | true => exact ⟨rfl, fun hfalse => by cases hfalse⟩
  | false =>
      refine ⟨rfl, fun _ => ?_⟩
      have hmappings := map_mapping_bind a.config.equipment
      rw [hbind]
      exact ⟨rfl, hmappings⟩

/-!
# Failed connects
-/

/-- The adapter once it has claimed its identifier. -/
def claiming (a : MqttIndustrialAdapter) (ids : ClientIds) : MqttIndustrialAdapter :=
  { a with activeClientId := (a.resolveClientId ids).1 }

theorem connect_of_free (paho : Paho) {a : MqttIndustrialAdapter}
    (hstate : ¬ a.connectionState = .connected)
    (haddress : ¬ (a.config.host = "" ∨ a.config.port = 0))
    (hvalid : invalidTopic a.config = none) {ids : ClientIds}
    (hfree : a.keyOf (a.resolveClientId ids).1 ∉ ids.claimed) :
    exists ids', a.connect paho ids =
      (a.claiming ids).openSession paho (a.resolveClientId ids).1 ids' := by
  rcases a.resolveClientId_snd ids with ⟨serial, hserial⟩
  unfold connect claimClientId
  rw [if_neg hstate, if_neg haddress, hvalid]
  dsimp only
  rw [hserial, if_neg hfree]
  exact ⟨_, rfl⟩

theorem connect_of_disconnected (paho : Paho) {a : MqttIndustrialAdapter}
    (h : Binds a.config a) (hstate : a.connectionState = .disconnected)
    (ids : ClientIds) :
    (SubscribeFails paho a ids ∧ (a.connect paho ids).1 = false ∧
        FaultedWith a.config.equipment (a.connect paho ids).2.1) ∨
      (¬ SubscribeFails paho a ids ∧ ((a.connect paho ids).1 = false ->
        FaultedWith [] (a.connect paho ids).2.1)) := by
  have hnone : a.core.bound.map BoundEquipment.mapping = [] := by
    rw [h.hidden hstate, List.map_nil]
  have hfault : forall (b : MqttIndustrialAdapter) (reason : String) (ids : ClientIds),
      b.core.bound = a.core.bound ->
        FaultedWith [] (b.enterFault paho reason ids).1 := by
    intro b reason ids hb
    have hfaulted := faultedWith_enterFault paho reason b ids
    rw [hb, hnone] at hfaulted
    exact hfaulted
  have hclosed : ¬ a.connectionState = .connected := by
    rw [hstate]
    decide
  by_cases haddress : a.config.host = "" ∨ a.config.port = 0
  · unfold connect
    rw [if_neg hclosed, if_pos haddress]
    exact Or.inr ⟨fun hfails => hfails.address haddress, fun _ => hfault a _ ids rfl⟩
  · cases hvalid : invalidTopic a.config with
    | some t =>
        unfold connect
        rw [if_neg hclosed, if_neg haddress, hvalid]
        refine Or.inr ⟨fun hfails => ?_, fun _ => hfault a _ ids rfl⟩
        cases hfails.valid.symm.trans hvalid
    | none =>
        by_cases hclaimed : a.keyOf (a.resolveClientId ids).1 ∈ ids.claimed
        · rcases a.resolveClientId_snd ids with ⟨serial, hserial⟩
          unfold connect claimClientId
          rw [if_neg hclosed, if_neg haddress, hvalid]
          dsimp only
          rw [hserial, if_pos hclaimed]
          exact Or.inr ⟨fun hfails => hfails.free hclaimed, fun _ => hfault a _ _ rfl⟩
        · rcases connect_of_free paho hclosed haddress hvalid hclaimed with
            ⟨ids', hconnect⟩
          rw [hconnect]
          -- the claim is the only difference to the given adapter
          have hopening : ((a.claiming ids).session.close paho).connect paho
              (sessionConfig (a.claiming ids).config (a.resolveClientId ids).1) =
                a.opening paho ids := rfl
          rcases hopen : a.opening paho ids with ⟨ok, s⟩
          rw [hopen] at hopening
          cases ok with
          | false =>
              rw [openSession_of_refused hopening]
              refine Or.inr ⟨fun hfails => ?_, fun _ => hfault _ _ _ rfl⟩
              have hopens := hfails.opens
              rw [hopen] at hopens
              cases hopens
          | true =>
              rcases openSession_of_accepted (a := a.claiming ids) hstate hvalid hopening
                ids' with ⟨hok, hfaulted⟩
              cases hsubscribed : (untilFailure (subscribeSub paho)
                (subscriptions a.config) s).1 with
              | false =>
                  left
                  have hfalse := hok.trans hsubscribed
                  refine ⟨⟨haddress, hvalid, hclaimed, by rw [hopen], ?_⟩, hfalse,
                    hfaulted hfalse⟩
                  rw [hopen]
                  exact hsubscribed
              | true =>
                  right
                  refine ⟨fun hfails => ?_, fun hfalse => ?_⟩
                  · have hrefuses := hfails.refuses
                    rw [hopen, hsubscribed] at hrefuses
                    cases hrefuses
                  · cases hfalse.symm.trans (hok.trans hsubscribed)

end MqttIndustrialAdapter

end VirtualFactory
