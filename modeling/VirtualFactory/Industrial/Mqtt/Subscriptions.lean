import Mathlib.Order.Bounds.Basic
import VirtualFactory.Industrial.Mqtt.SessionCalls
import VirtualFactory.Industrial.Mqtt.Subscribing

/-!
# Exact subscriptions

A session subscribes every topic of its configuration once, with the greatest quality of
service that an entry of the topic asks for.
-/

namespace VirtualFactory

open Foundation IndustrialAdapter

namespace MqttIndustrialAdapter

/-!
# What a configuration asks for
-/

/-- A telemetry point, a mapped state or a mapped fault names a topic with a quality of
service. -/
inductive Names (config : MqttAdapterConfig) : String -> Int -> Prop where
  | telemetry {m : MqttEquipmentMapping} {point : MqttTelemetryMapping}
      (hm : m ∈ config.equipment) (hpoint : point ∈ m.telemetry) :
      Names config point.topic point.qos
  | state {m : MqttEquipmentMapping} (hm : m ∈ config.equipment)
      (hmapped : m.state.mapped = true) : Names config m.state.topic m.state.qos
  | fault {m : MqttEquipmentMapping} (hm : m ∈ config.equipment)
      (hmapped : m.fault.mapped = true) : Names config m.fault.topic m.fault.qos

/-- The qualities of service that are asked for a topic, brought into range. -/
def askedQos (config : MqttAdapterConfig) (topic : String) : Set Int :=
  {qos | exists asked, Names config topic asked ∧ max 0 (min 2 asked) = qos}

/-- Every topic that is named is subscribed once, with the greatest quality of service
that is asked for it, and nothing else is subscribed. -/
structure Subscribed (config : MqttAdapterConfig) (made : List (String × Int)) : Prop where
  once : (made.map Prod.fst).Nodup
  topics : forall topic, topic ∈ made.map Prod.fst <->
    topic ≠ "" ∧ exists asked, Names config topic asked
  greatest : forall topic qos, (topic, qos) ∈ made -> IsGreatest (askedQos config topic) qos

/-- A topic that is named or the topic of a command has a wildcard. -/
def HasWildcard (config : MqttAdapterConfig) : Prop :=
  exists topic, ('+' ∈ topic.toList ∨ '#' ∈ topic.toList) ∧
    ((exists asked, Names config topic asked) ∨
      exists m command, m ∈ config.equipment ∧ command ∈ m.commands ∧
        command.topic = topic)

theorem mem_signalTopic_iff {what : String} {mapping : MqttSignalMapping}
    {t : MappedTopic} :
    t ∈ signalTopic what mapping <->
      mapping.mapped = true ∧ t = ⟨mapping.topic, mapping.qos, what⟩ := by
  unfold signalTopic
  split
  · rename_i hmapped
    simp [hmapped]
  · rename_i hmapped
    simp [hmapped]

theorem names_iff {config : MqttAdapterConfig} {topic : String} {asked : Int} :
    Names config topic asked <->
      exists t, t ∈ config.equipment.flatMap subscribedTopics ∧ t.topic = topic ∧
        t.qos = asked := by
  constructor
  · intro h
    cases h with
    | telemetry hm hpoint =>
        exact ⟨_, List.mem_flatMap.mpr
          ⟨_, hm, List.mem_append_left _ (List.mem_map_of_mem hpoint)⟩, rfl, rfl⟩
    | state hm hmapped =>
        exact ⟨_, List.mem_flatMap.mpr ⟨_, hm, List.mem_append_right _
          (List.mem_append_left _ (mem_signalTopic_iff.mpr ⟨hmapped, rfl⟩))⟩, rfl, rfl⟩
    | fault hm hmapped =>
        exact ⟨_, List.mem_flatMap.mpr ⟨_, hm, List.mem_append_right _
          (List.mem_append_right _ (mem_signalTopic_iff.mpr ⟨hmapped, rfl⟩))⟩, rfl, rfl⟩
  · intro h
    rcases h with ⟨t, ht, rfl, rfl⟩
    rcases List.mem_flatMap.mp ht with ⟨m, hm, hmem⟩
    rcases List.mem_append.mp hmem with htelemetry | hsignal
    · rcases List.mem_map.mp htelemetry with ⟨point, hpoint, rfl⟩
      exact .telemetry hm hpoint
    · rcases List.mem_append.mp hsignal with hstate | hfault
      · rcases mem_signalTopic_iff.mp hstate with ⟨hmapped, rfl⟩
        exact .state hm hmapped
      · rcases mem_signalTopic_iff.mp hfault with ⟨hmapped, rfl⟩
        exact .fault hm hmapped

end MqttIndustrialAdapter

/-!
# Qualities of service
-/

theorem clampQos_eq (qos : Int) : clampQos qos = max 0 (min 2 qos) := by
  unfold clampQos
  split_ifs <;> omega

theorem clampQos_max (p q : Int) : clampQos (max p q) = max (clampQos p) (clampQos q) := by
  rw [clampQos_eq, clampQos_eq, clampQos_eq]
  omega

theorem clampQos_clampQos (qos : Int) : clampQos (clampQos qos) = clampQos qos := by
  rw [clampQos_eq, clampQos_eq]
  omega

theorem topicHasWildcard_iff (topic : String) :
    topicHasWildcard topic = true <-> '+' ∈ topic.toList ∨ '#' ∈ topic.toList := by
  unfold topicHasWildcard
  simp only [List.any_eq_true, Bool.or_eq_true, beq_iff_eq]
  constructor
  · rintro ⟨c, hc, rfl | rfl⟩
    · exact Or.inl hc
    · exact Or.inr hc
  · rintro (hplus | hhash)
    · exact ⟨_, hplus, Or.inl rfl⟩
    · exact ⟨_, hhash, Or.inr rfl⟩

namespace MqttIndustrialAdapter

/-!
# Merging
-/

/-- The qualities of service of the entries of a topic, brought into range. -/
def clampedQos (topics : List MappedTopic) (topic : String) : Set Int :=
  {qos | exists t, t ∈ topics ∧ t.topic = topic ∧ clampQos t.qos = qos}

/-- The subscriptions for some topics: one for each topic that is not empty, with the
greatest quality of service it is asked for. -/
structure Merged (topics : List MappedTopic) (subs : List Sub) : Prop where
  once : (subs.map Sub.topic).Nodup
  named : forall sub, sub ∈ subs -> sub.topic ≠ ""
  greatest : forall sub, sub ∈ subs ->
    IsGreatest (clampedQos topics sub.topic) (clampQos sub.qos)
  covered : forall t, t ∈ topics -> t.topic ≠ "" -> t.topic ∈ subs.map Sub.topic

theorem merged_nil : Merged [] [] where
  once := List.nodup_nil
  named _ h := absurd h List.not_mem_nil
  greatest _ h := absurd h List.not_mem_nil
  covered _ h := absurd h List.not_mem_nil

theorem clampedQos_other {topics : List MappedTopic} {t : MappedTopic} {topic : String}
    (h : t.topic ≠ topic) : clampedQos (topics ++ [t]) topic = clampedQos topics topic := by
  ext qos
  constructor
  · intro hqos
    rcases hqos with ⟨u, hu, htopic, hclamp⟩
    rcases List.mem_append.mp hu with hold | hnew
    · exact ⟨u, hold, htopic, hclamp⟩
    · rw [List.mem_singleton.mp hnew] at htopic
      exact absurd htopic h
  · intro hqos
    rcases hqos with ⟨u, hu, htopic, hclamp⟩
    exact ⟨u, List.mem_append_left _ hu, htopic, hclamp⟩

theorem clampedQos_same (topics : List MappedTopic) (t : MappedTopic) :
    clampedQos (topics ++ [t]) t.topic =
      insert (clampQos t.qos) (clampedQos topics t.topic) := by
  ext qos
  constructor
  · intro hqos
    rcases hqos with ⟨u, hu, htopic, hclamp⟩
    rcases List.mem_append.mp hu with hold | hnew
    · exact Or.inr ⟨u, hold, htopic, hclamp⟩
    · rw [List.mem_singleton.mp hnew] at hclamp
      exact Or.inl hclamp.symm
  · intro hqos
    rcases hqos with hnew | ⟨u, hu, htopic, hclamp⟩
    · exact ⟨t, List.mem_append_right _ List.mem_cons_self, rfl, hnew.symm⟩
    · exact ⟨u, List.mem_append_left _ hu, htopic, hclamp⟩

theorem Merged.skip {topics : List MappedTopic} {subs : List Sub} (h : Merged topics subs)
    {t : MappedTopic} (hempty : t.topic = "") : Merged (topics ++ [t]) subs where
  once := h.once
  named := h.named
  greatest := by
    intro sub hsub
    have hother : t.topic ≠ sub.topic := by
      rw [hempty]
      exact (h.named sub hsub).symm
    rw [clampedQos_other hother]
    exact h.greatest sub hsub
  covered := by
    intro u hu hne
    rcases List.mem_append.mp hu with hold | hnew
    · exact h.covered u hold hne
    · rw [List.mem_singleton.mp hnew] at hne
      exact absurd hempty hne

theorem raiseQos_eq_some {topic : String} {qos : Int} :
    forall {subs raised : List Sub}, raiseQos topic qos subs = some raised ->
      exists before entry after, subs = before ++ entry :: after ∧ entry.topic = topic ∧
        raised = before ++ { entry with qos := max entry.qos qos } :: after
  | [], _, h => by cases h
  | entry :: rest, raised, h => by
      unfold raiseQos at h
      by_cases hentry : entry.topic = topic
      · rw [if_pos hentry, Option.some_inj] at h
        refine ⟨[], entry, rest, rfl, hentry, ?_⟩
        rw [← h, List.nil_append]
        congr 2
        split <;> omega
      · rw [if_neg hentry] at h
        rcases Option.map_eq_some_iff.mp h with ⟨more, hmore, rfl⟩
        rcases raiseQos_eq_some hmore with ⟨before, found, after, hsplit, hfound, hraised⟩
        refine ⟨entry :: before, found, after, ?_, hfound, ?_⟩
        · rw [hsplit, List.cons_append]
        · rw [hraised, List.cons_append]

theorem raiseQos_eq_none {topic : String} {qos : Int} :
    forall {subs : List Sub}, raiseQos topic qos subs = none ->
      topic ∉ subs.map Sub.topic
  | [], _ => List.not_mem_nil
  | entry :: rest, h => by
      unfold raiseQos at h
      by_cases hentry : entry.topic = topic
      · rw [if_pos hentry] at h
        cases h
      · rw [if_neg hentry] at h
        have hrest := raiseQos_eq_none (Option.map_eq_none_iff.mp h)
        rw [List.map_cons, List.mem_cons]
        intro hmem
        rcases hmem with heq | hmem
        · exact hentry heq.symm
        · exact hrest hmem

theorem Merged.raise {topics : List MappedTopic} {subs raised : List Sub}
    (h : Merged topics subs) {t : MappedTopic}
    (hraised : raiseQos t.topic t.qos subs = some raised) :
    Merged (topics ++ [t]) raised := by
  rcases raiseQos_eq_some hraised with ⟨before, entry, after, rfl, hentry, rfl⟩
  have hsame : (before ++ { entry with qos := max entry.qos t.qos } :: after).map Sub.topic =
      (before ++ entry :: after).map Sub.topic := by
    rw [List.map_append, List.map_append]
    rfl
  have hmem : entry ∈ before ++ entry :: after :=
    List.mem_append_right _ List.mem_cons_self
  -- the other subscriptions are for other topics
  have hother : forall sub, sub ∈ before ++ after ->
      sub ∈ before ++ entry :: after ∧ t.topic ≠ sub.topic := by
    intro sub hsub
    have honce := h.once
    rw [List.map_append, List.map_cons] at honce
    have hnot := (List.nodup_middle.mp honce).notMem
    constructor
    · exact (List.sublist_cons_self entry after).append_left before |>.subset hsub
    · intro heq
      apply hnot
      rw [← List.map_append, hentry, heq]
      exact List.mem_map_of_mem hsub
  have hcases : forall sub, sub ∈ before ++ { entry with qos := max entry.qos t.qos } :: after ->
      sub = { entry with qos := max entry.qos t.qos } ∨ sub ∈ before ++ after := by
    intro sub hsub
    rw [List.mem_append, List.mem_cons] at hsub
    rcases hsub with hbefore | heq | hafter
    · exact Or.inr (List.mem_append_left _ hbefore)
    · exact Or.inl heq
    · exact Or.inr (List.mem_append_right _ hafter)
  constructor
  case once =>
    rw [hsame]
    exact h.once
  case named =>
    intro sub hsub
    rcases hcases sub hsub with rfl | hold
    · exact h.named entry hmem
    · exact h.named sub (hother sub hold).left
  case greatest =>
    intro sub hsub
    rcases hcases sub hsub with rfl | hold
    · have hgreatest := (h.greatest entry hmem).insert (clampQos t.qos)
      rw [hentry] at hgreatest
      dsimp only
      rw [hentry, clampedQos_same, clampQos_max, max_comm]
      exact hgreatest
    · rw [clampedQos_other (hother sub hold).right]
      exact h.greatest sub (hother sub hold).left
  case covered =>
    intro u hu hne
    rw [hsame]
    rcases List.mem_append.mp hu with hold | hnew
    · exact h.covered u hold hne
    · rw [List.mem_singleton.mp hnew, ← hentry]
      exact List.mem_map_of_mem hmem

theorem Merged.add {topics : List MappedTopic} {subs : List Sub} (h : Merged topics subs)
    {t : MappedTopic} (hne : t.topic ≠ "") (hnew : t.topic ∉ subs.map Sub.topic) :
    Merged (topics ++ [t]) (subs ++ [⟨t.topic, clampQos t.qos⟩]) := by
  constructor
  case once =>
    rw [List.map_append, List.map_singleton]
    exact List.nodup_append.mpr ⟨h.once, List.nodup_singleton _, by
      intro topic htopic other hother heq
      rw [heq, List.mem_singleton.mp hother] at htopic
      exact hnew htopic⟩
  case named =>
    intro sub hsub
    rcases List.mem_append.mp hsub with hold | hadded
    · exact h.named sub hold
    · rw [List.mem_singleton.mp hadded]
      exact hne
  case greatest =>
    intro sub hsub
    rcases List.mem_append.mp hsub with hold | hadded
    · have hother : t.topic ≠ sub.topic := by
        intro heq
        apply hnew
        rw [heq]
        exact List.mem_map_of_mem hold
      rw [clampedQos_other hother]
      exact h.greatest sub hold
    · have hnone : clampedQos topics t.topic = ∅ := by
        apply Set.eq_empty_iff_forall_notMem.mpr
        intro qos hqos
        rcases hqos with ⟨u, hu, htopic, _⟩
        apply hnew
        rw [← htopic] at hne ⊢
        exact h.covered u hu hne
      rw [List.mem_singleton.mp hadded]
      dsimp only
      rw [clampedQos_same, hnone, clampQos_clampQos, LawfulSingleton.insert_empty_eq]
      exact isGreatest_singleton
  case covered =>
    intro u hu hune
    rw [List.map_append, List.mem_append]
    rcases List.mem_append.mp hu with hold | hlast
    · exact Or.inl (h.covered u hold hune)
    · rw [List.mem_singleton.mp hlast]
      exact Or.inr List.mem_cons_self

theorem Merged.collectSubs {topics : List MappedTopic} {subs : List Sub}
    (h : Merged topics subs) :
    forall {more : List MappedTopic} {collected : List Sub},
      collectSubs more subs = .ok collected -> Merged (topics ++ more) collected
  | [], collected, hcollected => by
      cases hcollected
      rw [List.append_nil]
      exact h
  | t :: more, collected, hcollected => by
      have hsplit : topics ++ t :: more = topics ++ [t] ++ more := by
        rw [List.append_assoc, List.singleton_append]
      rw [hsplit]
      unfold MqttIndustrialAdapter.collectSubs at hcollected
      by_cases hempty : t.topic = ""
      · rw [if_pos hempty] at hcollected
        exact (h.skip hempty).collectSubs hcollected
      · rw [if_neg hempty] at hcollected
        by_cases hwildcard : topicHasWildcard t.topic = true
        · rw [if_pos hwildcard] at hcollected
          cases hcollected
        · rw [if_neg hwildcard] at hcollected
          cases hraise : raiseQos t.topic t.qos subs with
          | some raised =>
              rw [hraise] at hcollected
              exact (h.raise hraise).collectSubs hcollected
          | none =>
              rw [hraise] at hcollected
              exact (h.add hempty (raiseQos_eq_none hraise)).collectSubs hcollected

theorem askedQos_eq (config : MqttAdapterConfig) (topic : String) :
    askedQos config topic = clampedQos (config.equipment.flatMap subscribedTopics) topic := by
  ext qos
  constructor
  · rintro ⟨asked, hnames, hqos⟩
    rcases names_iff.mp hnames with ⟨t, ht, htopic, rfl⟩
    exact ⟨t, ht, htopic, (clampQos_eq t.qos).trans hqos⟩
  · rintro ⟨t, ht, htopic, hqos⟩
    exact ⟨t.qos, names_iff.mpr ⟨t, ht, htopic, rfl⟩, (clampQos_eq t.qos).symm.trans hqos⟩

theorem merged_subscriptions {config : MqttAdapterConfig}
    (h : invalidTopic config = none) :
    Merged (config.equipment.flatMap subscribedTopics) (subscriptions config) := by
  have hmerged := merged_nil.collectSubs (collectSubs_of_valid h)
  rw [List.nil_append] at hmerged
  exact hmerged

/-!
# The subscriptions of a connect
-/

def requested (config : MqttAdapterConfig) : List (String × Int) :=
  (subscriptions config).map (fun sub => (sub.topic, clampQos sub.qos))

theorem makes_untilFailure {paho : Paho} :
    forall {subs : List Sub} {s t : MqttSession},
      untilFailure (subscribeSub paho) subs s = (true, t) ->
        MqttSession.Makes (subs.map (fun sub => (sub.topic, clampQos sub.qos))) s t
  | [], s, t, h => by
      cases h
      exact MqttSession.makes_of_calls rfl
  | sub :: rest, s, t, h => by
      rcases hsub : subscribeSub paho sub s with ⟨ok, u⟩
      cases ok with
      | false =>
          rw [untilFailure_cons_of_false hsub] at h
          cases h
      | true =>
          rw [untilFailure_cons_of_true hsub] at h
          exact (MqttSession.makes_subscribe hsub).trans (makes_untilFailure h)

theorem opens_openSession {paho : Paho} {clientId : String} {a : MqttIndustrialAdapter}
    (hvalid : invalidTopic a.config = none) {ids : ClientIds}
    (h : (a.openSession paho clientId ids).1 = true) :
    MqttSession.Opens (requested a.config) a.session
      (a.openSession paho clientId ids).2.1.session := by
  unfold openSession at h ⊢
  rcases hconnect : (a.session.close paho).connect paho (sessionConfig a.config clientId)
    with ⟨ok, s⟩
  rw [hconnect] at h
  cases ok with
  | false => cases h
  | true =>
      have hopens := (MqttSession.opens_connect hconnect).after
        (MqttSession.makes_close paho a.session)
      have hconfig : (a.withSession s).bindOrReuse.config = a.config := by
        rw [bindOrReuse_eq]
        rfl
      have hsession : (a.withSession s).bindOrReuse.session = s := by
        rw [bindOrReuse_eq]
        rfl
      dsimp only at h ⊢
      generalize (a.withSession s).bindOrReuse = b at hconfig hsession h ⊢
      rw [← hconfig] at hvalid
      rw [subscribeMappedTopics_of_valid paho hvalid, hsession, hconfig] at h ⊢
      rcases hsubscribed : untilFailure (subscribeSub paho) (subscriptions a.config) s with
        ⟨ok, t⟩
      rw [hsubscribed] at h
      cases ok with
      | false => cases h
      | true => exact hopens.makes (makes_untilFailure hsubscribed)

/-- A connect that opens a session has validated the topics, and makes their
subscriptions. -/
theorem opens_connect {paho : Paho} {a : MqttIndustrialAdapter}
    (hstate : a.connectionState ≠ .connected) {ids : ClientIds}
    (h : (a.connect paho ids).1 = true) :
    invalidTopic a.config = none ∧
      MqttSession.Opens (requested a.config) a.session
        (a.connect paho ids).2.1.session := by
  unfold connect at h ⊢
  rw [if_neg hstate] at h ⊢
  by_cases haddress : a.config.host = "" ∨ a.config.port = 0
  · rw [if_pos haddress] at h
    cases h
  · rw [if_neg haddress] at h ⊢
    cases hvalid : invalidTopic a.config with
    | some t =>
        rw [hvalid] at h
        cases h
    | none =>
        rw [hvalid] at h
        refine ⟨rfl, ?_⟩
        dsimp only at h ⊢
        unfold claimClientId at h ⊢
        by_cases hclaimed : a.keyOf (a.resolveClientId ids).1 ∈ (a.resolveClientId ids).2.claimed
        · rw [if_pos hclaimed] at h
          cases h
        · rw [if_neg hclaimed] at h ⊢
          exact opens_openSession (a := { a with activeClientId := (a.resolveClientId ids).1 })
            hvalid h

/-!
# Connected adapters
-/

/-- A connected adapter has valid topics, and the client of its session has made their
subscriptions. -/
def Subscribes (a : MqttIndustrialAdapter) : Prop :=
  a.connectionState = .connected ->
    invalidTopic a.config = none ∧ clientSubscriptions a.session.calls = requested a.config

/-- What stays connected subscribes nothing more. -/
def Quiet (a b : MqttIndustrialAdapter) : Prop :=
  b.connectionState = .connected -> MqttSession.Makes [] a.session b.session

theorem Subscribes.operated {a b : MqttIndustrialAdapter} {ids ids' : ClientIds}
    (h : Subscribes a) (hoperated : MqttIndustrialAdapter.Operated a ids b ids')
    (hquiet : Quiet a b) : Subscribes b := by
  intro hstate
  rcases hoperated with ⟨hstays, _⟩ | ⟨hfaults, _⟩
  · rw [hstays.sameConfig, (hquiet hstate).clientSubscriptions, List.append_nil]
    exact h (hstays.sameState.symm.trans hstate)
  · rw [hfaults.faulted] at hstate
    cases hstate

theorem quiet_enterFault (paho : Paho) (reason : String) (a b : MqttIndustrialAdapter)
    (ids : ClientIds) : Quiet a (b.enterFault paho reason ids).1 := by
  intro hstate
  cases hstate

theorem quiet_pollLoop (text : TextLib) (paho : Paho) (n timeoutMs : Nat)
    (a : MqttIndustrialAdapter) (ids : ClientIds) :
    Quiet a (pollLoop text paho n timeoutMs a ids).1 := by
  induction n generalizing timeoutMs a with
  | zero =>
      intro _
      exact MqttSession.makes_of_calls rfl
  | succ n ih =>
      have hreceive := MqttSession.makes_receive paho timeoutMs a.session
      unfold pollLoop
      generalize a.session.receive paho timeoutMs = r at hreceive ⊢
      rcases r with ⟨incoming, s⟩
      cases incoming with
      | error => exact quiet_enterFault paho _ a _ ids
      | nothing =>
          have hconnected := MqttSession.makes_connected paho s
          dsimp only
          generalize s.connected paho = r at hconnected ⊢
          rcases r with ⟨ok, t⟩
          cases ok with
          | false => exact quiet_enterFault paho _ a _ ids
          | true =>
              intro _
              exact hreceive.trans hconnected
      | received message =>
          intro hstate
          exact hreceive.trans (ih 0 ((a.withSession s).applyMessage text message) hstate)

theorem quiet_runCommand (text : TextLib) (paho : Paho) (command : String)
    (parameter : Double) (m : MqttEquipmentMapping) (a : MqttIndustrialAdapter)
    (ids : ClientIds) : Quiet a (runCommand text paho command parameter m a ids).2.1 := by
  have hsame : Quiet a a := fun _ => MqttSession.makes_of_calls rfl
  unfold runCommand runMapped
  cases a.connectionState with
  | disconnected => exact hsame
  | faulted => exact hsame
  | connected =>
      cases m.commands.find? (fun entry => entry.command = command) with
      | none => exact hsame
      | some mapped =>
          dsimp only
          split
          · exact hsame
          · have hpublish := MqttSession.makes_publish paho mapped.topic
              (substituteValue text mapped.bodyTemplate parameter) mapped.qos mapped.retain
              a.session
            unfold publishCommand
            dsimp only
            generalize a.session.publish paho _ _ _ _ = r at hpublish ⊢
            rcases r with ⟨ok, s⟩
            cases ok with
            | false => exact quiet_enterFault paho _ a _ ids
            | true =>
                intro _
                exact hpublish

theorem subscribes_connect (paho : Paho) {a : MqttIndustrialAdapter} (h : Subscribes a)
    (ids : ClientIds) : Subscribes (a.connect paho ids).2.1 := by
  by_cases hstate : a.connectionState = .connected
  · unfold connect
    rw [if_pos hstate]
    exact h
  · have hout := connect_outcome paho hstate ids
    have hopens := fun hok : (a.connect paho ids).1 = true => opens_connect hstate hok
    intro hconnected
    generalize a.connect paho ids = r at hout hopens hconnected ⊢
    rcases r with ⟨ok, b, ids'⟩
    cases hout with
    | refused serial hfaults =>
        rw [hfaults.faulted] at hconnected
        cases hconnected
    | failed serial hfaults =>
        rw [hfaults.faulted] at hconnected
        cases hconnected
    | opened serial _ sameConfig =>
        rcases hopens rfl with ⟨hvalid, hopens⟩
        rw [sameConfig]
        exact ⟨hvalid, hopens.clientSubscriptions⟩

theorem stable_subscribes : Stable Subscribes := by
  intro event a ids h
  rcases event with ⟨operation, lib⟩
  cases operation with
  | connect => exact subscribes_connect lib.paho h ids
  | disconnect =>
      intro hstate
      cases hstate
  | poll =>
      show Subscribes (a.poll lib.text lib.paho ids).1
      by_cases hstate : a.connectionState = .connected
      · rw [poll_of_connected lib.text lib.paho hstate]
        exact h.operated (pollLoop_operated lib.text lib.paho _ _ a ids)
          (quiet_pollLoop lib.text lib.paho _ _ a ids)
      · intro hafter
        unfold poll at hafter
        rw [if_pos hstate] at hafter
        split at hafter
        · exact absurd hafter hstate
        · exact absurd hafter hstate
  | execute equipmentId command parameter =>
      cases hr : IndustrialAdapter.execute lib a equipmentId command parameter ids with
      | none =>
          rw [operate_execute_of_none hr]
          exact h
      | some r =>
          rw [operate_execute_of_some hr]
          rcases execute_some hr with ⟨b, _, hrun⟩
          have hoperated := (runCommand_operated lib.text lib.paho command parameter
            b.mapping a ids).1
          have hquiet := quiet_runCommand lib.text lib.paho command parameter b.mapping a ids
          rw [hrun] at hoperated hquiet
          exact h.operated hoperated hquiet
  | stimulate c =>
      intro hstate
      have hcalls : (a.callback c).session.calls = a.session.calls :=
        MqttSession.calls_callback a.session c
      show invalidTopic a.config = none ∧
        clientSubscriptions (a.callback c).session.calls = requested a.config
      rw [hcalls]
      exact h hstate

/-!
# Exact subscriptions
-/

theorem subscribed_requested {config : MqttAdapterConfig} (h : invalidTopic config = none) :
    Subscribed config (requested config) := by
  have hmerged := merged_subscriptions h
  have htopics : (requested config).map Prod.fst =
      (subscriptions config).map Sub.topic := by
    unfold requested
    rw [List.map_map]
    rfl
  constructor
  case once =>
    rw [htopics]
    exact hmerged.once
  case topics =>
    intro topic
    rw [htopics]
    constructor
    · intro htopic
      rcases List.mem_map.mp htopic with ⟨sub, hsub, rfl⟩
      rcases (hmerged.greatest sub hsub).left with ⟨t, ht, hname, _⟩
      exact ⟨hmerged.named sub hsub, t.qos, names_iff.mpr ⟨t, ht, hname, rfl⟩⟩
    · rintro ⟨hne, asked, hnames⟩
      rcases names_iff.mp hnames with ⟨t, ht, rfl, _⟩
      exact hmerged.covered t ht hne
  case greatest =>
    intro topic qos hmade
    rcases List.mem_map.mp hmade with ⟨sub, hsub, heq⟩
    cases heq
    rw [askedQos_eq]
    exact hmerged.greatest sub hsub

theorem hasWildcard_iff {config : MqttAdapterConfig} :
    HasWildcard config <-> exists t, invalidTopic config = some t := by
  rw [← Option.isSome_iff_exists]
  unfold invalidTopic
  rw [List.find?_isSome]
  have hsome : forall t : MappedTopic,
      (t.topic != "" && topicHasWildcard t.topic) = true <->
        '+' ∈ t.topic.toList ∨ '#' ∈ t.topic.toList := by
    intro t
    rw [Bool.and_eq_true, bne_iff_ne, topicHasWildcard_iff, and_iff_right_iff_imp]
    rintro hwildcard hempty
    rw [hempty] at hwildcard
    revert hwildcard
    decide
  simp only [hsome, List.mem_flatMap, validatedTopics, List.mem_append, List.mem_map]
  constructor
  · rintro ⟨topic, hwildcard, hnamed | ⟨m, command, hm, hcommand, rfl⟩⟩
    · rcases hnamed with ⟨asked, hasked⟩
      rcases names_iff.mp hasked with ⟨t, ht, rfl, _⟩
      rcases List.mem_flatMap.mp ht with ⟨m, hm, hmem⟩
      exact ⟨t, ⟨m, hm, Or.inl hmem⟩, hwildcard⟩
    · exact ⟨_, ⟨m, hm, Or.inr ⟨command, hcommand, rfl⟩⟩, hwildcard⟩
  · rintro ⟨t, ⟨m, hm, hmem | ⟨command, hcommand, rfl⟩⟩, hwildcard⟩
    · have hnamed := names_iff.mpr ⟨t, List.mem_flatMap.mpr ⟨m, hm, hmem⟩, rfl, rfl⟩
      exact ⟨t.topic, hwildcard, Or.inl ⟨t.qos, hnamed⟩⟩
    · exact ⟨command.topic, hwildcard, Or.inr ⟨m, command, hm, hcommand, rfl⟩⟩

theorem not_hasWildcard_iff {config : MqttAdapterConfig} :
    ¬ HasWildcard config <-> invalidTopic config = none := by
  rw [hasWildcard_iff, ← Option.isSome_iff_exists, Option.not_isSome_iff_eq_none]

/-- A connect that is refused opens no session and claims no identifier. -/
structure RefusedEarly (a b : MqttIndustrialAdapter) (ids ids' : ClientIds) : Prop where
  faulted : b.connectionState = .faulted
  calls : exists later, b.session.calls = later ++ a.session.calls ∧
    forall c, c ∈ later -> c ∈ [PahoCall.isConnected, .disconnect, .destroy]
  claimed : ids'.claimed ⊆ ids.claimed
  serial : ids'.serial = ids.serial

theorem refusedEarly_enterFault (paho : Paho) (reason : String) (a : MqttIndustrialAdapter)
    (ids : ClientIds) :
    RefusedEarly a (a.enterFault paho reason ids).1 ids (a.enterFault paho reason ids).2 := by
  rcases a.releaseClientId_local with ⟨dropped, hdropped⟩
  have hids : (a.enterFault paho reason ids).2 =
      { ids with claimed := ids.claimed \ dropped } := hdropped ids
  constructor
  case faulted => rfl
  case calls => exact MqttSession.calls_close paho a.session
  case claimed =>
    rw [hids]
    exact Finset.sdiff_subset
  case serial => rw [hids]

theorem refusedEarly_connect (paho : Paho) {a : MqttIndustrialAdapter}
    (hstate : a.connectionState ≠ .connected) (hwildcard : HasWildcard a.config)
    (ids : ClientIds) :
    (a.connect paho ids).1 = false ∧
      RefusedEarly a (a.connect paho ids).2.1 ids (a.connect paho ids).2.2 := by
  rcases hasWildcard_iff.mp hwildcard with ⟨t, ht⟩
  unfold connect
  rw [if_neg hstate, ht]
  split
  · exact ⟨rfl, refusedEarly_enterFault paho _ a ids⟩
  · exact ⟨rfl, refusedEarly_enterFault paho _ a ids⟩

def Created (a : MqttIndustrialAdapter) : Prop :=
  exists id config, a = new id config

theorem subscribes_of_operated {a : MqttIndustrialAdapter}
    (h : IndustrialAdapter.Operated Created a) : Subscribes a := by
  apply h.invariant stable_subscribes
  intro b hb hstate
  rcases hb with ⟨id, config, rfl⟩
  cases hstate

/-- A successful connect has subscribed exactly the topics of the configuration, and a
configuration with a wildcard is refused before anything is opened or claimed. -/
theorem connect_subscribes (paho : Paho) {a : MqttIndustrialAdapter}
    (h : IndustrialAdapter.Operated Created a) (ids : ClientIds) :
    ((a.connect paho ids).1 = true ->
        Subscribed a.config
          (clientSubscriptions (a.connect paho ids).2.1.session.calls)) ∧
      (a.connectionState ≠ .connected -> (a.connect paho ids).1 = true ->
        exists later, (a.connect paho ids).2.1.session.calls = later ++ a.session.calls ∧
          Subscribed a.config (subscriptionsOf later)) ∧
      (HasWildcard a.config -> (a.connect paho ids).1 = false ∧
        RefusedEarly a (a.connect paho ids).2.1 ids (a.connect paho ids).2.2) := by
  have hsubscribes := subscribes_of_operated h
  refine ⟨fun hok => ?_, fun hstate hok => ?_, fun hwildcard => ?_⟩
  · by_cases hstate : a.connectionState = .connected
    · rcases hsubscribes hstate with ⟨hvalid, hmade⟩
      unfold connect
      rw [if_pos hstate]
      dsimp only
      rw [hmade]
      exact subscribed_requested hvalid
    · rcases opens_connect hstate hok with ⟨hvalid, hopens⟩
      rw [hopens.clientSubscriptions]
      exact subscribed_requested hvalid
  · rcases opens_connect hstate hok with ⟨hvalid, hopens⟩
    rcases hopens.subscriptionsOf with ⟨later, hcalls, hmade⟩
    refine ⟨later, hcalls, ?_⟩
    rw [hmade]
    exact subscribed_requested hvalid
  · have hstate : a.connectionState ≠ .connected := by
      intro hconnected
      rcases hasWildcard_iff.mp hwildcard with ⟨t, ht⟩
      cases (hsubscribes hconnected).left.symm.trans ht
    exact refusedEarly_connect paho hstate hwildcard ids

def sharedTopicConfig : MqttAdapterConfig where
  equipment :=
    [{ id := "PLC-001", type := "press",
       telemetry := [⟨"speed", "plant/line", "rpm", .numberText, "", -3⟩] },
     { id := "PLC-002", type := "press",
       telemetry := [⟨"load", "plant/line", "kN", .numberText, "", 7⟩] }]

theorem connect_subscribes_shared :
    ((new "mqtt-1" sharedTopicConfig).connect Paho.obliging {}).1 = true ∧
      Subscribed sharedTopicConfig
        (clientSubscriptions
          ((new "mqtt-1" sharedTopicConfig).connect Paho.obliging {}).2.1.session.calls) := by
  have hok : ((new "mqtt-1" sharedTopicConfig).connect Paho.obliging {}).1 = true := by decide
  have hcreated : Created (new "mqtt-1" sharedTopicConfig) := ⟨_, _, rfl⟩
  exact ⟨hok, (connect_subscribes Paho.obliging (.created hcreated) {}).1 hok⟩

example : requested sharedTopicConfig = [("plant/line", 2)] := by decide

end MqttIndustrialAdapter

end VirtualFactory
