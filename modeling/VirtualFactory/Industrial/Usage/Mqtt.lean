import VirtualFactory.Industrial.LibraryUse
import VirtualFactory.Industrial.Mqtt.Bindings
import VirtualFactory.Industrial.Mqtt.Subscriptions

/-!
# The use of Paho

A session creates its client for the configured broker, subscribes mapped topics and
publishes to the topics of commands.  The client is destroyed whenever the adapter is not
connected.
-/

namespace VirtualFactory

open Foundation
open IndustrialAdapter (operate operations operate_execute_of_none operate_execute_of_some)

def MqttAdapterConfig.targets (cfg : MqttAdapterConfig) : List MqttCommandMapping :=
  cfg.equipment.flatMap MqttEquipmentMapping.commands

namespace PahoCall

open MqttIndustrialAdapter

/-- How Paho is to be used.  Only a client that could be created is a handle. -/
def usage (lib : MqttLib) (cfg : MqttAdapterConfig) : Usage PahoCall where
  custody earlier
    | .createWithOptions serverUri clientId =>
        if lib.paho.create (.createWithOptions serverUri clientId :: earlier) then .acquire
        else .refuse
    | .destroy => .release
    | .wait _ => .outside
    | .lock => .outside
    | _ => .use
  permits _
    | .createWithOptions serverUri clientId =>
        serverUri = MqttSession.serverUri (sessionConfig cfg clientId) ∧ clientId ≠ "" ∧
          (cfg.clientId ≠ "" -> clientId = cfg.clientId)
    | .connect options => options = MqttSession.connectOptions (sessionConfig cfg "")
    | .subscribe topic qos =>
        topic ≠ "" ∧ exists t, t ∈ cfg.equipment.flatMap subscribedTopics ∧
          t.topic = topic ∧ clampQos t.qos = qos
    | .sendMessage topic payload qos retained =>
        topic ≠ "" ∧ topicHasWildcard topic = false ∧
          exists command parameter, command ∈ cfg.targets ∧ command.topic = topic ∧
            payload = substituteValue lib.text command.bodyTemplate parameter ∧
            clampQos command.qos = qos ∧ command.retain = retained
    | _ => True

end PahoCall

namespace MqttSession

variable {lib : MqttLib} {cfg : MqttAdapterConfig} {s : MqttSession}

/-- The session has used the library as it should, and knows whether it has a client. -/
def Kept (lib : MqttLib) (cfg : MqttAdapterConfig) (s : MqttSession) : Prop :=
  (PahoCall.usage lib cfg).Holds s.calls s.handle

@[simp] theorem handle_captureIfEmpty (s : MqttSession) (text : String) :
    (s.captureIfEmpty text).handle = s.handle := by
  unfold captureIfEmpty
  split <;> rfl

theorem handle_callback (s : MqttSession) (c : PahoCallback) :
    (s.callback c).handle = s.handle := by
  cases c with
  | connectionLost cause =>
      show (s.onConnectionLost cause).handle = s.handle
      unfold onConnectionLost
      split
      · rfl
      · exact handle_captureIfEmpty _ _
  | message message =>
      show (s.onMessage message).handle = s.handle
      unfold onMessage
      split <;> rfl
  | connectSuccess => rfl
  | connectFailure response => rfl
  | opSuccess => rfl
  | opFailure response => rfl

@[simp] theorem handle_call (paho : Paho) (c : PahoCall) (s : MqttSession) :
    (s.call paho c).handle = s.handle := by
  have hfold : forall (cs : List PahoCallback) (t : MqttSession),
      (cs.foldl callback t).handle = t.handle := by
    intro cs
    induction cs with
    | nil =>
        intro t
        rfl
    | cons c cs ih =>
        intro t
        rw [List.foldl_cons, ih, handle_callback]
  exact hfold _ _

theorem kept_captureIfEmpty (h : Kept lib cfg s) (text : String) :
    Kept lib cfg (s.captureIfEmpty text) := by
  unfold Kept
  rw [calls_captureIfEmpty, handle_captureIfEmpty]
  exact h

theorem kept_callback (h : Kept lib cfg s) (c : PahoCallback) :
    Kept lib cfg (s.callback c) := by
  unfold Kept
  rw [calls_callback, handle_callback]
  exact h

theorem Kept.call (h : Kept lib cfg s) (hhandle : s.handle = true) {c : PahoCall}
    (hcustody : (PahoCall.usage lib cfg).custody s.calls c = .use)
    (hpermits : (PahoCall.usage lib cfg).permits s.calls c) :
    Kept lib cfg (s.call lib.paho c) := by
  unfold Kept at h ⊢
  rw [hhandle] at h
  rw [calls_call, handle_call, hhandle]
  exact h.use hcustody hpermits

/-- A point at which callbacks may run is no call on a client. -/
theorem Kept.outside (h : Kept lib cfg s) {c : PahoCall}
    (hcustody : (PahoCall.usage lib cfg).custody s.calls c = .outside)
    (hpermits : (PahoCall.usage lib cfg).permits s.calls c) :
    Kept lib cfg (s.call lib.paho c) := by
  unfold Kept at h ⊢
  rw [calls_call, handle_call]
  exact h.outside hcustody hpermits

theorem kept_close (h : Kept lib cfg s) :
    Kept lib cfg (s.close lib.paho) ∧ (s.close lib.paho).handle = false := by
  have hdestroy : forall t : MqttSession, Kept lib cfg t -> t.handle = true ->
      (PahoCall.usage lib cfg).Holds (t.call lib.paho .destroy).calls false := by
    intro t ht hhandle
    unfold Kept at ht
    rw [hhandle] at ht
    rw [calls_call]
    exact ht.release rfl trivial
  unfold close
  dsimp only
  split
  · rename_i hhandle
    have hasked : Kept lib cfg ({ s with closing := true }.call lib.paho .isConnected) :=
      Kept.call (s := { s with closing := true }) h hhandle rfl trivial
    have hopen : ({ s with closing := true }.call lib.paho .isConnected).handle = true :=
      (handle_call _ _ _).trans hhandle
    refine ⟨?_, rfl⟩
    split
    · exact hdestroy _ (hasked.call hopen rfl trivial) ((handle_call _ _ _).trans hopen)
    · exact hdestroy _ hasked hopen
  · rename_i hhandle
    exact ⟨h, Bool.eq_false_of_not_eq_true hhandle⟩

theorem kept_awaitConnect {config : MqttSessionConfig}
    (hoptions : connectOptions config =
      connectOptions (MqttIndustrialAdapter.sessionConfig cfg ""))
    (h : Kept lib cfg s) (hhandle : s.handle = true) :
    Kept lib cfg (s.awaitConnect lib.paho config).2 := by
  have hasked : Kept lib cfg
      ({ s with connectDone := false, connectRc := mqttAsyncFailure }.call lib.paho
        (.connect (connectOptions config))) :=
    Kept.call (s := { s with connectDone := false, connectRc := mqttAsyncFailure }) h
      hhandle rfl hoptions
  unfold awaitConnect
  dsimp only
  generalize ((if 0 < config.connectTimeoutSeconds then config.connectTimeoutSeconds
    else 2) + 3) * 1000 = timeoutMs
  split
  · refine (kept_close ?_).1
    exact hasked
  · have hwaited := hasked.outside (c := .wait timeoutMs) rfl trivial
    split
    · exact (kept_close (kept_captureIfEmpty hwaited _)).1
    · exact hwaited

theorem kept_create (h : Kept lib cfg s) (hnone : s.handle = false) {serverUri clientId : String}
    (hpermits : (PahoCall.usage lib cfg).permits s.calls
      (.createWithOptions serverUri clientId)) :
    let t := s.call lib.paho (.createWithOptions serverUri clientId)
    (lib.paho.create t.calls = true -> Kept lib cfg { t with handle := true }) ∧
      (lib.paho.create t.calls = false -> Kept lib cfg t) := by
  unfold Kept at h ⊢
  rw [hnone] at h
  dsimp only
  rw [calls_call, handle_call, hnone]
  constructor
  · intro hcreate
    exact h.acquire (if_pos hcreate) hpermits
  · intro hcreate
    exact h.refuse (if_neg (by rw [hcreate]; decide)) hpermits

theorem kept_connect {config : MqttSessionConfig}
    (hconfig : config = MqttIndustrialAdapter.sessionConfig cfg config.clientId)
    (hclient : cfg.clientId ≠ "" -> config.clientId = cfg.clientId)
    (h : Kept lib cfg s) : Kept lib cfg (s.connect lib.paho config).2 := by
  rcases kept_close h with ⟨hclosed, hnone⟩
  unfold connect
  dsimp only
  split
  · exact hclosed
  · rename_i hvalid
    have hpermits : (PahoCall.usage lib cfg).permits (s.close lib.paho).calls
        (.createWithOptions (serverUri config) config.clientId) :=
      ⟨congrArg serverUri hconfig, fun hempty => hvalid (Or.inr (Or.inr hempty)), hclient⟩
    have hcreate := kept_create
      (s := { s.close lib.paho with
        lastError := "", closing := false, lost := false, isConnected := false })
      hclosed hnone hpermits
    dsimp only at hcreate
    split
    · rename_i hfailed
      exact hcreate.2 (by simpa using hfailed)
    · rename_i hdone
      have hset := (hcreate.1 (by simpa using hdone)).call (c := .setCallbacks) rfl rfl
        trivial
      have hopen := handle_call lib.paho .setCallbacks
        { MqttSession.call lib.paho (.createWithOptions (serverUri config) config.clientId)
            { s.close lib.paho with
              lastError := "", closing := false, lost := false, isConnected := false } with
          handle := true }
      split
      · unfold Kept at hset ⊢
        rw [hopen] at hset
        dsimp only
        rw [calls_call]
        exact hset.release rfl trivial
      · exact kept_awaitConnect ((congrArg connectOptions hconfig).trans rfl) hset hopen

theorem kept_connected (h : Kept lib cfg s) : Kept lib cfg (s.connected lib.paho).2 := by
  unfold connected
  split
  · exact h
  · rename_i hhandle
    exact h.call (by simpa using hhandle) rfl trivial

theorem kept_subscribe {topic : String} {qos : Int}
    (hmapped : exists t, t ∈ cfg.equipment.flatMap MqttIndustrialAdapter.subscribedTopics ∧
      t.topic = topic ∧ clampQos t.qos = clampQos qos)
    (h : Kept lib cfg s) : Kept lib cfg (s.subscribe lib.paho topic qos).2 := by
  unfold subscribe
  split
  · exact h
  · rename_i hguard
    have hopen : s.handle = true ∧ topic ≠ "" := by simpa using hguard
    have hasked : Kept lib cfg
        ({ s with opDone := false, opRc := mqttAsyncFailure }.call lib.paho
          (.subscribe topic (clampQos qos))) :=
      Kept.call (s := { s with opDone := false, opRc := mqttAsyncFailure }) h hopen.1 rfl
        ⟨hopen.2, hmapped⟩
    dsimp only
    split
    · exact hasked
    · have hwaited := hasked.outside (c := .wait 2000) rfl trivial
      split
      · exact kept_captureIfEmpty hwaited _
      · exact hwaited

theorem kept_publish {command : MqttCommandMapping} (hcommand : command ∈ cfg.targets)
    (hwildcard : topicHasWildcard command.topic = false) (parameter : Double)
    (h : Kept lib cfg s) :
    Kept lib cfg
      (s.publish lib.paho command.topic
        (MqttIndustrialAdapter.substituteValue lib.text command.bodyTemplate parameter)
        command.qos command.retain).2 := by
  unfold publish
  split
  · exact h
  · rename_i hguard
    have hopen : s.handle = true ∧ command.topic ≠ "" := by simpa using hguard
    have hsent := h.call hopen.1
      (c := .sendMessage command.topic
        (MqttIndustrialAdapter.substituteValue lib.text command.bodyTemplate parameter)
        (clampQos command.qos) command.retain) rfl
      ⟨hopen.2, hwildcard, command, parameter, hcommand, rfl, rfl, rfl, rfl⟩
    dsimp only
    split
    · exact hsent
    · have hwaited := hsent.call (c := .waitForCompletion)
        ((handle_call _ _ _).trans hopen.1) rfl trivial
      split
      · exact hwaited
      · exact hwaited

theorem kept_takeMessage (h : Kept lib cfg s) : Kept lib cfg s.takeMessage.2 := by
  unfold takeMessage
  split
  · exact kept_captureIfEmpty h _
  · split
    · exact h
    · exact h

theorem kept_receive (timeoutMs : Nat) (h : Kept lib cfg s) :
    Kept lib cfg (s.receive lib.paho timeoutMs).2 := by
  have hlocked := h.outside (c := .lock) rfl trivial
  unfold receive
  dsimp only
  split
  · exact kept_captureIfEmpty hlocked _
  · split
    · rename_i hhandle
      have hasked := hlocked.call hhandle (c := .isConnected) rfl trivial
      split
      · exact kept_captureIfEmpty hasked _
      · exact kept_takeMessage (hasked.outside (c := .wait timeoutMs) rfl trivial)
    · exact kept_takeMessage (hlocked.outside (c := .wait timeoutMs) rfl trivial)

end MqttSession

namespace MqttIndustrialAdapter

open MqttSession

variable {lib : MqttLib} {cfg : MqttAdapterConfig} {a : MqttIndustrialAdapter}

/-- An adapter that uses Paho as it should.  It has a client only while it is
connected. -/
structure InUse (lib : MqttLib) (cfg : MqttAdapterConfig) (a : MqttIndustrialAdapter) :
    Prop where
  kept : Kept lib cfg a.session
  idle : a.connectionState ≠ .connected -> a.session.handle = false

theorem inUse_enterFault (h : Kept lib cfg a.session) (reason : String)
    (ids : ClientIds) : InUse lib cfg (a.enterFault lib.paho reason ids).1 :=
  ⟨(kept_close h).1, fun _ => (kept_close h).2⟩

/-- A session that is used leaves the adapter connected. -/
theorem inUse_withSession {s : MqttSession} (hs : Kept lib cfg s)
    (hstate : a.connectionState = .connected) : InUse lib cfg (a.withSession s) :=
  ⟨hs, fun hother => absurd hstate hother⟩

theorem kept_subscribeSubs {subs : List Sub}
    (hsubs : forall sub, sub ∈ subs ->
      exists t, t ∈ cfg.equipment.flatMap subscribedTopics ∧ t.topic = sub.topic ∧
        clampQos t.qos = clampQos sub.qos)
    {s : MqttSession} (h : Kept lib cfg s) :
    Kept lib cfg (untilFailure (subscribeSub lib.paho) subs s).2 := by
  induction subs generalizing s with
  | nil => exact h
  | cons sub rest ih =>
      have hsub := kept_subscribe (hsubs sub List.mem_cons_self) h
      unfold untilFailure
      split
      · rename_i t ht
        rw [show s.subscribe lib.paho sub.topic sub.qos = _ from ht] at hsub
        exact ih (fun other hother => hsubs other (List.mem_cons_of_mem _ hother)) hsub
      · rename_i t ht
        rw [show s.subscribe lib.paho sub.topic sub.qos = _ from ht] at hsub
        exact hsub

theorem inUse_subscribeMappedTopics (hconfig : a.config = cfg)
    (hvalid : invalidTopic cfg = none) (h : Kept lib cfg a.session) (ids : ClientIds) :
    Kept lib cfg (a.subscribeMappedTopics lib.paho ids).2.1.session ∧
      ((a.subscribeMappedTopics lib.paho ids).1 = false ->
        (a.subscribeMappedTopics lib.paho ids).2.1.session.handle = false) := by
  have hsubs : forall sub, sub ∈ subscriptions cfg ->
      exists t, t ∈ cfg.equipment.flatMap subscribedTopics ∧ t.topic = sub.topic ∧
        clampQos t.qos = clampQos sub.qos :=
    fun sub hsub => ((merged_subscriptions hvalid).greatest sub hsub).1
  have hused := kept_subscribeSubs hsubs h
  unfold subscribeMappedTopics
  rw [hconfig, collectSubs_of_valid hvalid]
  dsimp only
  split
  · rename_i s hs
    rw [hs] at hused
    exact ⟨(kept_close hused).1, fun _ => (kept_close hused).2⟩
  · rename_i s hs
    rw [hs] at hused
    exact ⟨hused, fun hok => Bool.noConfusion hok⟩

theorem inUse_openSession (hconfig : a.config = cfg) (hvalid : invalidTopic cfg = none)
    {clientId : String} (hclient : cfg.clientId ≠ "" -> clientId = cfg.clientId)
    (h : Kept lib cfg a.session) (ids : ClientIds) :
    Kept lib cfg (a.openSession lib.paho clientId ids).2.1.session ∧
      ((a.openSession lib.paho clientId ids).1 = false ->
        (a.openSession lib.paho clientId ids).2.1.session.handle = false) := by
  have hconnected : Kept lib cfg ((a.session.close lib.paho).connect lib.paho
      (sessionConfig cfg clientId)).2 := kept_connect rfl hclient (kept_close h).1
  unfold openSession
  rw [hconfig]
  split
  · rename_i s hs
    rw [hs] at hconnected
    exact ⟨(kept_close hconnected).1, fun _ => (kept_close hconnected).2⟩
  · rename_i s hs
    rw [hs] at hconnected
    have hsession : (a.withSession s).bindOrReuse.session = s := by
      unfold bindOrReuse
      split <;> rfl
    have hsame : (a.withSession s).bindOrReuse.config = cfg := by
      unfold bindOrReuse
      split <;> exact hconfig
    have hsubscribed := inUse_subscribeMappedTopics hsame hvalid
      (by rw [hsession]; exact hconnected) ids
    split
    · rename_i b ids' hb
      rw [hb] at hsubscribed
      exact hsubscribed
    · rename_i b ids' hb
      rw [hb] at hsubscribed
      exact ⟨hsubscribed.1, fun hok => Bool.noConfusion hok⟩

theorem inUse_connect (hbinds : Binds cfg a) (h : InUse lib cfg a) (ids : ClientIds) :
    InUse lib cfg (a.connect lib.paho ids).2.1 := by
  by_cases hstate : a.connectionState = .connected
  · unfold connect
    rw [if_pos hstate]
    exact h
  · have hopened : (a.connect lib.paho ids).1 = true ->
        (a.connect lib.paho ids).2.1.connectionState = .connected := by
      have hout := connect_outcome lib.paho hstate ids
      generalize a.connect lib.paho ids = r at hout ⊢
      rcases r with ⟨ok, b, ids'⟩
      intro hok
      cases hout with
      | refused serial hfaults => cases hok
      | failed serial hfaults => cases hok
      | opened serial sameId sameConfig connected => exact connected
    have hsession : Kept lib cfg (a.connect lib.paho ids).2.1.session ∧
        ((a.connect lib.paho ids).1 = false ->
          (a.connect lib.paho ids).2.1.session.handle = false) := by
      have hclosed := kept_close h.kept
      unfold connect
      rw [if_neg hstate]
      split
      · exact ⟨hclosed.1, fun _ => hclosed.2⟩
      · split
        · exact ⟨hclosed.1, fun _ => hclosed.2⟩
        · rename_i hvalid
          rw [hbinds.sameConfig] at hvalid
          have hclient : cfg.clientId ≠ "" ->
              (a.resolveClientId ids).1 = cfg.clientId := by
            intro hne
            unfold resolveClientId
            rw [hbinds.sameConfig, if_pos hne]
          unfold claimClientId
          dsimp only
          split
          · rename_i b ids' hclaim
            split at hclaim <;> cases hclaim
            exact ⟨hclosed.1, fun _ => hclosed.2⟩
          · rename_i b ids' hclaim
            split at hclaim <;> cases hclaim
            exact inUse_openSession
              (a := { a with activeClientId := (a.resolveClientId ids).1 })
              hbinds.sameConfig hvalid hclient h.kept _
    refine ⟨hsession.1, fun hother => hsession.2 ?_⟩
    exact Bool.eq_false_of_not_eq_true (fun hok => hother (hopened hok))

theorem inUse_pollLoop (n timeoutMs : Nat) (ids : ClientIds)
    (hstate : a.connectionState = .connected) (h : Kept lib cfg a.session) :
    InUse lib cfg (pollLoop lib.text lib.paho n timeoutMs a ids).1 := by
  induction n generalizing timeoutMs a with
  | zero => exact ⟨h, fun hother => absurd hstate hother⟩
  | succ n ih =>
      have hreceived := kept_receive timeoutMs h
      unfold pollLoop
      split
      · rename_i s hs
        rw [hs] at hreceived
        exact inUse_enterFault (a := a.withSession s) hreceived _ ids
      · rename_i s hs
        rw [hs] at hreceived
        have hasked := kept_connected hreceived
        split
        · rename_i t ht
          rw [ht] at hasked
          exact inUse_enterFault (a := a.withSession t) hasked _ ids
        · rename_i t ht
          rw [ht] at hasked
          exact inUse_withSession hasked hstate
      · rename_i message s hs
        rw [hs] at hreceived
        exact ih 0 hstate hreceived

theorem inUse_runCommand (command : String) (parameter : Double)
    {m : MqttEquipmentMapping} (hm : m ∈ cfg.equipment) (h : InUse lib cfg a)
    (ids : ClientIds) :
    InUse lib cfg (runCommand lib.text lib.paho command parameter m a ids).2.1 := by
  unfold runCommand runMapped
  split
  · exact h
  · exact h
  · rename_i hstate
    split
    · exact h
    · rename_i mapped hfind
      have htarget : mapped ∈ cfg.targets :=
        List.mem_flatMap.mpr ⟨m, hm, List.mem_of_find?_eq_some hfind⟩
      dsimp only
      split
      · exact h
      · rename_i htopic
        have hwildcard : topicHasWildcard mapped.topic = false := by
          simpa using fun hother => htopic (Or.inr hother)
        have hpublished := kept_publish htarget hwildcard parameter h.kept
        unfold publishCommand
        dsimp only
        rcases hpublish : a.session.publish lib.paho _ _ _ _ with ⟨ok, s⟩
        rw [hpublish] at hpublished
        cases ok with
        | false => exact inUse_enterFault (a := a.withSession s) hpublished _ ids
        | true => exact inUse_withSession hpublished hstate

theorem inUse_operate {event : AdapterEvent MqttLib PahoCallback} (hevent : event.device = lib)
    (ids : ClientIds) (hbinds : Binds cfg a) (h : InUse lib cfg a) :
    InUse lib cfg (operate event (a, ids)).2.1 := by
  rcases event with ⟨operation, d⟩
  cases hevent
  cases operation with
  | connect => exact inUse_connect hbinds h ids
  | disconnect => exact ⟨(kept_close h.kept).1, fun _ => (kept_close h.kept).2⟩
  | poll =>
      show InUse d cfg (a.poll d.text d.paho ids).1
      by_cases hstate : a.connectionState = .connected
      · rw [poll_of_connected d.text d.paho hstate]
        exact inUse_pollLoop _ _ ids hstate h.kept
      · unfold poll
        rw [if_pos hstate]
        split
        · exact ⟨h.kept, h.idle⟩
        · exact h
  | execute equipmentId command parameter =>
      cases hr : IndustrialAdapter.execute d a equipmentId command parameter ids with
      | none =>
          rw [operate_execute_of_none hr]
          exact h
      | some r =>
          rw [operate_execute_of_some hr]
          rcases execute_some hr with ⟨b, hb, hrun⟩
          have hm : b.mapping ∈ cfg.equipment := by
            have hmem : b.mapping ∈ a.core.bound.map BoundEquipment.mapping :=
              List.mem_map_of_mem (ProtocolAdapter.mem_bound_of_boundById hb)
            rcases hbinds.bound with hnone | hmappings
            · rw [hnone] at hmem
              cases hmem
            · rw [hmappings] at hmem
              exact hmem
          have hcommand := inUse_runCommand command parameter hm h ids
          rw [hrun] at hcommand
          exact hcommand
  | stimulate c =>
      refine ⟨kept_callback h.kept c, fun hother => ?_⟩
      exact (handle_callback a.session c).trans (h.idle hother)

/-- What the use of Paho comes to: every call is in its place and permitted by the
configuration, a client that is created is destroyed once or is the one of the session, an
adapter that is not connected has none, and the destructor leaves none behind. -/
structure UsesProperly (lib : MqttLib) (cfg : MqttAdapterConfig)
    (a : MqttIndustrialAdapter) : Prop where
  proper : (PahoCall.usage lib cfg).Proper a.session.calls
  balanced :
    (PahoCall.usage lib cfg).count .acquire a.session.calls =
      (PahoCall.usage lib cfg).count .release a.session.calls + a.session.handle.toNat
  idle : a.connectionState ≠ .connected -> a.session.handle = false
  destroyed :
    (PahoCall.usage lib cfg).count .acquire (a.session.close lib.paho).calls =
      (PahoCall.usage lib cfg).count .release (a.session.close lib.paho).calls

theorem InUse.usesProperly (h : InUse lib cfg a) : UsesProperly lib cfg a := by
  have hkept := h.kept
  have hbalanced := hkept.proper.balanced
  rw [hkept.agrees] at hbalanced
  rcases kept_close hkept with ⟨hclosed, hnone⟩
  unfold Kept at hclosed
  rw [hnone] at hclosed
  exact ⟨hkept.proper, hbalanced, h.idle, hclosed.nothing_left⟩

/-- Whatever operations and callbacks run over one library, which may answer as it likes,
the adapter uses it properly. -/
def AlwaysUsesProperly (cfg : MqttAdapterConfig) (a : MqttIndustrialAdapter) : Prop :=
  forall (lib : MqttLib) (es : List (AdapterEvent MqttLib PahoCallback)) (ids : ClientIds),
    (forall event, event ∈ es -> event.device = lib) ->
      UsesProperly lib cfg ((operations MqttIndustrialAdapter).run es (a, ids)).1

theorem alwaysUsesProperly_new (id : String) (cfg : MqttAdapterConfig) :
    AlwaysUsesProperly cfg (new id cfg) := by
  intro lib es ids hes
  have hstep : forall (event : AdapterEvent MqttLib PahoCallback)
      (s : MqttIndustrialAdapter × ClientIds), event.device = lib ->
        (Binds cfg s.1 ∧ InUse lib cfg s.1) ->
          (Binds cfg ((operations MqttIndustrialAdapter).step event s).2.1 ∧
            InUse lib cfg ((operations MqttIndustrialAdapter).step event s).2.1) :=
    fun event s hevent hs =>
      ⟨stable_binds cfg event s.1 s.2 hs.1, inUse_operate hevent s.2 hs.1 hs.2⟩
  have hstart : Binds cfg (new id cfg) ∧ InUse lib cfg (new id cfg) :=
    ⟨binds_new id cfg, Usage.holds_nil _, fun _ => rfl⟩
  have hrun := Machine.run_invariant hstep hstart (Machine.admissible_of_forall (_, ids) hes)
  exact hrun.2.usesProperly

end MqttIndustrialAdapter

end VirtualFactory
