import VirtualFactory.Industrial.Mqtt.Bindings

/-!
# From the broker to the machines

What becomes of the messages that arrive: the session keeps them in a bounded mailbox,
a poll takes them from there in order, and closing the session throws away the ones
that still wait.
-/

namespace VirtualFactory

open Foundation IndustrialAdapter

/-!
# The mailbox of the session
-/

namespace MqttSession

theorem closing_captureIfEmpty (s : MqttSession) (text : String) :
    (s.captureIfEmpty text).closing = s.closing ∧
      (s.captureIfEmpty text).mailbox = s.mailbox := by
  unfold captureIfEmpty
  split <;> exact ⟨rfl, rfl⟩

theorem heard_captureIfEmpty (s : MqttSession) (text : String) :
    (s.captureIfEmpty text).heard = s.heard := by
  unfold captureIfEmpty
  split <;> rfl

theorem callback_mailbox (s : MqttSession) (c : PahoCallback) :
    (s.callback c).closing = s.closing ∧
      (s.callback c).mailbox =
        if s.closing then s.mailbox else s.mailbox.arriveAll c.messages := by
  cases c with
  | connectionLost cause =>
      show (s.onConnectionLost cause).closing = _ ∧
        (s.onConnectionLost cause).mailbox = _
      unfold onConnectionLost
      split
      · exact ⟨rfl, rfl⟩
      · exact closing_captureIfEmpty _ _
  | message message =>
      show (s.onMessage message).closing = _ ∧ (s.onMessage message).mailbox = _
      unfold onMessage
      split <;> exact ⟨rfl, rfl⟩
  | connectSuccess => exact ⟨rfl, (ite_self s.mailbox).symm⟩
  | connectFailure response => exact ⟨rfl, (ite_self s.mailbox).symm⟩
  | opSuccess => exact ⟨rfl, (ite_self s.mailbox).symm⟩
  | opFailure response => exact ⟨rfl, (ite_self s.mailbox).symm⟩

theorem call_mailbox (paho : Paho) (c : PahoCall) (s : MqttSession) :
    (s.call paho c).closing = s.closing ∧
      exists messages,
        messages = (if s.closing then []
          else (paho.callbacks (c :: s.calls)).flatMap PahoCallback.messages) ∧
        (s.call paho c).heard = s.heard ++ messages ∧
        (s.call paho c).mailbox = s.mailbox.arriveAll messages := by
  unfold call
  generalize paho.callbacks (c :: s.calls) = cs
  have hstart : { s with calls := c :: s.calls }.closing = s.closing ∧
      { s with calls := c :: s.calls }.heard = s.heard ∧
      { s with calls := c :: s.calls }.mailbox = s.mailbox := ⟨rfl, rfl, rfl⟩
  generalize { s with calls := c :: s.calls } = t at hstart ⊢
  rw [← hstart.1, ← hstart.2.1, ← hstart.2.2]
  clear hstart
  induction cs generalizing t with
  | nil => exact ⟨rfl, [], (ite_self []).symm, (List.append_nil _).symm, rfl⟩
  | cons d rest ih =>
      have hd := callback_mailbox t d
      rcases ih (t.callback d) with ⟨hclosing, messages, hmessages, hheard, hmailbox⟩
      rw [hd.1] at hclosing hmessages
      refine ⟨hclosing, (if t.closing then [] else d.messages) ++ messages, ?_, ?_, ?_⟩
      · rw [hmessages]
        split
        · rfl
        · rfl
      · rw [List.foldl_cons, hheard, ← List.append_assoc]
        show (if t.closing then t.heard else t.heard ++ d.messages) ++ messages = _
        split
        · rw [List.append_nil]
        · rfl
      · rw [List.foldl_cons, hmailbox, hd.2, Mailbox.arriveAll_append]
        split
        · rfl
        · rfl

/-- The session has only collected messages, those that it has heard. -/
structure Collects (s t : MqttSession) : Prop where
  closing : t.closing = s.closing
  mailbox : exists messages, t.heard = s.heard ++ messages ∧
    t.mailbox = s.mailbox.arriveAll messages

theorem collects_of_eq {s t : MqttSession} (hclosing : t.closing = s.closing)
    (hheard : t.heard = s.heard) (hmailbox : t.mailbox = s.mailbox) : Collects s t :=
  ⟨hclosing, [], hheard.trans (List.append_nil _).symm, hmailbox⟩

theorem collects_refl (s : MqttSession) : Collects s s :=
  collects_of_eq rfl rfl rfl

theorem Collects.trans {s t u : MqttSession} (hst : Collects s t)
    (htu : Collects t u) : Collects s u := by
  rcases hst.mailbox with ⟨first, hheard, hfirst⟩
  rcases htu.mailbox with ⟨second, hheard', hsecond⟩
  refine ⟨htu.closing.trans hst.closing, first ++ second, ?_, ?_⟩
  · rw [hheard', hheard, List.append_assoc]
  · rw [Mailbox.arriveAll_append, ← hfirst]
    exact hsecond

theorem Collects.set {s t : MqttSession} (h : Collects s t) (u : MqttSession)
    (hclosing : u.closing = t.closing) (hheard : u.heard = t.heard)
    (hmailbox : u.mailbox = t.mailbox) : Collects s u :=
  h.trans (collects_of_eq hclosing hheard hmailbox)

theorem collects_call (paho : Paho) (c : PahoCall) (s : MqttSession) :
    Collects s (s.call paho c) := by
  rcases call_mailbox paho c s with ⟨hclosing, messages, _, hheard, hmailbox⟩
  exact ⟨hclosing, messages, hheard, hmailbox⟩

theorem Collects.call {s t : MqttSession} (h : Collects s t) (paho : Paho)
    (c : PahoCall) : Collects s (t.call paho c) :=
  h.trans (collects_call paho c t)

theorem Collects.captureIfEmpty {s t : MqttSession} (h : Collects s t)
    (text : String) : Collects s (t.captureIfEmpty text) :=
  h.set _ (closing_captureIfEmpty t text).1 (heard_captureIfEmpty t text)
    (closing_captureIfEmpty t text).2

/-- While the session is closed nothing arrives, and what waits is thrown away. -/
theorem close_mailbox (paho : Paho) (s : MqttSession) :
    (s.close paho).closing = false ∧ (s.close paho).heard = s.heard ∧
      (s.close paho).mailbox = s.mailbox.discardAll := by
  have hcall : forall (c : PahoCall) (t : MqttSession), t.closing = true ->
      (t.call paho c).closing = true ∧ (t.call paho c).heard = t.heard ∧
        (t.call paho c).mailbox = t.mailbox := by
    intro c t ht
    rcases call_mailbox paho c t with ⟨hclosing, messages, hnone, hheard, hmailbox⟩
    rw [ht, if_pos rfl] at hnone
    rw [hnone, List.append_nil] at hheard
    rw [hnone] at hmailbox
    exact ⟨hclosing.trans ht, hheard, hmailbox⟩
  refine ⟨rfl, ?_⟩
  unfold close
  dsimp only
  split
  · have hquery := hcall .isConnected { s with closing := true } rfl
    split
    · have hdisconnect := hcall .disconnect _ hquery.1
      have hdestroy := hcall .destroy _ hdisconnect.1
      rw [hdestroy.2.1, hdestroy.2.2, hdisconnect.2.1, hdisconnect.2.2, hquery.2.1,
        hquery.2.2]
      exact ⟨rfl, rfl⟩
    · have hdestroy := hcall .destroy _ hquery.1
      rw [hdestroy.2.1, hdestroy.2.2, hquery.2.1, hquery.2.2]
      exact ⟨rfl, rfl⟩
  · exact ⟨rfl, rfl⟩

theorem collects_connected (paho : Paho) (s : MqttSession) :
    Collects s (s.connected paho).2 := by
  unfold connected
  split
  · exact collects_refl s
  · exact collects_call paho .isConnected s

theorem collects_subscribe (paho : Paho) (topic : String) (qos : Int)
    (s : MqttSession) : Collects s (s.subscribe paho topic qos).2 := by
  have hstart := collects_refl s
  unfold subscribe
  split
  · exact hstart.set _ rfl rfl rfl
  · dsimp only
    have hcall := (hstart.set { s with opDone := false, opRc := mqttAsyncFailure }
      rfl rfl rfl).call paho (.subscribe topic (clampQos qos))
    split
    · exact hcall.set _ rfl rfl rfl
    · have hwait := hcall.call paho (.wait 2000)
      split
      · exact hwait.captureIfEmpty _
      · exact hwait

theorem collects_publish (paho : Paho) (topic payload : String) (qos : Int)
    (retain : Bool) (s : MqttSession) :
    Collects s (s.publish paho topic payload qos retain).2 := by
  have hstart := collects_refl s
  unfold publish
  split
  · exact hstart.set _ rfl rfl rfl
  · dsimp only
    have hcall := hstart.call paho
      (.sendMessage topic payload (clampQos qos) retain)
    split
    · exact hcall.set _ rfl rfl rfl
    · have hwait := hcall.call paho .waitForCompletion
      split
      · exact hwait.set _ rfl rfl rfl
      · exact hwait

theorem connect_mailbox (paho : Paho) (config : MqttSessionConfig) (s : MqttSession)
    (h : (s.connect paho config).1 = true) :
    Collects (s.close paho) (s.connect paho config).2 := by
  have hstart := (collects_refl (s.close paho)).set
    { s.close paho with
      lastError := "", closing := false, lost := false, isConnected := false }
    (close_mailbox paho s).1.symm rfl rfl
  unfold connect at h ⊢
  dsimp only at h ⊢
  split
  · rename_i hmissing
    rw [if_pos hmissing] at h
    cases h
  · rename_i hmissing
    rw [if_neg hmissing] at h
    have hcreate := hstart.call paho
      (.createWithOptions (serverUri config) config.clientId)
    split
    · rename_i hfailed
      rw [if_pos hfailed] at h
      cases h
    · rename_i hcreated
      rw [if_neg hcreated] at h
      generalize MqttSession.call paho _ _ = created at hcreate h ⊢
      have hset := (hcreate.set { created with handle := true } rfl rfl rfl).call paho
        .setCallbacks
      split
      · rename_i hfailed
        rw [if_pos hfailed] at h
        cases h
      · rename_i hok
        rw [if_neg hok] at h
        unfold awaitConnect at h ⊢
        dsimp only at h ⊢
        generalize MqttSession.call paho _ _ = set at hset h ⊢
        have hrequest := (hset.set
          { set with connectDone := false, connectRc := mqttAsyncFailure } rfl rfl
          rfl).call paho (.connect (connectOptions config))
        split
        · rename_i hfailed
          rw [if_pos hfailed] at h
          cases h
        · rename_i hrequested
          rw [if_neg hrequested] at h
          generalize ((if 0 < config.connectTimeoutSeconds then
            config.connectTimeoutSeconds else 2) + 3) * 1000 = timeoutMs at h ⊢
          split
          · rename_i hfailed
            rw [if_pos hfailed] at h
            cases h
          · exact hrequest.call paho _

/-- What a receive leaves: only a message that it hands out is taken from the
mailbox, and it finds nothing only when the mailbox is empty. -/
inductive Receives (s : MqttSession) : MqttIncoming -> MqttSession -> Prop
  | error {t : MqttSession} (h : Collects s t) : Receives s .error t
  | nothing {t : MqttSession} (h : Collects s t) (hempty : t.mailbox.queue = []) :
      Receives s .nothing t
  | received {t u : MqttSession} (message : MqttMessage) (h : Collects s t)
      (htake : t.mailbox.take = (some message, u.mailbox))
      (hclosing : u.closing = t.closing) (hheard : u.heard = t.heard) :
      Receives s (.received message) u

theorem receives_takeMessage {s t : MqttSession} (h : Collects s t) :
    Receives s t.takeMessage.1 t.takeMessage.2 := by
  unfold takeMessage
  split
  · exact Receives.error (h.captureIfEmpty _)
  · split
    · rename_i m htake
      rcases t.mailbox.take_cases with ⟨hqueue, _⟩ | ⟨x, _, hsome, _⟩
      · exact Receives.nothing h hqueue
      · rw [htake] at hsome
        cases hsome
    · rename_i message mailbox htake
      exact Receives.received message h htake rfl rfl

theorem receives_receive (paho : Paho) (timeoutMs : Nat) (s : MqttSession) :
    Receives s (s.receive paho timeoutMs).1 (s.receive paho timeoutMs).2 := by
  have hlock := collects_call paho .lock s
  unfold receive
  dsimp only
  split
  · exact Receives.error (hlock.captureIfEmpty _)
  · split
    · have hquery := hlock.call paho .isConnected
      split
      · exact Receives.error ((hquery.captureIfEmpty _).set _ rfl rfl rfl)
      · exact receives_takeMessage (hquery.call paho _)
    · exact receives_takeMessage (hlock.call paho _)

end MqttSession

/-!
# What the machines have been told
-/

namespace MqttIndustrialAdapter

open MqttSession (Collects Receives)

/-- Since a session was closed, the messages that were received have been applied to the
machines in order, nothing has been thrown away, and what has arrived is what callbacks
brought. -/
structure Delivered (text : TextLib) (before : MqttSession)
    (start : List (BoundEquipment MqttEquipmentMapping))
    (a : MqttIndustrialAdapter) : Prop where
  listening : a.session.closing = false
  heard : exists messages, a.session.heard = before.heard ++ messages ∧
    a.session.mailbox.arrivals = before.mailbox.arrivals ++ messages
  gone : exists gone, a.session.mailbox.removed = before.mailbox.discardAll.removed ++ gone ∧
    (forall e, e ∈ gone -> e.1 ≠ .discarded) ∧
    a.core.bound =
      start.map (fun b => (Mailbox.withFate .received gone).foldl (applyTo text) b)

theorem Delivered.collect {text : TextLib} {before : MqttSession}
    {start : List (BoundEquipment MqttEquipmentMapping)}
    {a : MqttIndustrialAdapter} (h : Delivered text before start a)
    {s : MqttSession} (hs : Collects a.session s) :
    Delivered text before start (a.withSession s) := by
  rcases h.heard with ⟨earlier, hearlier, harrivals⟩
  rcases h.gone with ⟨gone, hremoved, hkept, hbound⟩
  rcases hs.mailbox with ⟨messages, hheard, hmailbox⟩
  rcases a.session.mailbox.removed_arriveAll messages with ⟨dropped, hdropped⟩
  refine ⟨hs.closing.trans h.listening, ⟨earlier ++ messages, ?_, ?_⟩,
    gone ++ dropped.map (fun x => (.evicted, x)), ?_, ?_, ?_⟩
  · show s.heard = _
    rw [hheard, hearlier, List.append_assoc]
  · show s.mailbox.arrivals = _
    rw [hmailbox, Mailbox.arrivals_arriveAll, harrivals, List.append_assoc]
  · show s.mailbox.removed = _
    rw [hmailbox, hdropped, hremoved, List.append_assoc]
  · intro e he
    rcases List.mem_append.mp he with hold | hnew
    · exact hkept e hold
    · rcases List.mem_map.mp hnew with ⟨x, _, rfl⟩
      exact fun hfate => Fate.noConfusion hfate
  · rw [Mailbox.withFate_append, Mailbox.withFate_map_of_ne (by decide),
      List.append_nil]
    exact hbound

theorem Delivered.receive {text : TextLib} {before : MqttSession}
    {start : List (BoundEquipment MqttEquipmentMapping)}
    {a : MqttIndustrialAdapter} (h : Delivered text before start a)
    {s : MqttSession} {message : MqttMessage}
    (hs : Receives a.session (.received message) s) :
    Delivered text before start ((a.withSession s).applyMessage text message) := by
  cases hs with
  | received _ hcollects htake hclosing hheard =>
      rename_i t
      have hat := h.collect hcollects
      rcases hat.heard with ⟨earlier, hearlier, harrivals⟩
      rcases hat.gone with ⟨gone, hremoved, hkept, hbound⟩
      have htaken := t.mailbox.arrivals_take
      rcases t.mailbox.take_cases with ⟨_, hnone⟩ | ⟨x, _, hsome, hafter⟩
      · rw [htake] at hnone
        cases hnone
      · rw [htake] at hsome hafter htaken
        cases hsome
        refine ⟨hclosing.trans hat.listening, ⟨earlier, hheard.trans hearlier,
          htaken.trans harrivals⟩, gone ++ [(.received, message)], ?_, ?_, ?_⟩
        · show s.mailbox.removed = _
          have hremoved' : t.mailbox.removed = before.mailbox.discardAll.removed ++ gone :=
            hremoved
          rw [hafter, hremoved', List.append_assoc]
        · intro e he
          rcases List.mem_append.mp he with hold | hnew
          · exact hkept e hold
          · rw [List.mem_singleton.mp hnew]
            exact fun hfate => Fate.noConfusion hfate
        · have hbound' : a.core.bound = _ := hbound
          show a.core.bound.map _ = _
          rw [hbound', List.map_map, Mailbox.withFate_append]
          apply List.map_congr_left
          intro b _
          rw [List.foldl_append]
          rfl

/-!
# Connecting
-/

theorem subscribeMappedTopics_session (paho : Paho) (a : MqttIndustrialAdapter)
    (ids : ClientIds) (h : (a.subscribeMappedTopics paho ids).1 = true) :
    Collects a.session (a.subscribeMappedTopics paho ids).2.1.session := by
  unfold subscribeMappedTopics at h ⊢
  split at h
  · cases h
  · rename_i subs _
    have hloop : Collects a.session
        (untilFailure (subscribeSub paho) subs a.session).2 :=
      untilFailure_invariant
        (fun sub s hs => hs.trans (s.collects_subscribe paho sub.topic sub.qos))
        subs a.session.collects_refl
    split at h
    · cases h
    · rename_i s hs
      rw [hs] at hloop
      exact hloop

theorem openSession_session (paho : Paho) (clientId : String)
    (a : MqttIndustrialAdapter) (ids : ClientIds)
    (h : (a.openSession paho clientId ids).1 = true) :
    Collects ((a.session.close paho).close paho)
      (a.openSession paho clientId ids).2.1.session := by
  have hconnect := (a.session.close paho).connect_mailbox paho
    (sessionConfig a.config clientId)
  unfold openSession at h ⊢
  split at h
  · cases h
  · rename_i s hs
    rw [hs] at hconnect
    have htopics := subscribeMappedTopics_session paho (a.withSession s).bindOrReuse ids
    split at h
    · cases h
    · rename_i b ids' hb
      rw [hb] at htopics
      have hstart : (a.withSession s).bindOrReuse.session = s := by
        rw [bindOrReuse_eq]
        rfl
      rw [hstart] at htopics
      exact (hconnect rfl).trans (htopics rfl)

theorem connect_session (paho : Paho) {a : MqttIndustrialAdapter} (ids : ClientIds)
    (hstate : a.connectionState ≠ .connected) (h : (a.connect paho ids).1 = true) :
    Collects ((a.session.close paho).close paho) (a.connect paho ids).2.1.session := by
  unfold connect at h ⊢
  rw [if_neg hstate] at h ⊢
  split at h
  · cases h
  · rename_i hhost
    rw [if_neg hhost]
    split at h
    · cases h
    · dsimp only at h ⊢
      split at h
      · cases h
      · rename_i b ids' hclaim
        unfold claimClientId at hclaim
        split at hclaim <;> cases hclaim
        exact openSession_session paho _ _ _ h

theorem opened_of_connect (paho : Paho) {a : MqttIndustrialAdapter} (ids : ClientIds)
    (hstate : a.connectionState ≠ .connected) (h : (a.connect paho ids).1 = true) :
    (a.connect paho ids).2.1.connectionState = .connected ∧
      (a.connect paho ids).2.1.core.bound = a.boundForSession := by
  have hout := connect_outcome paho hstate ids
  generalize a.connect paho ids = r at hout h ⊢
  rcases r with ⟨ok, b, ids'⟩
  cases hout with
  | refused => cases h
  | failed => cases h
  | opened _ _ _ connected _ _ hbound => exact ⟨connected, hbound⟩

theorem delivered_connect (text : TextLib) (paho : Paho) {a : MqttIndustrialAdapter}
    (ids : ClientIds) (hstate : a.connectionState ≠ .connected)
    (h : (a.connect paho ids).1 = true) :
    Delivered text a.session a.boundForSession (a.connect paho ids).2.1 := by
  have hsession := connect_session paho ids hstate h
  have hbound := (opened_of_connect paho ids hstate h).2
  have hfirst := a.session.close_mailbox paho
  have hsecond := (a.session.close paho).close_mailbox paho
  have hempty : (a.session.mailbox.discardAll).discardAll.removed =
      a.session.mailbox.discardAll.removed := List.append_nil _
  rcases hsession.mailbox with ⟨messages, hheard, hmailbox⟩
  rcases ((a.session.close paho).close paho).mailbox.removed_arriveAll messages with
    ⟨dropped, hdropped⟩
  refine ⟨hsession.closing.trans hsecond.1, ⟨messages, ?_, ?_⟩,
    dropped.map (fun x => (.evicted, x)), ?_, ?_, ?_⟩
  · rw [hheard, hsecond.2.1, hfirst.2.1]
  · rw [hmailbox, Mailbox.arrivals_arriveAll, hsecond.2.2, hfirst.2.2,
      Mailbox.arrivals_discardAll, Mailbox.arrivals_discardAll]
  · rw [hmailbox, hdropped, hsecond.2.2, hfirst.2.2, hempty]
  · intro e he
    rcases List.mem_map.mp he with ⟨x, _, rfl⟩
    exact fun hfate => Fate.noConfusion hfate
  · rw [hbound, Mailbox.withFate_map_of_ne (by decide)]
    exact (List.map_id _).symm

/-!
# Polling
-/

/-- A poll ends with a receive that finds the mailbox empty. -/
inductive FindsEmpty (text : TextLib) (paho : Paho) :
    Nat -> Nat -> MqttIndustrialAdapter -> MqttIndustrialAdapter -> Prop
  | here {n timeoutMs : Nat} {a : MqttIndustrialAdapter} {s : MqttSession}
      (h : a.session.receive paho timeoutMs = (.nothing, s)) :
      FindsEmpty text paho (n + 1) timeoutMs a (a.withSession s)
  | later {n timeoutMs : Nat} {a b : MqttIndustrialAdapter} {s : MqttSession}
      {message : MqttMessage}
      (h : a.session.receive paho timeoutMs = (.received message, s))
      (hrest : FindsEmpty text paho n 0
        ((a.withSession s).applyMessage text message) b) :
      FindsEmpty text paho (n + 1) timeoutMs a b

/-- When a poll finds the mailbox empty, everything has been applied that it was
told, and the poll adds nothing to it. -/
theorem FindsEmpty.spec {text : TextLib} {paho : Paho} {n timeoutMs : Nat}
    {before : MqttSession}
    {start : List (BoundEquipment MqttEquipmentMapping)}
    {a b : MqttIndustrialAdapter} (h : FindsEmpty text paho n timeoutMs a b)
    (ha : Delivered text before start a) (ids : ClientIds) :
    Delivered text before start b ∧ b.session.mailbox.queue = [] ∧
      (pollLoop text paho n timeoutMs a ids).1.core.bound = b.core.bound := by
  induction h with
  | @here n timeoutMs a s h =>
      have hreceives := a.session.receives_receive paho timeoutMs
      rw [h] at hreceives
      cases hreceives with
      | nothing hcollects hempty =>
          refine ⟨ha.collect hcollects, hempty, ?_⟩
          unfold pollLoop
          rw [h]
          dsimp only
          split <;> rfl
  | @later n timeoutMs a b s message h hrest ih =>
      have hreceives := a.session.receives_receive paho timeoutMs
      rw [h] at hreceives
      rcases ih (ha.receive hreceives) with ⟨hb, hempty, hbound⟩
      refine ⟨hb, hempty, ?_⟩
      unfold pollLoop
      rw [h]
      exact hbound

/-- What an operation makes of a connected adapter: it applies what it receives, and
then it perhaps faults the adapter. -/
def Ends (paho : Paho) (a : MqttIndustrialAdapter)
    (told : MqttIndustrialAdapter -> Prop) (result : MqttIndustrialAdapter) : Prop :=
  exists b, told b ∧ Stays a b ∧
    (result = b ∨ exists reason ids, result = (b.enterFault paho reason ids).1)

theorem pollLoop_ends (text : TextLib) (paho : Paho) (n timeoutMs : Nat)
    {before : MqttSession}
    {start : List (BoundEquipment MqttEquipmentMapping)}
    {a : MqttIndustrialAdapter} (ha : Delivered text before start a)
    (ids : ClientIds) :
    Ends paho a (Delivered text before start)
      (pollLoop text paho n timeoutMs a ids).1 := by
  induction n generalizing timeoutMs a with
  | zero => exact ⟨a, ha, ⟨rfl, rfl, rfl, rfl, rfl⟩, Or.inl rfl⟩
  | succ n ih =>
      have hreceives := a.session.receives_receive paho timeoutMs
      unfold pollLoop
      split
      · rename_i s hs
        rw [hs] at hreceives
        cases hreceives with
        | error hcollects =>
            exact ⟨_, ha.collect hcollects, stays_withSession a s,
              Or.inr ⟨_, ids, rfl⟩⟩
      · rename_i s hs
        rw [hs] at hreceives
        cases hreceives with
        | nothing hcollects hempty =>
            have hquery := hcollects.trans (s.collects_connected paho)
            split
            · rename_i t ht
              rw [ht] at hquery
              exact ⟨_, ha.collect hquery, stays_withSession a t,
                Or.inr ⟨_, ids, rfl⟩⟩
            · rename_i t ht
              rw [ht] at hquery
              exact ⟨_, ha.collect hquery, stays_withSession a t, Or.inl rfl⟩
      · rename_i message s hs
        rw [hs] at hreceives
        have hstays : Stays a ((a.withSession s).applyMessage text message) :=
          ⟨rfl, rfl, rfl, rfl, rfl⟩
        rcases ih 0 (ha.receive hreceives) with ⟨b, hb, hsame, hresult⟩
        exact ⟨b, hb, hstays.trans hsame, hresult⟩

theorem Ends.imp {paho : Paho} {a : MqttIndustrialAdapter}
    {told told' : MqttIndustrialAdapter -> Prop} {result : MqttIndustrialAdapter}
    (h : Ends paho a told result) (himp : forall b, told b -> told' b) :
    Ends paho a told' result := by
  rcases h with ⟨b, hb, hstays, hresult⟩
  exact ⟨b, himp b hb, hstays, hresult⟩

def Listens (a b : MqttIndustrialAdapter) : Prop :=
  exists s, Collects a.session s ∧ b = a.withSession s

theorem runCommand_listens (text : TextLib) (paho : Paho) (command : String)
    (parameter : Double) (m : MqttEquipmentMapping) (a : MqttIndustrialAdapter)
    (ids : ClientIds) :
    Ends paho a (Listens a) (runCommand text paho command parameter m a ids).2.1 := by
  have hsame : Ends paho a (Listens a) a :=
    ⟨a, ⟨a.session, a.session.collects_refl, rfl⟩, ⟨rfl, rfl, rfl, rfl, rfl⟩,
      Or.inl rfl⟩
  unfold runCommand runMapped
  split
  · exact hsame
  · exact hsame
  · split
    · exact hsame
    · dsimp only
      split
      · exact hsame
      · unfold publishCommand
        dsimp only
        rename_i mapped _ _
        have hpublish := a.session.collects_publish paho mapped.topic
          (substituteValue text mapped.bodyTemplate parameter) mapped.qos mapped.retain
        rcases hresult : a.session.publish paho mapped.topic
          (substituteValue text mapped.bodyTemplate parameter) mapped.qos
          mapped.retain with ⟨ok, s⟩
        rw [hresult] at hpublish
        cases ok with
        | false =>
            exact ⟨_, ⟨s, hpublish, rfl⟩, stays_withSession a s, Or.inr ⟨_, ids, rfl⟩⟩
        | true => exact ⟨_, ⟨s, hpublish, rfl⟩, stays_withSession a s, Or.inl rfl⟩

theorem runCommand_ends (text : TextLib) (paho : Paho) (command : String)
    (parameter : Double) (m : MqttEquipmentMapping)
    {before : MqttSession}
    {start : List (BoundEquipment MqttEquipmentMapping)}
    {a : MqttIndustrialAdapter} (ha : Delivered text before start a)
    (ids : ClientIds) :
    Ends paho a (Delivered text before start)
      (runCommand text paho command parameter m a ids).2.1 := by
  apply (runCommand_listens text paho command parameter m a ids).imp
  rintro b ⟨s, hs, rfl⟩
  exact ha.collect hs

theorem delivered_operate (event : AdapterEvent MqttLib PahoCallback)
    {before : MqttSession}
    {start : List (BoundEquipment MqttEquipmentMapping)}
    {a : MqttIndustrialAdapter} (ha : Delivered event.device.text before start a)
    (hstate : a.connectionState = .connected) (ids : ClientIds)
    (hafter : (operate event (a, ids)).2.1.connectionState = .connected) :
    Delivered event.device.text before start (operate event (a, ids)).2.1 := by
  have hends : forall result, result.connectionState = .connected ->
      Ends event.device.paho a (Delivered event.device.text before start) result ->
        Delivered event.device.text before start result := by
    rintro result hresult ⟨b, hb, _, rfl | ⟨reason, ids, rfl⟩⟩
    · exact hb
    · cases hresult
  rcases event with ⟨operation, lib⟩
  cases operation with
  | connect =>
      show Delivered lib.text before start (a.connect lib.paho ids).2.1
      unfold connect
      rw [if_pos hstate]
      exact ha
  | disconnect => cases hafter
  | poll =>
      have hpoll := poll_of_connected lib.text lib.paho hstate ids
      have hresult := pollLoop_ends lib.text lib.paho kMaxMessagesPerPoll
        (pollTimeout a.config) ha ids
      rw [← hpoll] at hresult
      exact hends _ hafter hresult
  | execute equipmentId command parameter =>
      cases hr : IndustrialAdapter.execute lib a equipmentId command parameter ids with
      | none =>
          rw [operate_execute_of_none hr]
          exact ha
      | some r =>
          rw [operate_execute_of_some hr] at hafter ⊢
          rcases execute_some hr with ⟨b, _, hrun⟩
          have hresult := runCommand_ends lib.text lib.paho command parameter b.mapping
            ha ids
          rw [hrun] at hresult
          exact hends _ hafter hresult
  | stimulate c =>
      have hc := a.session.callback_mailbox c
      rw [ha.listening, if_neg Bool.false_ne_true] at hc
      have hheard : (a.session.callback c).heard = a.session.heard ++ c.messages :=
        if_neg (by rw [ha.listening]; exact Bool.false_ne_true)
      exact ha.collect ⟨hc.1.trans ha.listening.symm, c.messages, hheard, hc.2⟩

end MqttIndustrialAdapter

end VirtualFactory
