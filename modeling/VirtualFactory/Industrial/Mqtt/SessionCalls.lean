import VirtualFactory.Industrial.Mqtt.Session

/-!
# The calls of an MQTT session

Which subscriptions a session makes between two states, and when it creates a client.
-/

namespace VirtualFactory

open Foundation

namespace PahoCall

def subscription? : PahoCall -> Option (String × Int)
  | .subscribe topic qos => some (topic, qos)
  | _ => none

def createsClient : PahoCall -> Bool
  | .createWithOptions _ _ => true
  | _ => false

end PahoCall

/-- The subscriptions among some calls, in the order in which they were made. -/
def subscriptionsOf (calls : List PahoCall) : List (String × Int) :=
  calls.reverse.filterMap PahoCall.subscription?

/-- The subscriptions of the client that was created last. -/
def clientSubscriptions (calls : List PahoCall) : List (String × Int) :=
  subscriptionsOf (calls.takeWhile (fun c => !c.createsClient))

theorem subscriptionsOf_append (later earlier : List PahoCall) :
    subscriptionsOf (later ++ earlier) = subscriptionsOf earlier ++ subscriptionsOf later := by
  unfold subscriptionsOf
  rw [List.reverse_append, List.filterMap_append]

namespace MqttSession

/-- A client makes these subscriptions on the way from one state of its session to
another. -/
def Makes (made : List (String × Int)) (s t : MqttSession) : Prop :=
  exists later, t.calls = later ++ s.calls ∧
    (forall c, c ∈ later -> c.createsClient = false) ∧ subscriptionsOf later = made

theorem makes_of_calls {s t : MqttSession} (h : t.calls = s.calls) : Makes [] s t :=
  ⟨[], h, fun _ hc => absurd hc List.not_mem_nil, rfl⟩

theorem Makes.trans {first second : List (String × Int)} {s t u : MqttSession}
    (hst : Makes first s t) (htu : Makes second t u) : Makes (first ++ second) s u := by
  rcases hst with ⟨early, hearly, hsame, hfirst⟩
  rcases htu with ⟨late, hlate, hsame', hsecond⟩
  refine ⟨late ++ early, ?_, ?_, ?_⟩
  · rw [hlate, hearly, List.append_assoc]
  · intro c hc
    rcases List.mem_append.mp hc with hc | hc
    · exact hsame' c hc
    · exact hsame c hc
  · rw [subscriptionsOf_append, hfirst, hsecond]

theorem Makes.clientSubscriptions {made : List (String × Int)} {s t : MqttSession}
    (h : Makes made s t) :
    clientSubscriptions t.calls = clientSubscriptions s.calls ++ made := by
  rcases h with ⟨later, hcalls, hsame, hmade⟩
  unfold VirtualFactory.clientSubscriptions
  rw [hcalls, List.takeWhile_append_of_pos, subscriptionsOf_append, hmade]
  intro c hc
  rw [hsame c hc]
  rfl

@[simp] theorem calls_captureIfEmpty (s : MqttSession) (text : String) :
    (s.captureIfEmpty text).calls = s.calls := by
  unfold captureIfEmpty
  split <;> rfl

theorem calls_callback (s : MqttSession) (c : PahoCallback) :
    (s.callback c).calls = s.calls := by
  cases c with
  | connectionLost cause =>
      show (s.onConnectionLost cause).calls = s.calls
      unfold onConnectionLost
      split
      · rfl
      · exact calls_captureIfEmpty _ _
  | message message =>
      show (s.onMessage message).calls = s.calls
      unfold onMessage
      split <;> rfl
  | connectSuccess => rfl
  | connectFailure response => rfl
  | opSuccess => rfl
  | opFailure response => rfl

@[simp] theorem calls_call (paho : Paho) (c : PahoCall) (s : MqttSession) :
    (s.call paho c).calls = c :: s.calls := by
  have hfold : forall (cs : List PahoCallback) (t : MqttSession),
      (cs.foldl callback t).calls = t.calls := by
    intro cs
    induction cs with
    | nil =>
        intro t
        rfl
    | cons c cs ih =>
        intro t
        rw [List.foldl_cons, ih, calls_callback]
  unfold call
  rw [hfold]

theorem makes_call (paho : Paho) (c : PahoCall) (s : MqttSession)
    (h : c.createsClient = false) : Makes c.subscription?.toList s (s.call paho c) := by
  refine ⟨[c], calls_call paho c s, ?_, ?_⟩
  · intro d hd
    rw [List.mem_singleton.mp hd]
    exact h
  · unfold subscriptionsOf
    cases c <;> rfl

theorem makes_nothing {paho : Paho} {c : PahoCall} {s t : MqttSession}
    (h : Makes [] s t) (hcreates : c.createsClient = false)
    (hsubscribes : c.subscription? = none) : Makes [] s (t.call paho c) := by
  have hcall := makes_call paho c t hcreates
  rw [hsubscribes] at hcall
  exact h.trans hcall

/-!
# What the operations of a session subscribe
-/

theorem Makes.congr {made : List (String × Int)} {s t u : MqttSession}
    (h : Makes made s t) (hcalls : u.calls = t.calls) : Makes made s u := by
  unfold Makes
  rw [hcalls]
  exact h

theorem makes_close (paho : Paho) (s : MqttSession) : Makes [] s (s.close paho) := by
  unfold close
  dsimp only
  split
  · have hasked : Makes [] s ({ s with closing := true }.call paho .isConnected) :=
      makes_nothing (makes_of_calls rfl) rfl rfl
    apply Makes.congr _ rfl
    split
    · exact makes_nothing (makes_nothing hasked rfl rfl) rfl rfl
    · exact makes_nothing hasked rfl rfl
  · exact makes_of_calls rfl

theorem calls_close (paho : Paho) (s : MqttSession) :
    exists later, (s.close paho).calls = later ++ s.calls ∧
      forall c, c ∈ later -> c ∈ [PahoCall.isConnected, .disconnect, .destroy] := by
  unfold close
  dsimp only
  split
  · split
    · refine ⟨[.destroy, .disconnect, .isConnected], ?_, by decide⟩
      simp
    · refine ⟨[.destroy, .isConnected], ?_, by decide⟩
      simp
  · exact ⟨[], rfl, fun _ hc => absurd hc List.not_mem_nil⟩

theorem makes_awaitConnect {paho : Paho} {config : MqttSessionConfig} {s t : MqttSession}
    (h : s.awaitConnect paho config = (true, t)) : Makes [] s t := by
  have hasked : Makes [] s
      ({ s with connectDone := false, connectRc := mqttAsyncFailure }.call paho
        (.connect (connectOptions config))) :=
    makes_nothing (makes_of_calls rfl) rfl rfl
  unfold awaitConnect at h
  dsimp only at h
  generalize ((if 0 < config.connectTimeoutSeconds then config.connectTimeoutSeconds
    else 2) + 3) * 1000 = timeoutMs at h
  split at h
  · cases h
  · split at h
    · cases h
    · cases h
      exact makes_nothing hasked rfl rfl

/-- A new client is created, and it makes these subscriptions. -/
def Opens (made : List (String × Int)) (s t : MqttSession) : Prop :=
  exists (u v : MqttSession) (serverUri clientId : String), Makes [] s u ∧
    v.calls = .createWithOptions serverUri clientId :: u.calls ∧ Makes made v t

theorem Opens.makes {made more : List (String × Int)} {s t u : MqttSession}
    (h : Opens made s t) (hmore : Makes more t u) : Opens (made ++ more) s u := by
  rcases h with ⟨v, w, serverUri, clientId, hbefore, hcreate, hmade⟩
  exact ⟨v, w, serverUri, clientId, hbefore, hcreate, hmade.trans hmore⟩

theorem Opens.after {made : List (String × Int)} {s t u : MqttSession}
    (hbefore : Makes [] s t) (h : Opens made t u) : Opens made s u := by
  rcases h with ⟨v, w, serverUri, clientId, hmore, hcreate, hmade⟩
  exact ⟨v, w, serverUri, clientId, hbefore.trans hmore, hcreate, hmade⟩

theorem Opens.clientSubscriptions {made : List (String × Int)} {s t : MqttSession}
    (h : Opens made s t) : clientSubscriptions t.calls = made := by
  rcases h with ⟨u, v, serverUri, clientId, _, hcreate, hmade⟩
  rw [hmade.clientSubscriptions, hcreate]
  rfl

/-- All subscriptions on the way are the ones of the new client. -/
theorem Opens.subscriptionsOf {made : List (String × Int)} {s t : MqttSession}
    (h : Opens made s t) :
    exists later, t.calls = later ++ s.calls ∧ subscriptionsOf later = made := by
  rcases h with ⟨u, v, serverUri, clientId, ⟨early, hearly, _, hnone⟩, hcreate,
    ⟨late, hlate, _, hmade⟩⟩
  refine ⟨late ++ (.createWithOptions serverUri clientId :: early), ?_, ?_⟩
  · rw [hlate, hcreate, hearly, List.append_assoc, List.cons_append]
  · have hcons : VirtualFactory.subscriptionsOf
        (.createWithOptions serverUri clientId :: early) = [] := by
      unfold VirtualFactory.subscriptionsOf at hnone ⊢
      rw [List.reverse_cons, List.filterMap_append, hnone]
      rfl
    rw [subscriptionsOf_append, hcons, hmade, List.nil_append]

theorem opens_connect {paho : Paho} {config : MqttSessionConfig} {s t : MqttSession}
    (h : s.connect paho config = (true, t)) : Opens [] s t := by
  unfold connect at h
  dsimp only at h
  split at h
  · cases h
  · split at h
    · cases h
    · split at h
      · cases h
      · have hawait := makes_awaitConnect h
        have hcreate := calls_call paho
          (.createWithOptions (MqttSession.serverUri config) config.clientId)
          { s.close paho with
            lastError := "", closing := false, lost := false, isConnected := false }
        have hset : Makes ([] ++ []) _ t :=
          (makes_nothing (makes_of_calls rfl) rfl rfl).trans hawait
        exact ⟨s.close paho, _, _, _, makes_close paho s, hcreate, hset⟩

theorem makes_subscribe {paho : Paho} {topic : String} {qos : Int} {s t : MqttSession}
    (h : s.subscribe paho topic qos = (true, t)) :
    Makes [(topic, clampQos qos)] s t := by
  have hasked : Makes [(topic, clampQos qos)] s
      ({ s with opDone := false, opRc := mqttAsyncFailure }.call paho
        (.subscribe topic (clampQos qos))) :=
    Makes.trans (makes_of_calls rfl) (makes_call paho (.subscribe topic (clampQos qos)) _ rfl)
  unfold subscribe at h
  dsimp only at h
  split at h
  · cases h
  · split at h
    · cases h
    · split at h
      · cases h
      · cases h
        exact hasked.trans (makes_call paho (.wait 2000) _ rfl)

theorem makes_connected (paho : Paho) (s : MqttSession) :
    Makes [] s (s.connected paho).2 := by
  unfold connected
  split
  · exact makes_of_calls rfl
  · exact makes_nothing (makes_of_calls rfl) rfl rfl

theorem makes_publish (paho : Paho) (topic payload : String) (qos : Int) (retain : Bool)
    (s : MqttSession) : Makes [] s (s.publish paho topic payload qos retain).2 := by
  have hsent : Makes [] s (s.call paho (.sendMessage topic payload (clampQos qos) retain)) :=
    makes_nothing (makes_of_calls rfl) rfl rfl
  unfold publish
  dsimp only
  split
  · exact makes_of_calls rfl
  · split
    · exact hsent.congr rfl
    · have hdone : Makes [] s ((s.call paho (.sendMessage topic payload (clampQos qos)
          retain)).call paho .waitForCompletion) :=
        makes_nothing hsent rfl rfl
      split
      · exact hdone.congr rfl
      · exact hdone

theorem calls_takeMessage (s : MqttSession) : s.takeMessage.2.calls = s.calls := by
  unfold takeMessage
  split
  · exact calls_captureIfEmpty _ _
  · split <;> rfl

theorem makes_receive (paho : Paho) (timeoutMs : Nat) (s : MqttSession) :
    Makes [] s (s.receive paho timeoutMs).2 := by
  have hlock : Makes [] s (s.call paho .lock) := makes_nothing (makes_of_calls rfl) rfl rfl
  unfold receive
  dsimp only
  split
  · exact hlock.congr (calls_captureIfEmpty _ _)
  · split
    · have hasked : Makes [] s ((s.call paho .lock).call paho .isConnected) :=
        makes_nothing hlock rfl rfl
      split
      · exact hasked.congr (calls_captureIfEmpty _ _)
      · exact (makes_nothing hasked rfl rfl).congr (calls_takeMessage _)
    · exact (makes_nothing hlock rfl rfl).congr (calls_takeMessage _)

end MqttSession

end VirtualFactory
