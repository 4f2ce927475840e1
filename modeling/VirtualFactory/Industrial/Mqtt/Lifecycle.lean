import VirtualFactory.Industrial.Lifecycle
import VirtualFactory.Industrial.Mqtt.Redaction
import VirtualFactory.Industrial.Mqtt.Subscriptions
import VirtualFactory.Industrial.Usage.Mqtt

/-!
# The lifecycle of the MQTT adapter

The MQTT adapter follows the lifecycle of the other protocols.  Between its operations the
library runs callbacks, which leave the lifecycle where it is: a broker that is lost is a
fault of the next poll or command.
-/

namespace VirtualFactory

open Foundation IndustrialAdapter

namespace MqttSession

/-!
# The client of a session

A session that has connected has a client, and one that has been closed has none.
-/

theorem handle_close (paho : Paho) (s : MqttSession) : (s.close paho).handle = false := by
  unfold close
  dsimp only
  split
  · rfl
  · rename_i hhandle
    exact Bool.eq_false_of_not_eq_true hhandle

theorem handle_awaitConnect {paho : Paho} {config : MqttSessionConfig} {s : MqttSession}
    (hok : (s.awaitConnect paho config).1 = true) :
    (s.awaitConnect paho config).2.handle = s.handle := by
  unfold awaitConnect at hok ⊢
  dsimp only at hok ⊢
  generalize ((if 0 < config.connectTimeoutSeconds then config.connectTimeoutSeconds
    else 2) + 3) * 1000 = timeoutMs at hok ⊢
  split at hok
  · cases hok
  · rename_i hasked
    split at hok
    · cases hok
    · rename_i hanswered
      rw [if_neg hasked, if_neg hanswered]
      simp only [handle_call]

theorem handle_connect {paho : Paho} {config : MqttSessionConfig} {s : MqttSession}
    (hok : (s.connect paho config).1 = true) : (s.connect paho config).2.handle = true := by
  unfold connect at hok ⊢
  dsimp only at hok ⊢
  split at hok
  · cases hok
  · rename_i hvalid
    split at hok
    · cases hok
    · rename_i hcreated
      split at hok
      · cases hok
      · rename_i hset
        rw [if_neg hvalid, if_neg hcreated, if_neg hset]
        exact (handle_awaitConnect hok).trans (handle_call _ _ _)

theorem handle_connected (paho : Paho) (s : MqttSession) :
    (s.connected paho).2.handle = s.handle := by
  unfold connected
  split
  · rfl
  · exact handle_call _ _ _

theorem handle_subscribe (paho : Paho) (topic : String) (qos : Int) (s : MqttSession) :
    (s.subscribe paho topic qos).2.handle = s.handle := by
  unfold subscribe
  split
  · rfl
  · dsimp only
    split
    · exact handle_call _ _ _
    · split
      · simp only [handle_captureIfEmpty, handle_call]
      · simp only [handle_call]

theorem handle_publish (paho : Paho) (topic payload : String) (qos : Int) (retain : Bool)
    (s : MqttSession) : (s.publish paho topic payload qos retain).2.handle = s.handle := by
  unfold publish
  split
  · rfl
  · dsimp only
    split
    · exact handle_call _ _ _
    · split
      · simp only [handle_call]
      · simp only [handle_call]

theorem handle_takeMessage (s : MqttSession) : s.takeMessage.2.handle = s.handle := by
  unfold takeMessage
  split
  · exact handle_captureIfEmpty _ _
  · split
    · rfl
    · rfl

theorem handle_receive (paho : Paho) (timeoutMs : Nat) (s : MqttSession) :
    (s.receive paho timeoutMs).2.handle = s.handle := by
  unfold receive
  dsimp only
  split
  · simp only [handle_captureIfEmpty, handle_call]
  · split
    · split
      · simp only [handle_captureIfEmpty, handle_call]
      · simp only [handle_takeMessage, handle_call]
    · simp only [handle_takeMessage, handle_call]

end MqttSession

namespace MqttIndustrialAdapter

open MqttSession

/-!
# Faults

A fault has a reason, also when the password is taken out of it, and leaves no client.
-/

theorem redact_ne_empty (config : MqttAdapterConfig) {reason : String} (h : reason ≠ "") :
    redact config reason ≠ "" := by
  by_cases hpassword : config.password = ""
  · unfold redact
    rw [if_pos hpassword]
    exact h
  · rw [redact_eq hpassword]
    have hrewrites := (Replace.replaceAll_spec hpassword redacted reason).1
    have hresult := hrewrites.ne_nil (by decide)
      (fun hnil => h (String.toList_eq_nil_iff.mp hnil))
    exact fun hempty => hresult (String.toList_eq_nil_iff.mpr hempty)

/-- The adapter is faulted for a reason and has no client. -/
structure Broken (a : MqttIndustrialAdapter) : Prop where
  down : a.core.link.Down
  noClient : a.session.handle = false

theorem broken_enterFault (paho : Paho) {reason : String} (h : reason ≠ "")
    (a : MqttIndustrialAdapter) (ids : ClientIds) :
    Broken (a.enterFault paho reason ids).1 where
  down := Link.down_enterFault _ (redact_ne_empty a.config h)
  noClient := handle_close paho a.session

/-- The adapter keeps its state and its client, or it is broken. -/
def KeepsOrBreaks (a b : MqttIndustrialAdapter) : Prop :=
  (b.connectionState = a.connectionState ∧
      b.core.link.lastError = a.core.link.lastError ∧
      b.session.handle = a.session.handle) ∨
    Broken b

theorem keepsOrBreaks_self (a : MqttIndustrialAdapter) : KeepsOrBreaks a a :=
  Or.inl ⟨rfl, rfl, rfl⟩

theorem keepsOrBreaks_poll (text : TextLib) (paho : Paho) (n timeoutMs : Nat)
    (a : MqttIndustrialAdapter) (ids : ClientIds) :
    KeepsOrBreaks a (pollLoop text paho n timeoutMs a ids).1 := by
  induction n generalizing timeoutMs a with
  | zero => exact keepsOrBreaks_self a
  | succ n ih =>
      have hreceive := handle_receive paho timeoutMs a.session
      unfold pollLoop
      generalize a.session.receive paho timeoutMs = r at hreceive ⊢
      rcases r with ⟨incoming, s⟩
      cases incoming with
      | error =>
          refine Or.inr (broken_enterFault paho ?_ _ ids)
          split
          · decide
          · exact append_ne_empty (by decide) _
      | nothing =>
          have hconnected := handle_connected paho s
          dsimp only
          generalize s.connected paho = r at hconnected ⊢
          rcases r with ⟨ok, t⟩
          cases ok with
          | false => exact Or.inr (broken_enterFault paho (by decide) _ ids)
          | true => exact Or.inl ⟨rfl, rfl, hconnected.trans hreceive⟩
      | received message =>
          rcases ih 0 ((a.withSession s).applyMessage text message) with
            ⟨hstate, herror, hhandle⟩ | hbroken
          · exact Or.inl ⟨hstate, herror, hhandle.trans hreceive⟩
          · exact Or.inr hbroken

theorem keepsOrBreaks_runCommand (text : TextLib) (paho : Paho) (command : String)
    (parameter : Double) (m : MqttEquipmentMapping) (a : MqttIndustrialAdapter)
    (ids : ClientIds) :
    KeepsOrBreaks a (runCommand text paho command parameter m a ids).2.1 := by
  unfold runCommand runMapped
  split
  · exact keepsOrBreaks_self a
  · exact keepsOrBreaks_self a
  · split
    · exact keepsOrBreaks_self a
    · rename_i mapped hfind
      dsimp only
      split
      · exact keepsOrBreaks_self a
      · have hpublish := handle_publish paho mapped.topic
          (substituteValue text mapped.bodyTemplate parameter) mapped.qos mapped.retain
          a.session
        unfold publishCommand
        dsimp only
        generalize a.session.publish paho _ _ _ _ = r at hpublish ⊢
        rcases r with ⟨ok, s⟩
        cases ok with
        | false =>
            exact Or.inr (broken_enterFault paho (append_ne_empty (by decide) _) _ ids)
        | true => exact Or.inl ⟨rfl, rfl, hpublish⟩

theorem handle_subscribeSubs (paho : Paho) (subs : List Sub) (s : MqttSession) :
    (untilFailure (subscribeSub paho) subs s).2.handle = s.handle := by
  induction subs generalizing s with
  | nil => rfl
  | cons sub rest ih =>
      have hsub := handle_subscribe paho sub.topic sub.qos s
      unfold untilFailure subscribeSub
      split
      · rename_i t ht
        rw [ht] at hsub
        exact (ih t).trans hsub
      · rename_i t ht
        rw [ht] at hsub
        exact hsub

theorem subscribeMappedTopics_keeps (paho : Paho) (a : MqttIndustrialAdapter)
    (ids : ClientIds) :
    ((a.subscribeMappedTopics paho ids).1 = true ->
        (a.subscribeMappedTopics paho ids).2.1.session.handle = a.session.handle) ∧
      ((a.subscribeMappedTopics paho ids).1 = false ->
        Broken (a.subscribeMappedTopics paho ids).2.1) := by
  unfold subscribeMappedTopics
  split
  · refine ⟨fun hok => Bool.noConfusion hok, fun _ => broken_enterFault paho ?_ a ids⟩
    unfold wildcardError
    rw [String.append_assoc]
    exact append_ne_empty (by decide) _
  · rename_i subs _
    have hsubs := handle_subscribeSubs paho subs a.session
    split
    · exact ⟨fun hok => Bool.noConfusion hok,
        fun _ => broken_enterFault paho (append_ne_empty (by decide) _) _ ids⟩
    · rename_i s hs
      rw [hs] at hsubs
      exact ⟨fun _ => hsubs, fun hok => Bool.noConfusion hok⟩

theorem openSession_keeps (paho : Paho) (clientId : String) (a : MqttIndustrialAdapter)
    (ids : ClientIds) :
    ((a.openSession paho clientId ids).1 = true ->
        (a.openSession paho clientId ids).2.1.session.handle = true) ∧
      ((a.openSession paho clientId ids).1 = false ->
        Broken (a.openSession paho clientId ids).2.1) := by
  have hconnected :
      ((a.session.close paho).connect paho (sessionConfig a.config clientId)).1 = true ->
        ((a.session.close paho).connect paho
          (sessionConfig a.config clientId)).2.handle = true := handle_connect
  unfold openSession
  split
  · exact ⟨fun hok => Bool.noConfusion hok,
      fun _ => broken_enterFault paho (append_ne_empty (by decide) _) _ ids⟩
  · rename_i s hs
    rw [hs] at hconnected
    have hsession : (a.withSession s).bindOrReuse.session = s := by
      unfold bindOrReuse
      split <;> rfl
    have hsubscribed := subscribeMappedTopics_keeps paho (a.withSession s).bindOrReuse ids
    split
    · rename_i b ids' hb
      rw [hb] at hsubscribed
      exact ⟨fun hok => Bool.noConfusion hok, fun _ => hsubscribed.2 rfl⟩
    · rename_i b ids' hb
      rw [hb, hsession] at hsubscribed
      exact ⟨fun _ => (hsubscribed.1 rfl).trans (hconnected rfl),
        fun hok => Bool.noConfusion hok⟩

theorem connect_keeps (paho : Paho) {a : MqttIndustrialAdapter}
    (h : a.connectionState ≠ .connected) (ids : ClientIds) :
    ((a.connect paho ids).1 = true -> (a.connect paho ids).2.1.session.handle = true) ∧
      ((a.connect paho ids).1 = false -> Broken (a.connect paho ids).2.1) := by
  have hrefused : forall (b : MqttIndustrialAdapter) (reason : String) (ids : ClientIds),
      reason ≠ "" ->
        ((false = true -> (b.enterFault paho reason ids).1.session.handle = true) ∧
          (false = false -> Broken (b.enterFault paho reason ids).1)) :=
    fun b reason ids hreason =>
      ⟨fun hok => Bool.noConfusion hok, fun _ => broken_enterFault paho hreason b ids⟩
  unfold connect
  rw [if_neg h]
  split
  · exact hrefused a _ ids (by decide)
  · split
    · refine hrefused a _ ids ?_
      unfold wildcardError
      rw [String.append_assoc]
      exact append_ne_empty (by decide) _
    · unfold claimClientId
      dsimp only
      split
      · rename_i b ids' hclaim
        exact hrefused b _ ids' (by decide)
      · rename_i b ids' hclaim
        exact openSession_keeps paho (a.resolveClientId ids).1 b ids'

/-!
# Representation

The steps of the lifecycle are those of the operations; a callback takes none.
-/

/-- What happens to an adapter of the library: an operation, or a callback between two of
them. -/
inductive Happens : Transitions Lifecycle AdapterAnswer
  | operates {l l' : Lifecycle} {answer : AdapterAnswer}
      (h : Lifecycle.Step l answer l') : Happens l answer l'
  | callsBack {l : Lifecycle} : Happens l .stimulated l

theorem Happens.coherent {l l' : Lifecycle} {answer : AdapterAnswer}
    (h : Happens l answer l') (hl : l.Coherent) : l'.Coherent := by
  cases h with
  | operates h => exact Lifecycle.coherent_step h hl
  | callsBack => exact hl

theorem Happens.opened {l l' : Lifecycle} {answer : AdapterAnswer}
    (h : Happens l answer l') (hl : l.Coherent) :
    l'.opened = Lifecycle.openedAfter l.opened answer := by
  cases h with
  | operates h => exact Lifecycle.opened_step h hl
  | callsBack => rfl

theorem Happens.enters_connected {l l' : Lifecycle} {answer : AdapterAnswer}
    (h : Happens l answer l') (hl : l.state ≠ .connected)
    (hl' : l'.state = .connected) : answer = .connected true := by
  cases h with
  | operates h => exact h.enters_connected hl hl'
  | callsBack => exact absurd hl' hl

theorem Happens.enters_disconnected {l l' : Lifecycle} {answer : AdapterAnswer}
    (h : Happens l answer l') (hl : l.state ≠ .disconnected)
    (hl' : l'.state = .disconnected) : answer = .disconnected := by
  cases h with
  | operates h => exact h.enters_disconnected hl hl'
  | callsBack => exact absurd hl' hl

variable {cfg : MqttAdapterConfig} {a b : MqttIndustrialAdapter} {l : Lifecycle}

/-- The adapter is where the lifecycle is.  Machines that were bound by a session are kept
until the adapter is disconnected. -/
structure Represents (cfg : MqttAdapterConfig) (a : MqttIndustrialAdapter)
    (l : Lifecycle) : Prop where
  coherent : l.Coherent
  sameState : a.connectionState = l.state
  binds : Binds cfg a
  subscribes : Subscribes a
  bound : l.opened = true ->
    a.core.bound.map BoundEquipment.mapping = cfg.equipment
  disconnected : l.state = .disconnected ->
    a.core.link.lastError = "" ∧ a.session.handle = false
  connected : l.state = .connected -> a.core.link.Up (fun s => s.handle = true)
  faulted : l.state = .faulted -> Broken a

theorem Broken.represents (hbroken : Broken b) (hbinds : Binds cfg b)
    (hsubscribes : Subscribes b)
    (hbound : l.opened = true ->
      b.core.bound.map BoundEquipment.mapping = cfg.equipment) :
    b.Represents cfg { l with state := .faulted } where
  coherent :=
    ⟨fun h => ConnectionState.noConfusion h, fun h => ConnectionState.noConfusion h⟩
  sameState := hbroken.down.faulted
  binds := hbinds
  subscribes := hsubscribes
  bound := hbound
  disconnected hstate := ConnectionState.noConfusion hstate
  connected hstate := ConnectionState.noConfusion hstate
  faulted _ := hbroken

theorem Represents.use (h : a.Represents cfg l) (hstate : l.state = .connected)
    (hkeeps : KeepsOrBreaks a b) (hbinds : Binds cfg b) (hsubscribes : Subscribes b)
    (hbound : b.core.bound.map BoundEquipment.mapping =
      a.core.bound.map BoundEquipment.mapping) :
    b.Represents cfg l ∨ b.Represents cfg { l with state := .faulted } := by
  have hopened : l.opened = true ->
      b.core.bound.map BoundEquipment.mapping = cfg.equipment :=
    fun hopened => hbound.trans (h.bound hopened)
  rcases hkeeps with ⟨hsame, herror, hhandle⟩ | hbroken
  · left
    have hup := h.connected hstate
    exact
      { coherent := h.coherent
        sameState := hsame.trans h.sameState
        binds := hbinds
        subscribes := hsubscribes
        bound := hopened
        disconnected := fun hother => by rw [hstate] at hother; cases hother
        connected := fun _ =>
          ⟨hsame.trans hup.connected, herror.trans hup.noError,
            hhandle.trans hup.sessionOpen⟩
        faulted := fun hother => by rw [hstate] at hother; cases hother }
  · exact Or.inr (hbroken.represents hbinds hsubscribes hopened)

theorem represents_new (id : String) (cfg : MqttAdapterConfig) :
    (new id cfg).Represents cfg {} where
  coherent := Lifecycle.coherent_start
  sameState := rfl
  binds := binds_new id cfg
  subscribes hstate := ConnectionState.noConfusion hstate
  bound hopened := Bool.noConfusion hopened
  disconnected _ := ⟨rfl, rfl⟩
  connected hstate := ConnectionState.noConfusion hstate
  faulted hstate := ConnectionState.noConfusion hstate

theorem represents_connect (lib : MqttLib) (h : a.Represents cfg l) (ids : ClientIds) :
    exists l', Lifecycle.Step l (.connected (a.connect lib.paho ids).1) l' ∧
      (a.connect lib.paho ids).2.1.Represents cfg l' := by
  by_cases hstate : a.connectionState = .connected
  · unfold connect
    rw [if_pos hstate]
    exact ⟨l, Lifecycle.Step.remains (h.sameState.symm.trans hstate), h⟩
  · have hl : l.state ≠ .connected := h.sameState ▸ hstate
    have hout := connect_outcome lib.paho hstate ids
    have hkeeps := connect_keeps lib.paho hstate ids
    have hbinds := binds_connect lib.paho h.binds ids
    have hsubscribes := subscribes_connect lib.paho h.subscribes ids
    have hsession := h.binds.map_boundForSession
    generalize a.connect lib.paho ids = r at hout hkeeps hbinds hsubscribes ⊢
    rcases r with ⟨ok, b, ids'⟩
    cases hout with
    | refused serial hfaults hbound =>
        refine ⟨_, Lifecycle.Step.refuses hl, (hkeeps.2 rfl).represents hbinds hsubscribes ?_⟩
        intro hopened
        rw [hbound]
        exact h.bound hopened
    | failed serial hfaults hbound =>
        refine ⟨_, Lifecycle.Step.refuses hl, (hkeeps.2 rfl).represents hbinds hsubscribes ?_⟩
        intro hopened
        rcases hbound with hsame | hbound
        · rw [hsame]
          exact h.bound hopened
        · rw [hbound]
          exact hsession
    | opened serial _ _ connected noError _ hbound =>
        refine ⟨⟨.connected, true⟩, Lifecycle.Step.opens hl, ?_⟩
        exact
          { coherent := ⟨fun _ => rfl, fun hother => ConnectionState.noConfusion hother⟩
            sameState := connected
            binds := hbinds
            subscribes := hsubscribes
            bound := fun _ => hbinds.opened connected
            disconnected := fun hother => ConnectionState.noConfusion hother
            connected := fun _ => ⟨connected, noError, hkeeps.1 rfl⟩
            faulted := fun hother => ConnectionState.noConfusion hother }

theorem Represents.poll_idle (h : a.Represents cfg l)
    (hstate : a.connectionState ≠ .connected) (text : TextLib) (paho : Paho)
    (ids : ClientIds) : a.poll text paho ids = (a, ids) := by
  have hreported : ¬ (a.connectionState = .faulted ∧ a.core.link.lastError = "") := by
    rintro ⟨hfaulted, hnone⟩
    exact (h.faulted (h.sameState.symm.trans hfaulted)).down.hasError hnone
  unfold poll
  rw [if_pos hstate, if_neg hreported]

theorem execute_idle {lib : MqttLib} (hstate : a.connectionState ≠ .connected)
    {equipmentId command : String} {parameter : Double} {ids : ClientIds}
    {r : CommandResult × MqttIndustrialAdapter × ClientIds}
    (hr : IndustrialAdapter.execute lib a equipmentId command parameter ids = some r) :
    r.1.accepted = false ∧ r.2 = (a, ids) := by
  rcases execute_some hr with ⟨b, _, hrun⟩
  rw [← hrun]
  unfold runCommand
  exact runMapped_of_not_connected hstate _ _ _

theorem refines_lifecycle (cfg : MqttAdapterConfig) :
    (operations MqttIndustrialAdapter).Refines Happens
      (fun s l => s.1.Represents cfg l) := by
  rintro event ⟨a, ids⟩ l h
  have hbinds := stable_binds cfg event a ids h.binds
  have hsubscribes := stable_subscribes event a ids h.subscribes
  rcases event with ⟨operation, lib⟩
  cases operation with
  | connect =>
      rcases represents_connect lib h ids with ⟨l', hstep, hl'⟩
      exact ⟨l', Happens.operates hstep, hl'⟩
  | disconnect =>
      refine ⟨{}, Happens.operates Lifecycle.Step.disconnects, ?_⟩
      exact
        { coherent := Lifecycle.coherent_start
          sameState := rfl
          binds := hbinds
          subscribes := hsubscribes
          bound := fun hopened => Bool.noConfusion hopened
          disconnected := fun _ => ⟨rfl, handle_close lib.paho a.session⟩
          connected := fun hother => ConnectionState.noConfusion hother
          faulted := fun hother => ConnectionState.noConfusion hother }
  | poll =>
      by_cases hstate : a.connectionState = .connected
      · have hl := h.sameState.symm.trans hstate
        have hpoll := poll_of_connected lib.text lib.paho hstate ids
        have hkeeps := keepsOrBreaks_poll lib.text lib.paho kMaxMessagesPerPoll
          (pollTimeout a.config) a ids
        have hbound := pollLoop_mappings lib.text lib.paho kMaxMessagesPerPoll
          (pollTimeout a.config) a ids
        rw [← hpoll] at hkeeps hbound
        rcases h.use hl hkeeps hbinds hsubscribes hbound with hstays | hfaults
        · exact ⟨l, Happens.operates Lifecycle.Step.polls, hstays⟩
        · exact ⟨_, Happens.operates (Lifecycle.Step.pollFaults hl), hfaults⟩
      · have hsame : (a.poll lib.text lib.paho ids).1.Represents cfg l := by
          rw [h.poll_idle hstate]
          exact h
        exact ⟨l, Happens.operates Lifecycle.Step.polls, hsame⟩
  | execute equipmentId command parameter =>
      show exists l', Happens l (operate _ (a, ids)).1 l' ∧
        Represents cfg (operate _ (a, ids)).2.1 l'
      cases hr : IndustrialAdapter.execute lib a equipmentId command parameter ids with
      | none =>
          rw [operate_execute_of_none hr]
          exact ⟨l, Happens.operates (Lifecycle.Step.executes (fun _ r hr => by cases hr)),
            h⟩
      | some r =>
          rw [operate_execute_of_some hr] at hbinds hsubscribes ⊢
          by_cases hstate : a.connectionState = .connected
          · have hl := h.sameState.symm.trans hstate
            rcases execute_some hr with ⟨m, _, hrun⟩
            have hkeeps := keepsOrBreaks_runCommand lib.text lib.paho command parameter
              m.mapping a ids
            have hbound := (runCommand_operated lib.text lib.paho command parameter
              m.mapping a ids).2
            rw [hrun] at hkeeps hbound
            rcases h.use hl hkeeps hbinds hsubscribes (by rw [hbound]) with
              hstays | hfaults
            · exact ⟨l, Happens.operates
                (Lifecycle.Step.executes (fun hne => absurd hl hne)), hstays⟩
            · exact ⟨_, Happens.operates (Lifecycle.Step.executeFaults hl), hfaults⟩
          · rcases execute_idle hstate hr with ⟨hrejected, hsame⟩
            rw [hsame]
            refine ⟨l, Happens.operates (Lifecycle.Step.executes ?_), h⟩
            intro _ result hresult
            cases hresult
            exact hrejected
  | stimulate c =>
      have hhandle : (a.callback c).session.handle = a.session.handle :=
        handle_callback a.session c
      refine ⟨l, Happens.callsBack, ?_⟩
      exact
        { coherent := h.coherent
          sameState := h.sameState
          binds := hbinds
          subscribes := hsubscribes
          bound := h.bound
          disconnected := fun hstate =>
            ⟨(h.disconnected hstate).1, hhandle.trans (h.disconnected hstate).2⟩
          connected := fun hstate =>
            ⟨(h.connected hstate).connected, (h.connected hstate).noError,
              hhandle.trans (h.connected hstate).sessionOpen⟩
          faulted := fun hstate =>
            ⟨⟨(h.faulted hstate).down.faulted, (h.faulted hstate).down.hasError⟩,
              hhandle.trans (h.faulted hstate).noClient⟩ }

/-!
# What the lifecycle promises
-/

/-- What holds of an adapter after a connect has succeeded since it was built or last
disconnected, and what holds before.  The adapter has a client with its subscriptions
exactly while it is connected. -/
structure Lives (cfg : MqttAdapterConfig) (opened : Bool) (a : MqttIndustrialAdapter) :
    Prop where
  disconnected : connectionState a = .disconnected ->
    exposed a = [] ∧ lastError a = ""
  connected : connectionState a = .connected ->
    lastError a = "" ∧ a.core.exposedMappings = cfg.equipment ∧
      ¬ HasWildcard cfg ∧ Subscribed cfg (clientSubscriptions a.session.calls)
  faulted : connectionState a = .faulted -> lastError a ≠ ""
  exposes : opened = true -> a.core.exposedMappings = cfg.equipment
  exposesAll : a.core.exposedMappings = [] ∨ a.core.exposedMappings = cfg.equipment
  client : a.session.handle = true <-> connectionState a = .connected
  identified : a.activeClientId ≠ "" <-> connectionState a = .connected

/-- Every run of an MQTT adapter is a path of the lifecycle, and what follows from
that. -/
structure FollowsLifecycle (cfg : MqttAdapterConfig) (start : MqttIndustrialAdapter) :
    Prop where
  path : forall es ids, exists l,
    Path Happens {} ((operations _).trace es (start, ids)) l ∧
      connectionState ((operations _).run es (start, ids)).1 = l.state
  lives : forall es ids,
    Lives cfg (Lifecycle.openedSince ((operations _).trace es (start, ids)))
      ((operations _).run es (start, ids)).1
  entersConnected : forall es ids event,
    let s := (operations _).run es (start, ids)
    connectionState s.1 ≠ .connected ->
      connectionState (operate event s).2.1 = .connected ->
        event.operation = .connect
  entersDisconnected : forall es ids event,
    let s := (operations _).run es (start, ids)
    connectionState s.1 ≠ .disconnected ->
      connectionState (operate event s).2.1 = .disconnected ->
        event.operation = .disconnect
  idlePoll : forall es ids lib,
    let s := (operations _).run es (start, ids)
    connectionState s.1 ≠ .connected -> IndustrialAdapter.poll lib s.1 s.2 = s
  idleExecute : forall es ids lib equipmentId command parameter r,
    let s := (operations _).run es (start, ids)
    connectionState s.1 ≠ .connected ->
      IndustrialAdapter.execute lib s.1 equipmentId command parameter s.2 = some r ->
        r.1.accepted = false ∧ r.2 = s

theorem Represents.client (h : a.Represents cfg l) :
    a.session.handle = true <-> a.connectionState = .connected := by
  rw [h.sameState]
  cases hstate : l.state with
  | disconnected => simp [(h.disconnected hstate).2]
  | connected =>
      have hopen : a.session.handle = true := (h.connected hstate).sessionOpen
      simp [hopen]
  | faulted => simp [(h.faulted hstate).noClient]

theorem Represents.lives (h : a.Represents cfg l) : Lives cfg l.opened a := by
  have hhidden : a.connectionState = .disconnected -> a.core.exposedBound = [] :=
    fun hstate => if_pos hstate
  have hshown : a.connectionState ≠ .disconnected ->
      a.core.exposedMappings = a.core.bound.map BoundEquipment.mapping :=
    ProtocolAdapter.exposedMappings_of_not_disconnected
  constructor
  case disconnected =>
    intro hstate
    refine ⟨?_, (h.disconnected (h.sameState.symm.trans hstate)).1⟩
    rw [IndustrialAdapter.exposed_of_map rfl, hhidden hstate, List.map_nil]
  case connected =>
    intro hstate
    have hstate : a.connectionState = .connected := hstate
    rcases h.subscribes hstate with ⟨hvalid, hmade⟩
    rw [h.binds.sameConfig] at hvalid hmade
    refine ⟨(h.connected (h.sameState.symm.trans hstate)).noError, ?_,
      not_hasWildcard_iff.mpr hvalid, ?_⟩
    · rw [hshown (by rw [hstate]; decide)]
      exact h.binds.opened hstate
    · rw [hmade]
      exact subscribed_requested hvalid
  case faulted =>
    intro hstate
    exact (h.faulted (h.sameState.symm.trans hstate)).down.hasError
  case exposes =>
    intro hopened
    have hstate : a.connectionState ≠ .disconnected := by
      intro hstate
      rw [h.coherent.disconnected (h.sameState.symm.trans hstate)] at hopened
      cases hopened
    rw [hshown hstate]
    exact h.bound hopened
  case exposesAll =>
    by_cases hstate : a.connectionState = .disconnected
    · left
      unfold ProtocolAdapter.exposedMappings
      rw [hhidden hstate, List.map_nil]
    · rw [hshown hstate]
      rcases h.binds.bound with hnone | hall
      · exact Or.inl (by rw [hnone, List.map_nil])
      · exact Or.inr hall
  case client => exact h.client
  case identified => exact h.binds.settled

/-- The MQTT adapter follows the lifecycle from the moment it is built. -/
theorem follows_lifecycle (id : String) (cfg : MqttAdapterConfig) :
    FollowsLifecycle cfg (new id cfg) := by
  have hrun := fun es ids => (refines_lifecycle cfg).run es
    (s := (new id cfg, ids)) (x := {}) (represents_new id cfg)
  refine ⟨fun es ids => ?_, fun es ids => ?_, fun es ids event => ?_,
    fun es ids event => ?_, fun es ids lib => ?_,
    fun es ids lib equipmentId command parameter r => ?_⟩
  · rcases hrun es ids with ⟨l, hpath, hl⟩
    exact ⟨l, hpath, hl.sameState⟩
  · rcases hrun es ids with ⟨l, hpath, hl⟩
    have hopened := hpath.foldl_labels (fun _ _ _ => Happens.coherent)
      (fun _ _ _ => Happens.opened) Lifecycle.coherent_start
    unfold Lifecycle.openedSince
    rw [← hopened]
    exact hl.lives
  · intro s hs hs'
    rcases hrun es ids with ⟨l, _, hl⟩
    rcases refines_lifecycle cfg event s l hl with ⟨l', hstep, hl'⟩
    exact operation_of_connected (hstep.enters_connected
      (fun hstate => hs (hl.sameState.trans hstate)) (hl'.sameState.symm.trans hs'))
  · intro s hs hs'
    rcases hrun es ids with ⟨l, _, hl⟩
    rcases refines_lifecycle cfg event s l hl with ⟨l', hstep, hl'⟩
    exact operation_of_disconnected (hstep.enters_disconnected
      (fun hstate => hs (hl.sameState.trans hstate)) (hl'.sameState.symm.trans hs'))
  · intro s hs
    rcases hrun es ids with ⟨l, _, hl⟩
    exact hl.poll_idle hs lib.text lib.paho s.2
  · intro s hs hr
    exact execute_idle hs hr

end MqttIndustrialAdapter

end VirtualFactory
