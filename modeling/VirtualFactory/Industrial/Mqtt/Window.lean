import VirtualFactory.Foundation.Transitions
import VirtualFactory.Industrial.Mqtt.LatestValues

/-!
# The receive queue as a window

What arrives in a session first waits in the queue and then leaves it in order: a poll
hands it out from the head, or newer messages evict it.  A moment of a session is any
moment between two operations or between two receives of a poll.
-/

namespace VirtualFactory

open Foundation IndustrialAdapter

namespace MqttSession

theorem Collects.received {s t : MqttSession} (h : Collects s t) :
    t.mailbox.received = s.mailbox.received := by
  rcases h.mailbox with ⟨messages, _, hmailbox⟩
  rw [hmailbox, Mailbox.received_arriveAll]

/-- A receive hands out the head of the queue that it finds: what waited and what was heard
meanwhile, less what a full queue evicts. -/
theorem Receives.head {s u : MqttSession} {message : MqttMessage}
    (h : Receives s (.received message) u) :
    (exists news, u.heard = s.heard ++ news ∧
      (s.mailbox.queue ++ news).drop ((s.mailbox.queue ++ news).length - kMaxQueued) =
        message :: u.mailbox.queue) ∧
      u.mailbox.received = s.mailbox.received ++ [message] := by
  cases h with
  | received _ hcollects htake hclosing hheard =>
      rename_i t
      rcases hcollects.mailbox with ⟨news, hnews, hmailbox⟩
      have hreceived := t.mailbox.received_take
      rcases t.mailbox.take_cases with ⟨_, hnone⟩ | ⟨x, hqueue, hsome, _⟩
      · rw [htake] at hnone
        cases hnone
      · rw [htake] at hqueue hsome hreceived
        cases hsome
        rw [hcollects.received] at hreceived
        refine ⟨⟨news, hheard.trans hnews, ?_⟩, hreceived⟩
        rw [← Mailbox.queue_arriveAll, ← hmailbox]
        exact hqueue

end MqttSession

namespace MqttIndustrialAdapter

/-!
# The receives of a poll
-/

/-- A poll between two receives: how many it may still make, how long the next one
waits, and the adapter. -/
structure PollPoint where
  remaining : Nat
  timeoutMs : Nat
  adapter : MqttIndustrialAdapter

def pollStart (a : MqttIndustrialAdapter) : PollPoint :=
  ⟨kMaxMessagesPerPoll, pollTimeout a.config, a⟩

/-- A receive of a poll that hands out a message, which is then applied. -/
inductive Hands (text : TextLib) (paho : Paho) : Transitions PollPoint MqttMessage
  | hands {n timeoutMs : Nat} {a : MqttIndustrialAdapter} {s : MqttSession}
      {message : MqttMessage}
      (h : a.session.receive paho timeoutMs = (.received message, s)) :
      Hands text paho ⟨n + 1, timeoutMs, a⟩ message
        ⟨n, 0, (a.withSession s).applyMessage text message⟩

/-- How a poll that leaves the adapter connected stops: it has made all its receives,
or it found the queue empty. -/
inductive Stops (paho : Paho) (result : MqttIndustrialAdapter) : PollPoint -> Prop
  | full {timeoutMs : Nat} : Stops paho result ⟨0, timeoutMs, result⟩
  | empty {n timeoutMs : Nat} {a : MqttIndustrialAdapter} {s t : MqttSession}
      (h : a.session.receive paho timeoutMs = (.nothing, s))
      (hempty : s.mailbox.queue = []) (hquery : s.connected paho = (true, t))
      (hresult : result = a.withSession t) :
      Stops paho result ⟨n + 1, timeoutMs, a⟩

/-- The messages that a poll hands to `applyMessage`. -/
def pollMessages (text : TextLib) (paho : Paho) :
    Nat -> Nat -> MqttIndustrialAdapter -> List MqttMessage
  | 0, _, _ => []
  | n + 1, timeoutMs, a =>
      match a.session.receive paho timeoutMs with
      | (.error, _) => []
      | (.nothing, _) => []
      | (.received message, s) =>
          message :: pollMessages text paho n 0 ((a.withSession s).applyMessage text message)

/-- A poll that leaves the adapter connected hands out its messages until it stops. -/
theorem pollLoop_hands (text : TextLib) (paho : Paho) (n timeoutMs : Nat)
    (a : MqttIndustrialAdapter) (ids : ClientIds)
    (h : (pollLoop text paho n timeoutMs a ids).1.connectionState = .connected) :
    exists p, Path (Hands text paho) ⟨n, timeoutMs, a⟩
        (pollMessages text paho n timeoutMs a) p ∧
      Stops paho (pollLoop text paho n timeoutMs a ids).1 p := by
  induction n generalizing timeoutMs a with
  | zero => exact ⟨_, Path.nil _, Stops.full⟩
  | succ n ih =>
      have hreceives := a.session.receives_receive paho timeoutMs
      unfold pollLoop at h ⊢
      unfold pollMessages
      rcases hreceive : a.session.receive paho timeoutMs with ⟨incoming, s⟩
      rw [hreceive] at h hreceives
      cases incoming with
      | error => cases h
      | nothing =>
          refine ⟨_, Path.nil _, ?_⟩
          cases hreceives with
          | nothing hcollects hempty =>
              rcases hquery : s.connected paho with ⟨ok, t⟩
              cases ok with
              | false =>
                  dsimp only at h
                  rw [hquery] at h
                  cases h
              | true =>
                  dsimp only
                  rw [hquery]
                  exact Stops.empty hreceive hempty hquery rfl
      | received message =>
          rcases ih 0 ((a.withSession s).applyMessage text message) h with
            ⟨p, hpath, hstops⟩
          exact ⟨p, Path.cons (Hands.hands hreceive) hpath, hstops⟩

theorem Hands.path_received {text : TextLib} {paho : Paho} {p q : PollPoint}
    {messages : List MqttMessage} (h : Path (Hands text paho) p messages q) :
    q.adapter.session.mailbox.received =
        p.adapter.session.mailbox.received ++ messages ∧
      messages.length + q.remaining = p.remaining := by
  induction h with
  | nil p => exact ⟨(List.append_nil _).symm, Nat.zero_add _⟩
  | @cons p p' q message messages hstep hrest ih =>
      cases hstep with
      | @hands n timeoutMs a s message hreceive =>
          have hreceives := a.session.receives_receive paho timeoutMs
          rw [hreceive] at hreceives
          have hhead : s.mailbox.received = a.session.mailbox.received ++ [message] :=
            hreceives.head.2
          have hsession : ((a.withSession s).applyMessage text message).session = s :=
            rfl
          refine ⟨?_, ?_⟩
          · rw [ih.1, hsession, hhead, List.append_assoc]
            rfl
          · have hlength := ih.2
            rw [List.length_cons]
            dsimp only at hlength ⊢
            omega

theorem Hands.path_delivered {text : TextLib} {paho : Paho} {p q : PollPoint}
    {messages : List MqttMessage} {before : MqttSession}
    {start : List (BoundEquipment MqttEquipmentMapping)}
    (h : Path (Hands text paho) p messages q)
    (hp : Delivered text before start p.adapter) :
    Delivered text before start q.adapter := by
  induction h with
  | nil p => exact hp
  | cons hstep hrest ih =>
      apply ih
      cases hstep with
      | @hands n timeoutMs a s message hreceive =>
          have hreceives := a.session.receives_receive paho timeoutMs
          rw [hreceive] at hreceives
          exact hp.receive hreceives

/-!
# The operations of a session
-/

def handedBy (event : AdapterEvent MqttLib PahoCallback) (a : MqttIndustrialAdapter) :
    List MqttMessage :=
  match event.operation with
  | .poll =>
      pollMessages event.device.text event.device.paho kMaxMessagesPerPoll
        (pollTimeout a.config) a
  | _ => []

def handed : List (AdapterEvent MqttLib PahoCallback) ->
    MqttIndustrialAdapter × ClientIds -> List MqttMessage
  | [], _ => []
  | event :: rest, s => handedBy event s.1 ++ handed rest (operate event s).2

theorem received_operate (event : AdapterEvent MqttLib PahoCallback)
    {a : MqttIndustrialAdapter} (ids : ClientIds)
    (hstate : a.connectionState = .connected)
    (hafter : (operate event (a, ids)).2.1.connectionState = .connected) :
    (operate event (a, ids)).2.1.session.mailbox.received =
      a.session.mailbox.received ++ handedBy event a := by
  rcases event with ⟨operation, lib⟩
  cases operation with
  | connect =>
      show (a.connect lib.paho ids).2.1.session.mailbox.received = _
      unfold connect
      rw [if_pos hstate]
      exact (List.append_nil _).symm
  | disconnect => cases hafter
  | poll =>
      have hpoll := poll_of_connected lib.text lib.paho hstate ids
      have hloop : (operate ⟨.poll, lib⟩ (a, ids)).2 =
          pollLoop lib.text lib.paho kMaxMessagesPerPoll (pollTimeout a.config) a ids :=
        hpoll
      rw [hloop] at hafter ⊢
      rcases pollLoop_hands lib.text lib.paho _ _ a ids hafter with ⟨p, hpath, hstops⟩
      have hreceived := (Hands.path_received hpath).1
      generalize pollLoop lib.text lib.paho _ _ a ids = r at hstops ⊢
      rcases r with ⟨result, ids'⟩
      cases hstops with
      | full => exact hreceived
      | @empty n timeoutMs b s t h hempty hquery hresult =>
          have hreceives := b.session.receives_receive lib.paho timeoutMs
          rw [h] at hreceives
          cases hreceives with
          | nothing hcollects =>
              have hconnected := s.collects_connected lib.paho
              rw [hquery] at hconnected
              rw [hresult]
              exact (hcollects.trans hconnected).received.trans hreceived
  | execute equipmentId command parameter =>
      show _ = _ ++ []
      rw [List.append_nil]
      cases hr : IndustrialAdapter.execute lib a equipmentId command parameter ids with
      | none => rw [operate_execute_of_none hr]
      | some r =>
          rw [operate_execute_of_some hr] at hafter ⊢
          rcases execute_some hr with ⟨b, _, hrun⟩
          have hends := runCommand_listens lib.text lib.paho command parameter b.mapping
            a ids
          rw [hrun] at hends
          rcases hends with ⟨c, ⟨s, hs, rfl⟩, _, hresult | ⟨reason, ids', hresult⟩⟩
          · rw [hresult]
            exact hs.received
          · rw [hresult] at hafter
            cases hafter
  | stimulate c =>
      show (a.session.callback c).mailbox.received = _ ++ []
      rw [List.append_nil, (a.session.callback_mailbox c).2]
      split
      · rfl
      · exact Mailbox.received_arriveAll _ _

namespace OpenSession

variable {text : TextLib} {id : String} {config : MqttAdapterConfig}

/-- The messages that the operations of the session have handed to `applyMessage`. -/
def handed (o : OpenSession text id config) : List MqttMessage :=
  MqttIndustrialAdapter.handed o.events o.opened

theorem received_run {es : List (AdapterEvent MqttLib PahoCallback)}
    {s : MqttIndustrialAdapter × ClientIds} (hstate : s.1.connectionState = .connected)
    (hes : StaysUp text es s) :
    ((operations MqttIndustrialAdapter).run es s).1.session.mailbox.received =
      s.1.session.mailbox.received ++ MqttIndustrialAdapter.handed es s := by
  induction es generalizing s with
  | nil => exact (List.append_nil _).symm
  | cons event rest ih =>
      rcases hes with ⟨⟨_, hafter⟩, hrest⟩
      have hevent := received_operate event s.2 hstate hafter
      refine (ih hafter hrest).trans ?_
      show (operate event s).2.1.session.mailbox.received ++ _ = _
      rw [hevent, List.append_assoc]
      rfl

theorem received_opened (o : OpenSession text id config) :
    o.opened.1.session.mailbox.received = o.before.1.session.mailbox.received := by
  have hsession : MqttSession.Collects ((o.before.1.session.close o.paho).close o.paho)
      o.opened.1.session :=
    connect_session o.paho o.before.2 o.down o.connects
  have hfirst := o.before.1.session.close_mailbox o.paho
  have hsecond := (o.before.1.session.close o.paho).close_mailbox o.paho
  refine hsession.received.trans ?_
  rw [hsecond.2.2, hfirst.2.2, Mailbox.received_discardAll, Mailbox.received_discardAll]

theorem received_now (o : OpenSession text id config) :
    o.now.1.session.mailbox.received =
      o.before.1.session.mailbox.received ++ o.handed := by
  have hopened := (opened_of_connect o.paho o.before.2 o.down o.connects).1
  refine (received_run hopened o.staysUp).trans ?_
  rw [← o.received_opened]
  rfl

/-!
# Moments of a session
-/

/-- Everything that has arrived since the connect has left the queue or waits in it, in
the order of arrival.  What has left it was handed out or evicted, and it was evicted
only when as many messages as the queue holds arrived behind it. -/
structure Window (o : OpenSession text id config) (told : List MqttMessage)
    (a : MqttIndustrialAdapter) : Prop where
  bounded : a.session.mailbox.queue.length ≤ kMaxQueued
  inOrder : o.arrived a = (o.gone a).map Prod.snd ++ a.session.mailbox.queue
  fates : forall e, e ∈ o.gone a -> e.1 = .received ∨ e.1 = .evicted
  received : Mailbox.withFate .received (o.gone a) = told
  subsequence : told.Sublist (o.arrived a)
  evictedBehind : forall (i : Nat) message,
    (o.gone a)[i]? = some (.evicted, message) ->
      i + kMaxQueued < (o.arrived a).length

theorem window_of_delivered (o : OpenSession text id config)
    {a : MqttIndustrialAdapter} {told : List MqttMessage}
    (h : Delivered text o.before.1.session o.before.1.boundForSession a)
    (hreceived : a.session.mailbox.received =
      o.before.1.session.mailbox.received ++ told) : o.Window told a := by
  rcases h.gone with ⟨gone, hremoved, hkept, _⟩
  have hgone := o.gone_eq hremoved
  have harrived := o.arrived_eq h.heard hremoved
  have htold : Mailbox.withFate .received gone = told := by
    have hbase : Mailbox.withFate .received
        o.before.1.session.mailbox.discardAll.removed =
          o.before.1.session.mailbox.received :=
      Mailbox.received_discardAll _
    rw [Mailbox.received, hremoved, Mailbox.withFate_append, hbase] at hreceived
    exact List.append_cancel_left hreceived
  constructor
  · exact a.session.mailbox.bounded
  · rw [harrived, hgone]
  · rw [hgone]
    rintro ⟨fate, message⟩ he
    cases fate with
    | received => exact Or.inl rfl
    | evicted => exact Or.inr rfl
    | discarded => exact absurd rfl (hkept _ he)
  · rw [hgone, htold]
  · rw [harrived, ← htold]
    have hfilter : (gone.filter (fun e => e.1 = .received)).Sublist gone :=
      List.filter_sublist
    exact (hfilter.map Prod.snd).trans (List.sublist_append_left _ _)
  · intro i message hi
    rw [hgone] at hi
    have hbehind := a.session.mailbox.evicted_behind
      (o.before.1.session.mailbox.discardAll.removed.length + i) message (by
        rw [hremoved, List.getElem?_append_right (Nat.le_add_right _ _),
          Nat.add_sub_cancel_left]
        exact hi)
    rw [hremoved, List.length_append] at hbehind
    rw [harrived, List.length_append, List.length_map]
    omega

/-- At every moment of a session the queue is a window on what arrives.  A poll takes
its messages from the head of the queue it finds, and one that leaves the adapter connected
stops before its last receive only when it finds the queue empty. -/
structure OrderedWindow (o : OpenSession text id config) : Prop where
  moment : forall paho messages p,
    Path (Hands text paho) (pollStart o.now.1) messages p ->
      o.Window (o.handed ++ messages) p.adapter ∧
        messages.length + p.remaining = kMaxMessagesPerPoll
  head : forall paho messages p q message,
    Path (Hands text paho) (pollStart o.now.1) messages p ->
      Hands text paho p message q ->
        exists news, q.adapter.session.heard = p.adapter.session.heard ++ news ∧
          (p.adapter.session.mailbox.queue ++ news).drop
              ((p.adapter.session.mailbox.queue ++ news).length - kMaxQueued) =
            message :: q.adapter.session.mailbox.queue
  stops : forall paho,
    (o.now.1.poll text paho o.now.2).1.connectionState = .connected ->
      exists messages p, Path (Hands text paho) (pollStart o.now.1) messages p ∧
        Stops paho (o.now.1.poll text paho o.now.2).1 p

/-- The receive queue of every session is an ordered window. -/
theorem queue_ordered_window (o : OpenSession text id config) : o.OrderedWindow := by
  rcases o.delivered with ⟨hdelivered, hstate⟩
  constructor
  · intro paho messages p hpath
    have hreceived := Hands.path_received hpath
    refine ⟨?_, hreceived.2⟩
    apply o.window_of_delivered (Hands.path_delivered hpath hdelivered)
    have hnow : (pollStart o.now.1).adapter.session.mailbox.received = _ :=
      o.received_now
    rw [hreceived.1, hnow, List.append_assoc]
  · intro paho messages p q message _ hstep
    cases hstep with
    | @hands n timeoutMs a s message hreceive =>
        have hreceives := a.session.receives_receive paho timeoutMs
        rw [hreceive] at hreceives
        exact hreceives.head.1
  · intro paho hafter
    rw [poll_of_connected text paho hstate] at hafter ⊢
    rcases pollLoop_hands text paho _ _ o.now.1 o.now.2 hafter with ⟨p, hpath, hstops⟩
    exact ⟨_, p, hpath, hstops⟩

end OpenSession

end MqttIndustrialAdapter

end VirtualFactory
