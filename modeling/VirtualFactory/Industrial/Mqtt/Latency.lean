import VirtualFactory.Industrial.Mqtt.Window

/-!
# How long a message waits

While a session stays open, every poll takes from the receive queue what it may take.
Polls alone therefore decide how long a message waits, whatever arrives meanwhile: none
is overtaken, and a full queue is empty of what waits now after eight of them.
-/

namespace VirtualFactory

open Foundation IndustrialAdapter

namespace MqttSession

theorem Collects.served {s t : MqttSession} (h : Collects s t) :
    s.mailbox.Served 0 t.mailbox := by
  rcases h.mailbox with ⟨messages, _, hmailbox⟩
  rw [hmailbox]
  exact s.mailbox.served_arriveAll messages

theorem Receives.served {s t : MqttSession} {message : MqttMessage}
    (h : Receives s (.received message) t) : s.mailbox.Served 1 t.mailbox := by
  cases h with
  | @received u _ _ hcollects htake hclosing hheard =>
      have htaken := u.mailbox.served_take
      rw [htake] at htaken
      have hserved := hcollects.served.trans htaken
      rw [Nat.zero_add] at hserved
      exact hserved

end MqttSession

namespace MqttIndustrialAdapter

def pollCount (es : List (AdapterEvent MqttLib PahoCallback)) : Nat :=
  es.countP (fun event => match event.operation with
    | .poll => true
    | _ => false)

/-!
# What an operation serves
-/

theorem Hands.path_served {text : TextLib} {paho : Paho} {p q : PollPoint}
    {messages : List MqttMessage} (h : Path (Hands text paho) p messages q) :
    p.adapter.session.mailbox.Served messages.length q.adapter.session.mailbox := by
  induction h with
  | nil p => exact p.adapter.session.mailbox.served_refl
  | @cons p p' q message messages hstep hrest ih =>
      cases hstep with
      | @hands n timeoutMs a s message hreceive =>
          have hreceives := a.session.receives_receive paho timeoutMs
          rw [hreceive] at hreceives
          have hserved : a.session.mailbox.Served (1 + messages.length) _ :=
            hreceives.served.trans ih
          rw [Nat.add_comm] at hserved
          exact hserved

theorem pollLoop_served (text : TextLib) (paho : Paho) (n timeoutMs : Nat)
    (a : MqttIndustrialAdapter) (ids : ClientIds)
    (h : (pollLoop text paho n timeoutMs a ids).1.connectionState = .connected) :
    a.session.mailbox.Served n
      (pollLoop text paho n timeoutMs a ids).1.session.mailbox := by
  rcases pollLoop_hands text paho n timeoutMs a ids h with ⟨p, hpath, hstops⟩
  have hserved := Hands.path_served hpath
  have hlength : (pollMessages text paho n timeoutMs a).length + p.remaining = n :=
    (Hands.path_received hpath).2
  generalize pollMessages text paho n timeoutMs a = messages at hpath hserved hlength
  generalize (pollLoop text paho n timeoutMs a ids).1 = result at hstops ⊢
  cases hstops with
  | full =>
      rw [← hlength]
      exact hserved
  | @empty k timeoutMs b s t hreceive hempty hquery hresult =>
      have hreceives := b.session.receives_receive paho timeoutMs
      rw [hreceive] at hreceives
      cases hreceives with
      | nothing hcollects =>
          have hconnected := s.collects_connected paho
          rw [hquery] at hconnected
          have hnothing := (hcollects.served.trans
            (Mailbox.served_of_empty hempty (k + 1))).trans hconnected.served
          rw [Nat.zero_add, Nat.add_zero] at hnothing
          rw [← hlength, hresult]
          exact hserved.trans hnothing

/-- An operation that leaves the adapter connected throws nothing away, and a poll serves
as many messages as it may receive. -/
theorem served_operate (event : AdapterEvent MqttLib PahoCallback)
    {a : MqttIndustrialAdapter} (ids : ClientIds)
    (hstate : a.connectionState = .connected)
    (hafter : (operate event (a, ids)).2.1.connectionState = .connected) :
    a.session.mailbox.Served (kMaxMessagesPerPoll * pollCount [event])
      (operate event (a, ids)).2.1.session.mailbox := by
  rcases event with ⟨operation, lib⟩
  cases operation with
  | connect =>
      show a.session.mailbox.Served 0 (a.connect lib.paho ids).2.1.session.mailbox
      unfold connect
      rw [if_pos hstate]
      exact a.session.mailbox.served_refl
  | disconnect => cases hafter
  | poll =>
      have hloop : (operate ⟨.poll, lib⟩ (a, ids)).2 =
          pollLoop lib.text lib.paho kMaxMessagesPerPoll (pollTimeout a.config) a ids :=
        poll_of_connected lib.text lib.paho hstate ids
      rw [hloop] at hafter ⊢
      exact pollLoop_served lib.text lib.paho _ _ a ids hafter
  | execute equipmentId command parameter =>
      show a.session.mailbox.Served 0 _
      cases hr : IndustrialAdapter.execute lib a equipmentId command parameter ids with
      | none =>
          rw [operate_execute_of_none hr]
          exact a.session.mailbox.served_refl
      | some r =>
          rw [operate_execute_of_some hr] at hafter ⊢
          rcases execute_some hr with ⟨b, _, hrun⟩
          have hends := runCommand_listens lib.text lib.paho command parameter b.mapping
            a ids
          rw [hrun] at hends
          rcases hends with ⟨c, ⟨s, hs, rfl⟩, _, hresult | ⟨reason, ids', hresult⟩⟩
          · rw [hresult]
            exact hs.served
          · rw [hresult] at hafter
            cases hafter
  | stimulate c =>
      show a.session.mailbox.Served 0 (a.session.callback c).mailbox
      rw [(a.session.callback_mailbox c).2]
      split
      · exact a.session.mailbox.served_refl
      · exact a.session.mailbox.served_arriveAll _

/-- While the session stays open, its polls alone decide how far it has come. -/
theorem served_run {text : TextLib} {es : List (AdapterEvent MqttLib PahoCallback)}
    {s : MqttIndustrialAdapter × ClientIds} (hstate : s.1.connectionState = .connected)
    (hes : StaysUp text es s) :
    s.1.session.mailbox.Served (kMaxMessagesPerPoll * pollCount es)
      ((operations MqttIndustrialAdapter).run es s).1.session.mailbox := by
  induction es generalizing s with
  | nil => exact s.1.session.mailbox.served_refl
  | cons event rest ih =>
      rcases hes with ⟨⟨_, hafter⟩, hrest⟩
      have hevent := served_operate event s.2 hstate hafter
      have hcount : pollCount ([event] ++ rest) = pollCount [event] + pollCount rest :=
        List.countP_append
      rw [List.singleton_append] at hcount
      rw [hcount, Nat.mul_add]
      exact hevent.trans (ih hafter hrest)

/-!
# Sessions that go on
-/

namespace OpenSession

variable {text : TextLib} {id : String} {config : MqttAdapterConfig}

def extend (o : OpenSession text id config)
    (more : List (AdapterEvent MqttLib PahoCallback)) (hmore : StaysUp text more o.now) :
    OpenSession text id config :=
  { o with
    events := o.events ++ more
    staysUp := Machine.admissible_append.mpr ⟨o.staysUp, hmore⟩ }

theorem now_extend (o : OpenSession text id config)
    (more : List (AdapterEvent MqttLib PahoCallback)) (hmore : StaysUp text more o.now) :
    (o.extend more hmore).now = (operations MqttIndustrialAdapter).run more o.now :=
  Machine.run_append _ _ _ _

theorem lengths (o : OpenSession text id config) {a : MqttIndustrialAdapter}
    (hheard : exists messages, a.session.heard = o.before.1.session.heard ++ messages ∧
      a.session.mailbox.arrivals = o.before.1.session.mailbox.arrivals ++ messages)
    {gone : List (Fate × MqttMessage)}
    (h : a.session.mailbox.removed =
      o.before.1.session.mailbox.discardAll.removed ++ gone) :
    a.session.mailbox.removed.length =
        o.before.1.session.mailbox.arrivals.length + (o.gone a).length ∧
      a.session.mailbox.arrivals.length =
        o.before.1.session.mailbox.arrivals.length + (o.arrived a).length := by
  have hdiscarded := o.length_discardAll
  have hremoved := congrArg List.length h
  have harrivals : a.session.mailbox.arrivals.length =
      a.session.mailbox.removed.length + a.session.mailbox.queue.length := by
    rw [Mailbox.arrivals, List.length_append, List.length_map]
  rw [List.length_append] at hremoved
  rw [o.gone_eq h, o.arrived_eq hheard h, List.length_append, List.length_map]
  omega

/-- What becomes of the messages that wait at some moment of a session.  The first ones,
as many as the polls after it may receive, have left the queue: each was applied to the
machines, or as many messages as the queue holds have arrived behind it.  Those that had
left before keep their fate, and the machines show the last ones that were applied. -/
structure Timely (o : OpenSession text id config) (found after : MqttIndustrialAdapter)
    (polls : Nat) : Prop where
  kept : o.gone found <+: o.gone after
  arrived : o.arrived found <+: o.arrived after
  served : forall (i : Nat) message, (o.arrived found)[i]? = some message ->
    i < (o.gone found).length + kMaxMessagesPerPoll * polls ->
      (o.gone after)[i]? = some (.received, message) ∨
        ((o.gone after)[i]? = some (.evicted, message) ∧
          i + kMaxQueued < (o.arrived after).length)
  everything : kMaxQueued ≤ kMaxMessagesPerPoll * polls ->
    (o.arrived found).length ≤ (o.gone after).length
  shown : ShowsLast text config (Mailbox.withFate .received (o.gone after)) after

/-- In every session that goes on, messages wait for at most as many polls as it takes
to receive what waits in front of them. -/
theorem messages_timely (o : OpenSession text id config)
    {more : List (AdapterEvent MqttLib PahoCallback)} (hmore : StaysUp text more o.now) :
    o.Timely o.now.1 ((operations MqttIndustrialAdapter).run more o.now).1
      (pollCount more) := by
  have hextended := (o.extend more hmore).delivered
  have hreceived := (o.extend more hmore).received_now
  have hserved := served_run o.delivered.2 hmore
  rw [o.now_extend more hmore] at hextended hreceived
  generalize ((operations MqttIndustrialAdapter).run more o.now).1 = after at *
  have hdelivered : Delivered text o.before.1.session
      o.before.1.boundForSession after := hextended.1
  have hwindow := o.window_of_delivered hdelivered hreceived
  rcases o.delivered.1.gone with ⟨gone, hgone, _, _⟩
  rcases hdelivered.gone with ⟨goneAfter, hgoneAfter, _, hbound⟩
  have hbefore := o.lengths o.delivered.1.heard hgone
  have hafter := o.lengths hdelivered.heard hgoneAfter
  have harrived : o.arrived o.now.1 <+: o.arrived after := by
    rw [o.arrived_mailbox o.delivered.1.heard, o.arrived_mailbox hdelivered.heard]
    exact hserved.arrivals.drop _
  constructor
  · exact hserved.removed.drop _
  · exact harrived
  · intro i message hi hroom
    have hlt := (List.getElem?_eq_some_iff.mp hi).1
    have hprogress := hserved.progress
    have hleft : i < ((o.gone after).map Prod.snd).length := by
      rw [List.length_map]
      omega
    have hthere : (o.arrived after)[i]? = some message := by
      rcases harrived with ⟨later, hlater⟩
      rw [← hlater, List.getElem?_append_left hlt]
      exact hi
    rw [hwindow.inOrder, List.getElem?_append_left hleft, List.getElem?_map] at hthere
    rcases Option.map_eq_some_iff.mp hthere with ⟨⟨fate, _⟩, he, rfl⟩
    rcases hwindow.fates _ (List.mem_of_getElem? he) with rfl | rfl
    · exact Or.inl he
    · exact Or.inr ⟨he, hwindow.evictedBehind i _ he⟩
  · intro hpolls
    have hall := hserved.everything hpolls
    omega
  · rw [o.gone_eq hgoneAfter]
    apply o.showsLast_of_bound
    · rw [hextended.2]
      exact fun h => ConnectionState.noConfusion h
    · exact hbound

end OpenSession

/-- The message of the press has waited, and one poll is enough for it. -/
theorem messages_timely_pressSession :
    pressSession.Timely pressSession.now.1
      ((operations MqttIndustrialAdapter).run [obliged .poll] pressSession.now).1 1 :=
  pressSession.messages_timely ⟨⟨rfl, by decide⟩, trivial⟩

end MqttIndustrialAdapter

end VirtualFactory
