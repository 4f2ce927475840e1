import VirtualFactory.Industrial.Mqtt.Delivery

/-!
# The latest values

What a machine shows for a signal is what the last message said that was applied to
it.  Which messages are applied depends on what the mailbox still held when the poll
took them out, and on whether the poll saw that the connection was lost.
-/

namespace VirtualFactory

open Foundation IndustrialAdapter

theorem MqttSession.receive_obliging (timeoutMs : Nat) {s : MqttSession}
    (hhandle : s.handle = true) (hlost : s.lost = false) :
    exists calls, s.receive Paho.obliging timeoutMs =
      match s.mailbox.take with
      | (none, _) => (.nothing, { s with calls := calls })
      | (some message, mailbox) =>
          (.received message, { s with calls := calls, mailbox := mailbox }) := by
  refine ⟨.wait timeoutMs :: .isConnected :: .lock :: s.calls, ?_⟩
  rcases htake : s.mailbox.take with ⟨_ | _, _⟩ <;>
    simp only [receive, call, Paho.obliging, List.foldl_nil, hhandle, hlost, takeMessage,
      Bool.false_eq_true, if_false, if_true, Bool.not_true, Bool.false_and, htake]

namespace MqttIndustrialAdapter

/-!
# Signals and their messages
-/

/-- A signal that one entry of the mapping alone is for. -/
def MappedOnce (m : MqttEquipmentMapping) : Signal -> Prop
  | .telemetry name => exists point, m.telemetry.filter (fun p => p.name = name) = [point]
  | .state => m.state.mapped = true
  | .fault => m.fault.mapped = true

/-- What a message on the topic of a signal says about it, if it can be decoded. -/
def decoded (text : TextLib) (m : MqttEquipmentMapping) (signal : Signal)
    (message : MqttMessage) : Option Reading :=
  match signal with
  | .telemetry name =>
      (m.telemetry.find? (fun p => p.name = name)).bind
        (telemetryReading text message)
  | .state => signalReading text message .state m.state
  | .fault => signalReading text message .fault m.fault

theorem signal_of_telemetryReading {text : TextLib} {message : MqttMessage}
    {point : MqttTelemetryMapping} {r : Reading}
    (h : telemetryReading text message point = some r) :
    r.signal = .telemetry point.name := by
  unfold telemetryReading at h
  split at h
  · cases h
  · rcases Option.map_eq_some_iff.mp h with ⟨value, _, rfl⟩
    rfl

theorem exists_of_signalReading {text : TextLib} {message : MqttMessage}
    {toReading : Bool -> Reading} {mapping : MqttSignalMapping} {r : Reading}
    (h : signalReading text message toReading mapping = some r) :
    exists flag, r = toReading flag := by
  unfold signalReading at h
  split at h
  · rcases Option.map_eq_some_iff.mp h with ⟨flag, _, rfl⟩
    exact ⟨flag, rfl⟩
  · cases h

theorem lastReading_telemetry (text : TextLib) (message : MqttMessage)
    (name : String) (points : List MqttTelemetryMapping) :
    lastReading (.telemetry name)
        (points.filterMap (telemetryReading text message)) =
      ((points.filter (fun p => p.name = name)).filterMap
        (telemetryReading text message)).getLast? := by
  induction points with
  | nil => rfl
  | cons point rest ih =>
      by_cases hname : point.name = name
      · rw [List.filter_cons_of_pos (by simpa using hname)]
        cases hr : telemetryReading text message point with
        | none => rw [List.filterMap_cons_none hr, List.filterMap_cons_none hr, ih]
        | some r =>
            rw [List.filterMap_cons_some hr, List.filterMap_cons_some hr, lastReading,
              ih, signal_of_telemetryReading hr, hname, if_pos rfl, List.getLast?_cons]
            cases ((rest.filter fun p => p.name = name).filterMap
              (telemetryReading text message)).getLast? <;> rfl
      · rw [List.filter_cons_of_neg (by simpa using hname), ← ih]
        cases hr : telemetryReading text message point with
        | none => rw [List.filterMap_cons_none hr]
        | some r =>
            have hsignal : r.signal ≠ .telemetry name := by
              rw [signal_of_telemetryReading hr]
              exact fun hsame => hname (Signal.telemetry.inj hsame)
            rw [List.filterMap_cons_some hr, lastReading, if_neg hsignal,
              Option.or_none]

theorem lastReading_messageReadings (text : TextLib) {m : MqttEquipmentMapping}
    (message : MqttMessage) {signal : Signal} (h : MappedOnce m signal) :
    lastReading signal (messageReadings text m message) =
      decoded text m signal message := by
  have hpoints : forall r, r ∈ m.telemetry.filterMap (telemetryReading text message) ->
      exists name, r.signal = .telemetry name := by
    intro r hr
    rcases List.mem_filterMap.mp hr with ⟨point, _, hpoint⟩
    exact ⟨point.name, signal_of_telemetryReading hpoint⟩
  have hstate : forall r, signalReading text message .state m.state = some r ->
      r.signal = .state := by
    intro r hr
    rcases exists_of_signalReading hr with ⟨flag, rfl⟩
    rfl
  have hfault : forall r, signalReading text message .fault m.fault = some r ->
      r.signal = .fault := by
    intro r hr
    rcases exists_of_signalReading hr with ⟨flag, rfl⟩
    rfl
  have hsingle : forall (value : Option Reading),
      (forall r, value = some r -> r.signal = signal) ->
        lastReading signal value.toList = value := by
    intro value hvalue
    cases value with
    | none => rfl
    | some r => simp [lastReading, hvalue r rfl]
  have hother : forall (value : Option Reading),
      (forall r, value = some r -> r.signal ≠ signal) ->
        lastReading signal value.toList = none := by
    intro value hvalue
    apply lastReading_eq_none
    intro r hr
    exact hvalue r (Option.mem_toList.mp hr)
  unfold messageReadings
  rw [lastReading_append, lastReading_append]
  cases signal with
  | telemetry name =>
      rcases h with ⟨point, hpoint⟩
      have hfind : m.telemetry.find? (fun p => p.name = name) = some point := by
        rw [← List.head?_filter, hpoint]
        rfl
      rw [hother _ (fun r hr => by simp [hfault r hr]),
        hother _ (fun r hr => by simp [hstate r hr]), lastReading_telemetry, hpoint]
      show _ = (m.telemetry.find? (fun p => p.name = name)).bind _
      rw [hfind, Option.bind_some]
      cases hr : telemetryReading text message point <;> simp [hr]
  | state =>
      have hnone : lastReading .state
          (m.telemetry.filterMap (telemetryReading text message)) = none := by
        apply lastReading_eq_none
        intro r hr
        rcases hpoints r hr with ⟨name, hname⟩
        simp [hname]
      rw [hnone, hother _ (fun r hr => by simp [hfault r hr]), hsingle _ hstate]
      simp [decoded]
  | fault =>
      have hnone : lastReading .fault
          (m.telemetry.filterMap (telemetryReading text message)) = none := by
        apply lastReading_eq_none
        intro r hr
        rcases hpoints r hr with ⟨name, hname⟩
        simp [hname]
      rw [hnone, hsingle _ hfault, hother _ (fun r hr => by simp [hstate r hr])]
      simp [decoded]

theorem foldl_applyTo (text : TextLib) (messages : List MqttMessage)
    (b : BoundEquipment MqttEquipmentMapping) :
    messages.foldl (applyTo text) b =
      b.store (messages.flatMap (messageReadings text b.mapping)) := by
  induction messages generalizing b with
  | nil => rfl
  | cons message rest ih =>
      rw [List.foldl_cons, ih, List.flatMap_cons, BoundEquipment.store_append]
      rfl

/-- For every signal that is mapped once, the machine of each mapping shows what the
last message of the list said that could be decoded. -/
def ShowsLast (text : TextLib) (config : MqttAdapterConfig)
    (messages : List MqttMessage) (a : MqttIndustrialAdapter) : Prop :=
  forall (i : Nat) m, config.equipment[i]? = some m ->
    exists e : GenericEquipment, a.core.equipment[i]? = some (some e.view) ∧
      forall signal r, MappedOnce m signal ->
        (messages.filterMap (decoded text m signal)).getLast? = some r ->
          e.shown signal = some r

theorem equipment_of_not_disconnected {a : MqttIndustrialAdapter}
    (h : a.connectionState ≠ .disconnected) :
    a.core.equipment = a.core.bound.map (fun b => some b.inner.view) := by
  have hexposed : a.core.exposedBound = a.core.bound := if_neg h
  unfold ProtocolAdapter.equipment
  rw [hexposed]

theorem shown_foldl_applyTo (text : TextLib) (messages : List MqttMessage)
    (b : BoundEquipment MqttEquipmentMapping) {signal : Signal}
    (h : MappedOnce b.mapping signal) :
    (messages.foldl (applyTo text) b).inner.shown signal =
      ((messages.filterMap (decoded text b.mapping signal)).getLast?).or
        (b.inner.shown signal) := by
  have hdecoded : (fun message =>
      lastReading signal (messageReadings text b.mapping message)) =
        decoded text b.mapping signal := by
    funext message
    exact lastReading_messageReadings text message h
  rw [foldl_applyTo, ← hdecoded, ← lastReading_flatMap]
  exact GenericEquipment.shown_foldl_applyReading _ b.inner signal

/-!
# Sessions that stay open
-/

/-- Operations and callbacks, decoded by one library, that leave the adapter
connected. -/
def StaysUp (text : TextLib) (es : List (AdapterEvent MqttLib PahoCallback))
    (s : MqttIndustrialAdapter × ClientIds) : Prop :=
  (operations MqttIndustrialAdapter).Admissible
    (fun event s => event.device.text = text ∧
      (operate event s).2.1.connectionState = .connected) es s

/-- An adapter is operated in some way, connects, and stays connected. -/
structure OpenSession (text : TextLib) (id : String) (config : MqttAdapterConfig) where
  earlier : List (AdapterEvent MqttLib PahoCallback)
  clientIds : ClientIds
  paho : Paho
  events : List (AdapterEvent MqttLib PahoCallback)
  down : ((operations MqttIndustrialAdapter).run earlier
    (MqttIndustrialAdapter.new id config, clientIds)).1.connectionState ≠ .connected
  connects : (((operations MqttIndustrialAdapter).run earlier
    (MqttIndustrialAdapter.new id config, clientIds)).1.connect paho
      ((operations MqttIndustrialAdapter).run earlier
        (MqttIndustrialAdapter.new id config, clientIds)).2).1 = true
  staysUp : StaysUp text events
    (((operations MqttIndustrialAdapter).run earlier
      (MqttIndustrialAdapter.new id config, clientIds)).1.connect paho
        ((operations MqttIndustrialAdapter).run earlier
          (MqttIndustrialAdapter.new id config, clientIds)).2).2

namespace OpenSession

variable {text : TextLib} {id : String} {config : MqttAdapterConfig}

def before (o : OpenSession text id config) : MqttIndustrialAdapter × ClientIds :=
  (operations MqttIndustrialAdapter).run o.earlier
    (MqttIndustrialAdapter.new id config, o.clientIds)

def opened (o : OpenSession text id config) : MqttIndustrialAdapter × ClientIds :=
  (o.before.1.connect o.paho o.before.2).2

def now (o : OpenSession text id config) : MqttIndustrialAdapter × ClientIds :=
  (operations MqttIndustrialAdapter).run o.events o.opened

/-- The messages that have arrived since the connect, in order: those of the callbacks
that the library has run. -/
def arrived (o : OpenSession text id config) (a : MqttIndustrialAdapter) :
    List MqttMessage :=
  a.session.heard.drop o.before.1.session.heard.length

/-- The messages that have left the mailbox since the connect, in order and with what
became of them. -/
def gone (o : OpenSession text id config) (a : MqttIndustrialAdapter) :
    List (Fate × MqttMessage) :=
  a.session.mailbox.removed.drop o.before.1.session.mailbox.arrivals.length

theorem length_discardAll (o : OpenSession text id config) :
    o.before.1.session.mailbox.discardAll.removed.length =
      o.before.1.session.mailbox.arrivals.length := by
  simp [Mailbox.discardAll, Mailbox.arrivals]

theorem binds_run {s : MqttIndustrialAdapter × ClientIds} (h : Binds config s.1)
    (es : List (AdapterEvent MqttLib PahoCallback)) :
    Binds config ((operations MqttIndustrialAdapter).run es s).1 := by
  have hstep : forall (event : AdapterEvent MqttLib PahoCallback)
      (s : MqttIndustrialAdapter × ClientIds), True -> Binds config s.1 ->
        Binds config ((operations MqttIndustrialAdapter).step event s).2.1 :=
    fun event s _ hs => stable_binds config event s.1 s.2 hs
  exact Machine.run_invariant hstep h (Machine.admissible_true _ es s)

theorem binds (o : OpenSession text id config) :
    Binds config o.before.1 ∧ Binds config o.now.1 := by
  have hbefore := binds_run (s := (MqttIndustrialAdapter.new id config, o.clientIds))
    (binds_new id config) o.earlier
  exact ⟨hbefore,
    binds_run (s := o.opened) (binds_connect o.paho hbefore o.before.2) o.events⟩

theorem delivered (o : OpenSession text id config) :
    Delivered text o.before.1.session o.before.1.boundForSession o.now.1 ∧
      o.now.1.connectionState = .connected := by
  have hstep : forall (event : AdapterEvent MqttLib PahoCallback)
      (s : MqttIndustrialAdapter × ClientIds),
      (event.device.text = text ∧ (operate event s).2.1.connectionState = .connected) ->
        (Delivered text o.before.1.session o.before.1.boundForSession s.1 ∧ s.1.connectionState = .connected) ->
          (Delivered text o.before.1.session o.before.1.boundForSession
              ((operations MqttIndustrialAdapter).step event s).2.1 ∧
            ((operations MqttIndustrialAdapter).step event
              s).2.1.connectionState = .connected) := by
    rintro event ⟨a, ids⟩ ⟨rfl, hafter⟩ ⟨hdelivered, hstate⟩
    exact ⟨delivered_operate event hdelivered hstate ids hafter, hafter⟩
  have hopened := (opened_of_connect o.paho o.before.2 o.down o.connects).1
  exact Machine.run_invariant hstep
    ⟨delivered_connect text o.paho o.before.2 o.down o.connects, hopened⟩ o.staysUp

/-!
# When a poll finds the mailbox empty
-/

/-- What a poll promises that found the mailbox empty.  The machines show the last
messages that were not evicted, and a message was only evicted when as many messages
arrived behind it as the mailbox holds. -/
structure LatestValues (o : OpenSession text id config)
    (found after : MqttIndustrialAdapter) : Prop where
  whole : o.arrived found = (o.gone found).map Prod.snd
  fates : forall e, e ∈ o.gone found -> e.1 = .received ∨ e.1 = .evicted
  behind : forall i message, (o.gone found)[i]? = some (.evicted, message) ->
    i + kMaxQueued < (o.arrived found).length
  shown : ShowsLast text config (Mailbox.withFate .received (o.gone found)) after

theorem gone_eq (o : OpenSession text id config) {a : MqttIndustrialAdapter}
    {gone : List (Fate × MqttMessage)}
    (h : a.session.mailbox.removed =
      o.before.1.session.mailbox.discardAll.removed ++ gone) : o.gone a = gone := by
  unfold OpenSession.gone
  rw [h, ← o.length_discardAll, List.drop_left]

/-- The mailbox accounts for every message that callbacks brought. -/
theorem arrived_mailbox (o : OpenSession text id config) {a : MqttIndustrialAdapter}
    (h : exists messages, a.session.heard = o.before.1.session.heard ++ messages ∧
      a.session.mailbox.arrivals = o.before.1.session.mailbox.arrivals ++ messages) :
    o.arrived a =
      a.session.mailbox.arrivals.drop o.before.1.session.mailbox.arrivals.length := by
  rcases h with ⟨messages, hheard, harrivals⟩
  unfold OpenSession.arrived
  rw [hheard, harrivals, List.drop_left, List.drop_left]

theorem arrived_eq (o : OpenSession text id config) {a : MqttIndustrialAdapter}
    (hheard : exists messages, a.session.heard = o.before.1.session.heard ++ messages ∧
      a.session.mailbox.arrivals = o.before.1.session.mailbox.arrivals ++ messages)
    {gone : List (Fate × MqttMessage)}
    (h : a.session.mailbox.removed =
      o.before.1.session.mailbox.discardAll.removed ++ gone) :
    o.arrived a = gone.map Prod.snd ++ a.session.mailbox.queue := by
  rw [o.arrived_mailbox hheard]
  unfold Mailbox.arrivals
  rw [h, List.map_append, List.append_assoc]
  exact List.drop_left' (by rw [List.length_map, o.length_discardAll]; rfl)

theorem showsLast_of_bound (o : OpenSession text id config)
    {messages : List MqttMessage} {a : MqttIndustrialAdapter}
    (hstate : a.connectionState ≠ .disconnected)
    (hbound : a.core.bound =
      o.before.1.boundForSession.map (fun b => messages.foldl (applyTo text) b)) :
    ShowsLast text config messages a := by
  intro i m hm
  have hmappings := o.binds.1.map_boundForSession
  rw [← hmappings, List.getElem?_map] at hm
  rcases Option.map_eq_some_iff.mp hm with ⟨b, hb, rfl⟩
  refine ⟨(messages.foldl (applyTo text) b).inner, ?_, ?_⟩
  · rw [equipment_of_not_disconnected hstate, hbound, List.getElem?_map,
      List.getElem?_map, hb]
    rfl
  · intro signal r hmapped hlast
    rw [shown_foldl_applyTo text messages b hmapped, hlast, Option.some_or]

theorem bound_poll (o : OpenSession text id config) {paho : Paho}
    {found : MqttIndustrialAdapter}
    (h : FindsEmpty text paho kMaxMessagesPerPoll (pollTimeout config) o.now.1
      found) :
    (o.now.1.poll text paho o.now.2).1.core.bound = found.core.bound := by
  rcases o.delivered with ⟨hdelivered, hstate⟩
  have hconfig := o.binds.2.sameConfig
  rw [poll_of_connected text paho hstate, hconfig]
  exact (h.spec hdelivered o.now.2).2.2

/-- Whenever a poll finds the mailbox empty, every signal that is mapped once shows
the last message on its topic that was not evicted. -/
theorem poll_shows_latest (o : OpenSession text id config) {paho : Paho}
    {found : MqttIndustrialAdapter}
    (h : FindsEmpty text paho kMaxMessagesPerPoll (pollTimeout config) o.now.1
      found) :
    o.LatestValues found (o.now.1.poll text paho o.now.2).1 := by
  rcases o.delivered with ⟨hdelivered, hstate⟩
  rcases h.spec hdelivered o.now.2 with ⟨hfound, hempty, _⟩
  rcases hfound.gone with ⟨gone, hremoved, hkept, hmachines⟩
  have hfates : forall e, e ∈ gone -> e.1 = Fate.received ∨ e.1 = Fate.evicted := by
    rintro ⟨fate, message⟩ he
    cases fate with
    | received => exact Or.inl rfl
    | evicted => exact Or.inr rfl
    | discarded => exact absurd rfl (hkept _ he)
  have harrived : o.arrived found = gone.map Prod.snd := by
    rw [o.arrived_eq hfound.heard hremoved, hempty, List.append_nil]
  refine ⟨?_, ?_, ?_, ?_⟩
  · rw [harrived, o.gone_eq hremoved]
  · rw [o.gone_eq hremoved]
    exact hfates
  · intro i message hi
    rw [o.gone_eq hremoved] at hi
    have hbehind := found.session.mailbox.evicted_behind
      (o.before.1.session.mailbox.discardAll.removed.length + i) message (by
        rw [hremoved, List.getElem?_append_right (Nat.le_add_right _ _),
          Nat.add_sub_cancel_left]
        exact hi)
    rw [hremoved, hempty, List.length_append, List.length_nil] at hbehind
    rw [harrived, List.length_map]
    omega
  · rw [o.gone_eq hremoved]
    apply o.showsLast_of_bound
    · exact connectionState_poll text paho hstate o.now.2
    · rw [o.bound_poll h, hmachines]

end OpenSession

/-!
# A burst of messages

A library that reports no loss lets a poll receive everything that waits.
-/

/-- An adapter that has some copies of one message to receive, which says nothing about its
machines. -/
structure Draining (message : MqttMessage) (arrivals : List MqttMessage)
    (start : List (BoundEquipment MqttEquipmentMapping)) (n : Nat)
    (a : MqttIndustrialAdapter) : Prop where
  connected : a.connectionState = .connected
  handle : a.session.handle = true
  noLoss : a.session.lost = false
  isConnected : a.session.isConnected = true
  heard : a.session.heard = arrivals
  queue : a.session.mailbox.queue = List.replicate n message
  bound : a.core.bound = start

theorem Draining.receive {message : MqttMessage} {arrivals : List MqttMessage}
    {start : List (BoundEquipment MqttEquipmentMapping)} {n : Nat}
    {a : MqttIndustrialAdapter} (h : Draining message arrivals start (n + 1) a)
    (text : TextLib) (hsilent : start.map (fun b => applyTo text b message) = start)
    (timeoutMs : Nat) :
    exists s, a.session.receive Paho.obliging timeoutMs = (.received message, s) ∧
      Draining message arrivals start n ((a.withSession s).applyMessage text message) := by
  rcases MqttSession.receive_obliging timeoutMs h.handle h.noLoss with ⟨calls, hreceive⟩
  rcases a.session.mailbox.take_cases with ⟨hempty, _⟩ | ⟨x, hqueue, hsome, _⟩
  · rw [h.queue] at hempty
    cases hempty
  · rw [h.queue, List.replicate_succ] at hqueue
    have hx : message = x := (List.cons.inj hqueue).1
    have htake : a.session.mailbox.take = (some message, a.session.mailbox.take.2) := by
      rw [hx, ← hsome]
    rw [htake] at hreceive
    refine ⟨_, hreceive, ?_⟩
    exact
        { connected := h.connected
          handle := h.handle
          noLoss := h.noLoss
          isConnected := h.isConnected
          heard := h.heard
          queue := (List.cons.inj hqueue).2.symm
          bound := by
            show a.core.bound.map _ = start
            rw [h.bound]
            exact hsilent }

theorem Draining.receive_nothing {message : MqttMessage} {arrivals : List MqttMessage}
    {start : List (BoundEquipment MqttEquipmentMapping)}
    {a : MqttIndustrialAdapter} (h : Draining message arrivals start 0 a)
    (timeoutMs : Nat) :
    exists s, a.session.receive Paho.obliging timeoutMs = (.nothing, s) ∧
      Draining message arrivals start 0 (a.withSession s) := by
  rcases MqttSession.receive_obliging timeoutMs h.handle h.noLoss with ⟨calls, hreceive⟩
  rcases a.session.mailbox.take_cases with ⟨_, htake⟩ | ⟨x, hqueue, _⟩
  · rw [htake] at hreceive
    exact ⟨_, hreceive, h.connected, h.handle, h.noLoss, h.isConnected, h.heard,
      h.queue, h.bound⟩
  · rw [h.queue] at hqueue
    cases hqueue

variable {message : MqttMessage} {arrivals : List MqttMessage}
  {start : List (BoundEquipment MqttEquipmentMapping)}

theorem Draining.pollLoop (text : TextLib)
    (hsilent : start.map (fun b => applyTo text b message) = start) (ids : ClientIds)
    (n k timeoutMs : Nat) {a : MqttIndustrialAdapter}
    (h : Draining message arrivals start (k + n) a) :
    exists b, MqttIndustrialAdapter.pollLoop text Paho.obliging n timeoutMs a ids =
        (b, ids) ∧
      Draining message arrivals start k b := by
  induction n generalizing timeoutMs a with
  | zero => exact ⟨a, rfl, h⟩
  | succ n ih =>
      rcases h.receive text hsilent timeoutMs with ⟨s, hs, hrest⟩
      rcases ih 0 hrest with ⟨b, hb, hdraining⟩
      refine ⟨b, ?_, hdraining⟩
      unfold MqttIndustrialAdapter.pollLoop
      rw [hs]
      exact hb

theorem Draining.findsEmpty (text : TextLib)
    (hsilent : start.map (fun b => applyTo text b message) = start)
    {k n : Nat} (hroom : k < n) (timeoutMs : Nat) {a : MqttIndustrialAdapter}
    (h : Draining message arrivals start k a) :
    exists b, FindsEmpty text Paho.obliging n timeoutMs a b ∧
      Draining message arrivals start 0 b := by
  induction k generalizing n timeoutMs a with
  | zero =>
      rcases h.receive_nothing timeoutMs with ⟨s, hs, hdraining⟩
      rcases Nat.exists_eq_add_one.mpr hroom with ⟨n, rfl⟩
      exact ⟨_, FindsEmpty.here hs, hdraining⟩
  | succ k ih =>
      rcases h.receive text hsilent timeoutMs with ⟨s, hs, hrest⟩
      rcases Nat.exists_eq_add_one.mpr (Nat.zero_lt_of_lt hroom) with ⟨n, rfl⟩
      rcases ih (Nat.lt_of_succ_lt_succ hroom) 0 hrest with ⟨b, hb, hdraining⟩
      exact ⟨b, FindsEmpty.later hs hb, hdraining⟩

def obliged (operation : AdapterOperation PahoCallback) :
    AdapterEvent MqttLib PahoCallback where
  operation := operation
  device := { text := default, paho := Paho.obliging }

def deliveries (messages : List MqttMessage) : List (AdapterEvent MqttLib PahoCallback) :=
  messages.map (fun m => obliged (.stimulate (.message m)))

theorem run_deliveries (messages : List MqttMessage)
    {s : MqttIndustrialAdapter × ClientIds} (hclosing : s.1.session.closing = false) :
    (operations MqttIndustrialAdapter).run (deliveries messages) s =
        (s.1.withSession
          { s.1.session with
            mailbox := s.1.session.mailbox.arriveAll messages
            heard := s.1.session.heard ++ messages },
          s.2) ∧
      (s.1.connectionState = .connected -> StaysUp default (deliveries messages) s) := by
  induction messages generalizing s with
  | nil =>
      refine ⟨?_, fun _ => trivial⟩
      rw [List.append_nil]
      rfl
  | cons m rest ih =>
      have hmessage : s.1.session.onMessage m =
          { s.1.session with mailbox := s.1.session.mailbox.arrive m } :=
        if_neg (by simp [hclosing])
      have hheard : (if s.1.session.closing then s.1.session.heard
          else s.1.session.heard ++ [m]) = s.1.session.heard ++ [m] :=
        if_neg (by simp [hclosing])
      have hstep : (operate (obliged (.stimulate (.message m))) s).2 =
          (s.1.withSession
            { s.1.session with
              mailbox := s.1.session.mailbox.arrive m
              heard := s.1.session.heard ++ [m] }, s.2) := by
        show (s.1.withSession
          { s.1.session.onMessage m with
            heard := if s.1.session.closing then s.1.session.heard
              else s.1.session.heard ++ [m] }, s.2) = _
        rw [hmessage, hheard]
      have hrest := ih (s := (operate (obliged (.stimulate (.message m))) s).2)
        (by rw [hstep]; exact hclosing)
      constructor
      · refine hrest.1.trans ?_
        rw [hstep, List.append_cons s.1.session.heard m rest]
        rfl
      · intro hstate
        have hafter : (operate (obliged (.stimulate (.message m)))
            s).2.1.connectionState = .connected := by
          rw [hstep]
          exact hstate
        exact ⟨⟨rfl, hafter⟩, hrest.2 hafter⟩

theorem draining_deliveries (first : MqttMessage) {n : Nat} (hn : n = kMaxQueued)
    {s : MqttIndustrialAdapter × ClientIds} (hclosing : s.1.session.closing = false)
    (h : Draining message [] start 0 s.1) :
    Draining message (first :: List.replicate n message) start n
      ((operations MqttIndustrialAdapter).run
        (deliveries (first :: List.replicate n message)) s).1 := by
  rw [(run_deliveries _ hclosing).1]
  exact
    { connected := h.connected
      handle := h.handle
      noLoss := h.noLoss
      isConnected := h.isConnected
      heard := by
        show s.1.session.heard ++ _ = _
        rw [h.heard, List.nil_append]
      queue := Mailbox.queue_arriveAll_cons h.queue first
        (List.length_replicate.trans hn)
      bound := h.bound }

theorem Draining.run_polls
    (hsilent : start.map (fun b => applyTo default b message) = start) (k n : Nat)
    {s : MqttIndustrialAdapter × ClientIds}
    (h : Draining message arrivals start (k + n * kMaxMessagesPerPoll) s.1) :
    Draining message arrivals start k
        ((operations MqttIndustrialAdapter).run (List.replicate n (obliged .poll)) s).1 ∧
      StaysUp default (List.replicate n (obliged .poll)) s := by
  induction n generalizing s with
  | zero =>
      rw [Nat.zero_mul] at h
      exact ⟨h, trivial⟩
  | succ n ih =>
      rw [Nat.succ_mul, ← Nat.add_assoc] at h
      rcases h.pollLoop default hsilent s.2 kMaxMessagesPerPoll _
        (pollTimeout s.1.config) with ⟨b, hb, hdraining⟩
      have hstep : (operate (obliged .poll) s).2 = (b, s.2) := by
        rw [← hb, ← poll_of_connected default Paho.obliging h.connected]
        rfl
      have hrest := ih (s := (operate (obliged .poll) s).2)
        (by rw [hstep]; exact hdraining)
      refine ⟨hrest.1, ⟨rfl, ?_⟩, hrest.2⟩
      rw [hstep]
      exact hdraining.connected

def press : MqttEquipmentMapping where
  id := "PLC-001"
  type := "PLC"
  state := { topic := "press/state", mapped := true }

def pressLine : MqttAdapterConfig where
  host := "broker"
  clientId := "line-1"
  equipment := [press]

def pressRuns : MqttMessage := ⟨"press/state", "true"⟩

def noise : MqttMessage := ⟨"noise", "1"⟩

def burst (n : Nat) : List MqttMessage :=
  pressRuns :: List.replicate n noise

def burstEvents (n polls : Nat) : List (AdapterEvent MqttLib PahoCallback) :=
  deliveries (burst n) ++ List.replicate polls (obliged .poll)

def openedPress : MqttIndustrialAdapter × ClientIds :=
  ((MqttIndustrialAdapter.new "mqtt-a" pressLine).connect Paho.obliging {}).2

def stopped : List (BoundEquipment MqttEquipmentMapping) :=
  pressLine.equipment.map BoundEquipment.bind

theorem draining_openedPress : Draining noise [] stopped 0 openedPress.1 where
  connected := by decide
  handle := by decide
  noLoss := by decide
  isConnected := by decide
  heard := by decide
  queue := by decide
  bound := by rfl

theorem stopped_noise : stopped.map (fun b => applyTo default b noise) = stopped := by
  rfl

theorem draining_burst {n polls : Nat} (hn : n = kMaxQueued)
    (hpolls : 0 + polls * kMaxMessagesPerPoll = n) :
    Draining noise (burst n) stopped 0
        ((operations MqttIndustrialAdapter).run (burstEvents n polls) openedPress).1 ∧
      StaysUp default (burstEvents n polls) openedPress := by
  have hmessages := (run_deliveries (burst n) (s := openedPress) (by decide)).2
    (by decide)
  have hfull := draining_deliveries pressRuns hn (s := openedPress) (by decide)
    draining_openedPress
  rw [← hpolls] at hfull
  have hpolled := Draining.run_polls stopped_noise 0 polls hfull
  rw [hpolls] at hpolled
  unfold burstEvents
  rw [Machine.run_append]
  exact ⟨hpolled.1, Machine.admissible_append.mpr ⟨hmessages, hpolled.2⟩⟩

def pressSession : OpenSession default "mqtt-a" pressLine where
  earlier := []
  clientIds := {}
  paho := Paho.obliging
  events := [obliged (.stimulate (.message pressRuns))]
  down := by decide
  connects := by decide
  staysUp := ⟨⟨rfl, by decide⟩, trivial⟩

theorem poll_shows_latest_pressSession : exists found,
    pressSession.LatestValues found
      (pressSession.now.1.poll default Paho.obliging pressSession.now.2).1 :=
  ⟨_, pressSession.poll_shows_latest (FindsEmpty.later rfl (FindsEmpty.here rfl))⟩

def burstSession : OpenSession default "mqtt-a" pressLine where
  earlier := []
  clientIds := {}
  paho := Paho.obliging
  events := burstEvents kMaxQueued 8
  down := by decide
  connects := by decide
  staysUp := (draining_burst rfl (by decide)).2

theorem last_burst (n : Nat) :
    ((burst n).filterMap (decoded default press .state)).getLast? =
      some (.state true) := by
  have hnoise : decoded default press .state noise = none := by rfl
  have hpress : decoded default press .state pressRuns = some (.state true) := by rfl
  rw [burst, List.filterMap_cons_some hpress, List.filterMap_replicate_of_none hnoise]
  rfl

/-- After a burst of noise, the press does not show its newest message. -/
theorem not_showsLast_burstSession : exists found,
    FindsEmpty default Paho.obliging kMaxMessagesPerPoll (pollTimeout pressLine)
        burstSession.now.1 found ∧
      ¬ ShowsLast default pressLine (burstSession.arrived found)
        (burstSession.now.1.poll default Paho.obliging burstSession.now.2).1 := by
  have hdrained : Draining noise (burst kMaxQueued) stopped 0 burstSession.now.1 :=
    (draining_burst rfl (by decide)).1
  rcases hdrained.findsEmpty default stopped_noise (n := kMaxMessagesPerPoll)
      (by decide) (pollTimeout pressLine) with
    ⟨found, hfound, hempty⟩
  refine ⟨found, hfound, fun h => ?_⟩
  have hbound := (burstSession.bound_poll hfound).trans hempty.bound
  have harrived : burstSession.arrived found = burst kMaxQueued := hempty.heard
  rw [harrived] at h
  rcases h 0 _ rfl with ⟨e, hexposed, hshown⟩
  have hrunning := hshown .state _ rfl (last_burst kMaxQueued)
  rw [equipment_of_not_disconnected (connectionState_poll default Paho.obliging
    hdrained.connected burstSession.now.2), hbound] at hexposed
  have hview := Option.some.inj (Option.some.inj hexposed)
  have hstopped : e.operationalState = .stopped := (congrArg EquipmentView.operationalState hview).symm
  simp [GenericEquipment.shown, hstopped] at hrunning

namespace OpenSession

variable {text : TextLib} {id : String} {config : MqttAdapterConfig}

/-!
# When a poll sees that the connection is lost
-/

/-- What is left of the messages when a poll faults the adapter: the ones that had
been received are applied in the order of their arrival, and the others, which arrived
behind them and still waited, are thrown away. -/
structure AppliedUntilLoss (o : OpenSession text id config)
    (after : MqttIndustrialAdapter) (applied waiting : List MqttMessage) :
    Prop where
  order : o.arrived after = applied ++ waiting
  fates : o.gone after =
    applied.map (fun message => (.received, message)) ++
      waiting.map (fun message => (.discarded, message))
  machines : after.core.bound =
    o.before.1.boundForSession.map (fun b => applied.foldl (applyTo text) b)
  exposed : after.core.exposedBound = after.core.bound

/-- What a poll that faults the adapter has received before it saw the loss is applied,
and nothing else. -/
theorem poll_applies_received (o : OpenSession text id config) (paho : Paho)
    (hfault : (o.now.1.poll text paho o.now.2).1.connectionState = .faulted)
    (hroom : forall message,
      (.evicted, message) ∉ o.gone (o.now.1.poll text paho o.now.2).1) :
    exists applied waiting,
      o.AppliedUntilLoss (o.now.1.poll text paho o.now.2).1 applied waiting := by
  rcases o.delivered with ⟨hdelivered, hstate⟩
  have hends := pollLoop_ends text paho kMaxMessagesPerPoll
    (pollTimeout o.now.1.config) hdelivered o.now.2
  rw [← poll_of_connected text paho hstate] at hends
  generalize (o.now.1.poll text paho o.now.2).1 = after at hends hfault hroom ⊢
  rcases hends with ⟨b, hb, hstays, rfl | ⟨reason, ids, rfl⟩⟩
  · rw [hstays.sameState, hstate] at hfault
    cases hfault
  · rcases hb.gone with ⟨gone, hremoved, hkept, hmachines⟩
    have hclosed : (b.enterFault paho reason ids).1.session.heard = b.session.heard ∧
        (b.enterFault paho reason ids).1.session.mailbox = b.session.mailbox.discardAll :=
      (b.session.close_mailbox paho).2
    have hafter : (b.enterFault paho reason ids).1.session.mailbox.removed =
        o.before.1.session.mailbox.discardAll.removed ++
          (gone ++ b.session.mailbox.queue.map (fun x => (.discarded, x))) := by
      rw [hclosed.2, ← List.append_assoc, ← hremoved]
      rfl
    have hheard := hb.heard
    rw [← hclosed.1, ← b.session.mailbox.arrivals_discardAll, ← hclosed.2] at hheard
    have hgone := o.gone_eq hafter
    have hreceived : gone = (gone.map Prod.snd).map (fun x => (Fate.received, x)) := by
      rw [List.map_map]
      symm
      apply (List.map_congr_left _).trans (List.map_id gone)
      rintro ⟨fate, message⟩ he
      cases fate with
      | received => rfl
      | evicted =>
          exact absurd (by rw [hgone]; exact List.mem_append_left _ he)
            (hroom message)
      | discarded => exact absurd rfl (hkept _ he)
    have hfate : Mailbox.withFate .received gone = gone.map Prod.snd := by
      rw [hreceived]
      simp [Mailbox.withFate, List.filter_map, Function.comp_def]
    refine ⟨gone.map Prod.snd, b.session.mailbox.queue, ?_, ?_, ?_, ?_⟩
    · rw [o.arrived_eq hheard hafter, hclosed.2, Mailbox.queue_discardAll, List.append_nil,
        List.map_append, List.map_map]
      exact congrArg (fun waiting => gone.map Prod.snd ++ waiting) (List.map_id _)
    · rw [hgone, ← hreceived]
    · rw [← hfate]
      exact hmachines
    · exact if_neg (fun h => by cases hfault.symm.trans h)

end OpenSession

def lossSession : OpenSession default "mqtt-a" pressLine where
  earlier := []
  clientIds := {}
  paho := Paho.obliging
  events :=
    [obliged (.stimulate (.message pressRuns)),
      obliged (.stimulate (.connectionLost none))]
  down := by decide
  connects := by decide
  staysUp := ⟨⟨rfl, by decide⟩, ⟨rfl, by decide⟩, trivial⟩

theorem poll_applies_received_lossSession : exists applied waiting,
    lossSession.AppliedUntilLoss
      (lossSession.now.1.poll default Paho.obliging lossSession.now.2).1 applied
      waiting := by
  have hgone : lossSession.gone
      (lossSession.now.1.poll default Paho.obliging lossSession.now.2).1 =
        [(.discarded, pressRuns)] := by decide
  exact lossSession.poll_applies_received Paho.obliging (by decide)
    (fun message => by rw [hgone]; simp)

/-- The message that waits when the connection is lost is not applied. -/
theorem not_all_applied_lossSession :
    (lossSession.now.1.poll default Paho.obliging
        lossSession.now.2).1.connectionState = .faulted ∧
      (forall message, (.evicted, message) ∉ lossSession.gone
        (lossSession.now.1.poll default Paho.obliging lossSession.now.2).1) ∧
      (lossSession.now.1.poll default Paho.obliging
          lossSession.now.2).1.core.bound ≠
        lossSession.before.1.boundForSession.map (fun b =>
          (lossSession.arrived (lossSession.now.1.poll default Paho.obliging
            lossSession.now.2).1).foldl (applyTo default) b) := by
  have hgone : lossSession.gone
      (lossSession.now.1.poll default Paho.obliging lossSession.now.2).1 =
        [(.discarded, pressRuns)] := by decide
  refine ⟨by decide, fun message => by rw [hgone]; simp, fun h => ?_⟩
  have hshown := congrArg (List.map (fun b => b.inner.shown .state)) h
  revert hshown
  decide

end MqttIndustrialAdapter

end VirtualFactory
