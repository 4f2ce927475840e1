import VirtualFactory.Foundation.Script
import VirtualFactory.Industrial.AdapterSum
import VirtualFactory.Industrial.Fieldbus
import VirtualFactory.Industrial.Mock
import VirtualFactory.Industrial.Mqtt.SessionCalls
import VirtualFactory.Industrial.Mqtt.Adapter
import VirtualFactory.Industrial.ProtocolWire

/-!
# Actuation

What the adapters write to their sources.  Connecting, polling and disconnecting write
nothing; a command writes at most once, and does so if it is accepted.
-/

namespace VirtualFactory

open Foundation

/-- What an adapter has written to its source, the oldest write first, and what a command
may write. -/
class Actuates (adapter : Type) (device stimulus : outParam Type)
    [IndustrialAdapter adapter device stimulus] (write : outParam Type) where
  writes : adapter -> List write
  commanded : device -> adapter -> (equipmentId command : String) -> Double -> List write
  commanded_once : forall d a equipmentId command parameter,
    (commanded d a equipmentId command parameter).length ≤ 1
  writes_connect : forall d a ids,
    writes (IndustrialAdapter.connect d a ids).2.1 = writes a
  writes_disconnect : forall d a ids,
    writes (IndustrialAdapter.disconnect d a ids).1 = writes a
  writes_poll : forall d a ids, writes (IndustrialAdapter.poll d a ids).1 = writes a
  writes_stimulate : forall s a, writes (IndustrialAdapter.stimulate s a) = writes a
  execute_follows : forall d a equipmentId command parameter ids r,
    IndustrialAdapter.execute d a equipmentId command parameter ids = some r ->
      Follows writes (commanded d a equipmentId command parameter) r.1.accepted a r.2.1

/-!
# The polled protocols
-/

namespace ProtocolAdapter

open ProtocolDriver ProtocolWire

variable {config mapping session library request context : Type}
  [EquipmentMapping mapping] [ProtocolDriver config mapping session library]
  [ProtocolWire config mapping session library request context]

def written (a : ProtocolAdapter config mapping session) : List request :=
  a.requests.filter (ProtocolWire.isWrite config mapping session)

/-- What a command to a machine may write. -/
def commanded (lib : library) (a : ProtocolAdapter config mapping session)
    (equipmentId command : String) (parameter : Double) : List request :=
  (a.boundById equipmentId).elim [] fun b =>
    ProtocolWire.commanded config session lib
      (contextOf config mapping a.link.session) command parameter b.mapping

theorem filter_scan (a : ProtocolAdapter config mapping session) :
    a.scan.filter (ProtocolWire.isWrite config mapping session) = [] := by
  unfold scan
  rw [List.filter_flatMap, List.flatMap_eq_nil_iff]
  intro b _
  exact scan_reads _ b.mapping

theorem written_connect (lib : library) (a : ProtocolAdapter config mapping session) :
    (connect lib a).2.written = a.written := by
  by_cases h : a.link.connectionState = .connected
  · rw [connect_of_connected lib a h]
  · have hfollows := (connect_follows lib a h).filter
      (ProtocolWire.isWrite config mapping session)
    rw [greeting_reads] at hfollows
    exact hfollows.same

theorem written_poll (lib : library) (a : ProtocolAdapter config mapping session) :
    (poll lib a).written = a.written := by
  by_cases h : a.link.connectionState = .connected
  · have hfollows := (poll_follows_pass lib h).filter
      (ProtocolWire.isWrite config mapping session)
    rw [filter_scan] at hfollows
    exact hfollows.same
  · have hsession : (poll lib a).link.session = a.link.session := by
      rw [poll_eq]
      unfold pollWith
      rw [if_pos h]
      split <;> rfl
    unfold written requests
    rw [hsession]

instance : Actuates (ProtocolAdapter config mapping session) library Empty request where
  writes := written
  commanded := commanded
  commanded_once lib a equipmentId command parameter := by
    unfold commanded
    cases a.boundById equipmentId with
    | none => exact Nat.zero_le 1
    | some b => exact commanded_once lib _ command parameter b.mapping
  writes_connect lib a _ := written_connect lib a
  writes_disconnect _ a _ := by
    show (disconnect a).written = a.written
    rw [disconnect_eq]
    unfold written requests
    exact congrArg (List.filter _) (close_requests a.link.session)
  writes_poll lib a _ := written_poll lib a
  writes_stimulate s _ := s.elim
  execute_follows := by
    intro lib a equipmentId command parameter ids r h
    rcases Option.map_eq_some_iff.mp h with ⟨result, hresult, rfl⟩
    rcases execute_cases lib a equipmentId command parameter with
      ⟨_, hnone⟩ | ⟨b, hb, hsome⟩
    · cases hnone.symm.trans hresult
    · cases hsome.symm.trans hresult
      have hrun := (run_follows lib a.config command parameter b.mapping a.link).filter
        (ProtocolWire.isWrite config mapping session)
      rw [commanded_writes] at hrun
      unfold commanded
      rw [hb]
      exact hrun

end ProtocolAdapter

/-!
# MQTT
-/

structure MqttPublish where
  topic : String
  payload : String
  qos : Int
  retained : Bool
  deriving DecidableEq

def PahoCall.publish? : PahoCall -> Option MqttPublish
  | .sendMessage topic payload qos retained => some ⟨topic, payload, qos, retained⟩
  | _ => none

namespace MqttSession

/-- What a session has published, the oldest publish first. -/
def published (s : MqttSession) : List MqttPublish :=
  chronicle PahoCall.publish? s.calls

theorem published_of_calls {s t : MqttSession} (h : t.calls = s.calls) :
    published t = published s :=
  congrArg (chronicle PahoCall.publish?) h

theorem published_call (paho : Paho) (c : PahoCall) (s : MqttSession) :
    published (s.call paho c) = published s ++ c.publish?.toList := by
  unfold published
  rw [calls_call, chronicle_cons]

theorem published_quiet {paho : Paho} {c : PahoCall} {s : MqttSession}
    (h : c.publish? = none) : published (s.call paho c) = published s := by
  rw [published_call, h]
  exact List.append_nil _

theorem published_close (paho : Paho) (s : MqttSession) :
    published (s.close paho) = published s := by
  rcases calls_close paho s with ⟨later, hcalls, hlater⟩
  have hnone : forall c, c ∈ later -> c.publish? = none := by
    intro c hc
    have hmem := hlater c hc
    simp only [List.mem_cons, List.not_mem_nil, or_false] at hmem
    rcases hmem with rfl | rfl | rfl <;> rfl
  unfold published chronicle
  rw [hcalls, List.reverse_append, List.filterMap_append,
    List.filterMap_eq_nil_iff.mpr (fun c hc => hnone c (List.mem_reverse.mp hc)),
    List.append_nil]

theorem published_captureIfEmpty (s : MqttSession) (text : String) :
    published (s.captureIfEmpty text) = published s :=
  published_of_calls (calls_captureIfEmpty s text)

theorem published_awaitConnect (paho : Paho) (config : MqttSessionConfig)
    (s : MqttSession) : published (s.awaitConnect paho config).2 = published s := by
  unfold awaitConnect
  dsimp only
  generalize ((if 0 < config.connectTimeoutSeconds then config.connectTimeoutSeconds
    else 2) + 3) * 1000 = timeoutMs
  split
  · exact (published_close paho _).trans (published_quiet rfl)
  · split
    · exact (published_close paho _).trans
        ((published_captureIfEmpty _ _).trans
          ((published_quiet rfl).trans (published_quiet rfl)))
    · exact (published_quiet rfl).trans (published_quiet rfl)

theorem published_connect (paho : Paho) (config : MqttSessionConfig) (s : MqttSession) :
    published (s.connect paho config).2 = published s := by
  have hclosed := published_close paho s
  unfold connect
  dsimp only
  split
  · exact hclosed
  · split
    · exact (published_quiet rfl).trans hclosed
    · split
      · exact (published_quiet rfl).trans
          ((published_quiet rfl).trans ((published_quiet rfl).trans hclosed))
      · exact (published_awaitConnect paho config _).trans
          ((published_quiet rfl).trans ((published_quiet rfl).trans hclosed))

theorem published_subscribe (paho : Paho) (topic : String) (qos : Int) (s : MqttSession) :
    published (s.subscribe paho topic qos).2 = published s := by
  unfold subscribe
  split
  · rfl
  · dsimp only
    split
    · exact published_quiet rfl
    · split
      · exact (published_captureIfEmpty _ _).trans
          ((published_quiet rfl).trans (published_quiet rfl))
      · exact (published_quiet rfl).trans (published_quiet rfl)

theorem published_connected (paho : Paho) (s : MqttSession) :
    published (s.connected paho).2 = published s := by
  unfold connected
  split
  · rfl
  · exact published_quiet rfl

theorem published_receive (paho : Paho) (timeoutMs : Nat) (s : MqttSession) :
    published (s.receive paho timeoutMs).2 = published s := by
  have hlock : published (s.call paho .lock) = published s := published_quiet rfl
  unfold receive
  dsimp only
  split
  · exact (published_captureIfEmpty _ _).trans hlock
  · split
    · split
      · exact (published_captureIfEmpty _ _).trans ((published_quiet rfl).trans hlock)
      · exact (published_of_calls (calls_takeMessage _)).trans
          ((published_quiet rfl).trans ((published_quiet rfl).trans hlock))
    · exact (published_of_calls (calls_takeMessage _)).trans
        ((published_quiet rfl).trans hlock)

theorem publish_follows (paho : Paho) (topic payload : String) (qos : Int)
    (retain : Bool) (s : MqttSession) :
    Follows published [⟨topic, payload, clampQos qos, retain⟩]
      (s.publish paho topic payload qos retain).1 s
      (s.publish paho topic payload qos retain).2 := by
  have hsent := published_call paho (.sendMessage topic payload (clampQos qos) retain) s
  unfold publish
  split
  · exact follows_failed rfl _
  · dsimp only
    split
    · exact follows_whole hsent _
    · split
      · exact follows_whole ((published_quiet rfl).trans hsent) _
      · exact follows_whole ((published_quiet rfl).trans hsent) _

end MqttSession

namespace MqttIndustrialAdapter

open MqttSession (published)

def written (a : MqttIndustrialAdapter) : List MqttPublish :=
  published a.session

def publishOf (text : TextLib) (parameter : Double) (mapped : MqttCommandMapping) :
    List MqttPublish :=
  if mapped.topic = "" ∨ topicHasWildcard mapped.topic then []
  else
    [⟨mapped.topic, substituteValue text mapped.bodyTemplate parameter,
      clampQos mapped.qos, mapped.retain⟩]

def commanded (text : TextLib) (a : MqttIndustrialAdapter)
    (equipmentId command : String) (parameter : Double) : List MqttPublish :=
  (a.core.boundById equipmentId).elim [] fun b =>
    (b.mapping.commands.find? (fun entry => entry.command = command)).elim []
      (publishOf text parameter)

theorem written_enterFault (paho : Paho) (reason : String) (a : MqttIndustrialAdapter)
    (ids : ClientIds) : (a.enterFault paho reason ids).1.written = a.written :=
  MqttSession.published_close paho a.session

theorem published_subscribeSub (paho : Paho) (sub : Sub) (s : MqttSession) :
    published (subscribeSub paho sub s).2 = published s :=
  s.published_subscribe paho sub.topic sub.qos

theorem written_subscribeMappedTopics (paho : Paho) (a : MqttIndustrialAdapter)
    (ids : ClientIds) : (a.subscribeMappedTopics paho ids).2.1.written = a.written := by
  unfold subscribeMappedTopics
  split
  · exact written_enterFault paho _ a ids
  · rename_i subs _
    have hloop := view_untilFailure published
      (published_subscribeSub paho) subs a.session
    split
    · rename_i s hs
      rw [hs] at hloop
      exact (written_enterFault paho _ (a.withSession s) ids).trans hloop
    · rename_i s hs
      rw [hs] at hloop
      exact hloop

theorem written_openSession (paho : Paho) (clientId : String) (a : MqttIndustrialAdapter)
    (ids : ClientIds) : (a.openSession paho clientId ids).2.1.written = a.written := by
  have hconnect := (MqttSession.published_connect paho (sessionConfig a.config clientId)
    (a.session.close paho)).trans (MqttSession.published_close paho a.session)
  unfold openSession
  split
  · rename_i s hs
    rw [hs] at hconnect
    exact (written_enterFault paho _ (a.withSession s) ids).trans hconnect
  · rename_i s hs
    rw [hs] at hconnect
    have hbound : (a.withSession s).bindOrReuse.written = a.written := by
      rw [bindOrReuse_eq]
      exact hconnect
    have hsubscribed := (written_subscribeMappedTopics paho
      (a.withSession s).bindOrReuse ids).trans hbound
    split
    · rename_i b ids' hresult
      rw [hresult] at hsubscribed
      exact hsubscribed
    · rename_i b ids' hresult
      rw [hresult] at hsubscribed
      exact hsubscribed

theorem written_connect (paho : Paho) (a : MqttIndustrialAdapter) (ids : ClientIds) :
    (a.connect paho ids).2.1.written = a.written := by
  unfold connect
  split
  · rfl
  · split
    · exact written_enterFault paho _ a ids
    · split
      · exact written_enterFault paho _ a ids
      · dsimp only
        unfold claimClientId
        split
        · rename_i b ids' hclaim
          split at hclaim <;> cases hclaim
          exact written_enterFault paho _ a _
        · rename_i b ids' hclaim
          split at hclaim <;> cases hclaim
          exact written_openSession paho _ { a with activeClientId := _ } _

theorem written_pollLoop (text : TextLib) (paho : Paho) (n timeoutMs : Nat)
    (a : MqttIndustrialAdapter) (ids : ClientIds) :
    (pollLoop text paho n timeoutMs a ids).1.written = a.written := by
  induction n generalizing timeoutMs a with
  | zero => rfl
  | succ n ih =>
      have hreceive := MqttSession.published_receive paho timeoutMs a.session
      unfold pollLoop
      split
      · rename_i s hs
        rw [hs] at hreceive
        exact (written_enterFault paho _ (a.withSession s) ids).trans hreceive
      · rename_i s hs
        rw [hs] at hreceive
        have hconnected := (MqttSession.published_connected paho s).trans hreceive
        split
        · rename_i t ht
          rw [ht] at hconnected
          exact (written_enterFault paho _ (a.withSession t) ids).trans hconnected
        · rename_i t ht
          rw [ht] at hconnected
          exact hconnected
      · rename_i message s hs
        rw [hs] at hreceive
        exact (ih 0 _).trans hreceive

theorem written_poll (text : TextLib) (paho : Paho) (a : MqttIndustrialAdapter)
    (ids : ClientIds) : (a.poll text paho ids).1.written = a.written := by
  unfold poll
  split
  · split <;> rfl
  · exact written_pollLoop text paho _ _ a ids

theorem publishCommand_follows (text : TextLib) (paho : Paho)
    (mapped : MqttCommandMapping) (parameter : Double) (a : MqttIndustrialAdapter)
    (ids : ClientIds) :
    Follows written
      [⟨mapped.topic, substituteValue text mapped.bodyTemplate parameter,
        clampQos mapped.qos, mapped.retain⟩]
      (publishCommand text paho mapped parameter a ids).1 a
      (publishCommand text paho mapped parameter a ids).2.1 := by
  have hpublish := MqttSession.publish_follows paho mapped.topic
    (substituteValue text mapped.bodyTemplate parameter) mapped.qos mapped.retain
    a.session
  unfold publishCommand
  dsimp only
  split
  · rename_i s hs
    rw [hs] at hpublish
    exact hpublish.congr rfl (written_enterFault paho _ (a.withSession s) ids)
  · rename_i s hs
    rw [hs] at hpublish
    exact hpublish

theorem runCommand_follows (text : TextLib) (paho : Paho) (command : String)
    (parameter : Double) (m : MqttEquipmentMapping) (a : MqttIndustrialAdapter)
    (ids : ClientIds) :
    Follows written
      ((m.commands.find? (fun entry => entry.command = command)).elim []
        (publishOf text parameter))
      (runCommand text paho command parameter m a ids).1.accepted a
      (runCommand text paho command parameter m a ids).2.1 := by
  unfold runCommand runMapped
  cases a.connectionState with
  | disconnected => exact follows_failed rfl _
  | faulted => exact follows_failed rfl _
  | connected =>
      cases m.commands.find? (fun entry => entry.command = command) with
      | none => exact follows_failed rfl _
      | some mapped =>
          have hpublish := publishCommand_follows text paho mapped parameter a ids
          dsimp only [Option.elim]
          unfold publishOf
          split
          · exact follows_failed rfl _
          · split
            · rename_i b ids' hresult
              rw [hresult] at hpublish
              exact hpublish
            · rename_i b ids' hresult
              rw [hresult] at hpublish
              exact hpublish

end MqttIndustrialAdapter

instance : Actuates MqttIndustrialAdapter MqttLib PahoCallback MqttPublish where
  writes := MqttIndustrialAdapter.written
  commanded lib := MqttIndustrialAdapter.commanded lib.text
  commanded_once lib a equipmentId command parameter := by
    unfold MqttIndustrialAdapter.commanded
    cases a.core.boundById equipmentId with
    | none => exact Nat.zero_le 1
    | some b =>
        show ((b.mapping.commands.find? _).elim [] _).length ≤ 1
        cases b.mapping.commands.find? (fun entry => entry.command = command) with
        | none => exact Nat.zero_le 1
        | some mapped =>
            show (MqttIndustrialAdapter.publishOf lib.text parameter mapped).length ≤ 1
            unfold MqttIndustrialAdapter.publishOf
            split <;> simp
  writes_connect lib a ids := a.written_connect lib.paho ids
  writes_disconnect lib a _ := MqttSession.published_close lib.paho a.session
  writes_poll lib a ids := a.written_poll lib.text lib.paho ids
  writes_stimulate c a := MqttSession.published_of_calls (a.session.calls_callback c)
  execute_follows := by
    intro lib a equipmentId command parameter ids r h
    rcases MqttIndustrialAdapter.execute_some h with ⟨b, hb, rfl⟩
    unfold MqttIndustrialAdapter.commanded
    rw [hb]
    exact MqttIndustrialAdapter.runCommand_follows lib.text lib.paho command parameter
      b.mapping a ids

/-!
# Adapters that write nothing

The sessions of the fieldbuses never open, and the devices of the mock adapter are the
adapter itself.
-/

instance (bus : Fieldbus) : Actuates (FieldbusAdapter bus) HilscherSdk Empty Empty where
  writes _ := []
  commanded _ _ _ _ _ := []
  commanded_once _ _ _ _ _ := Nat.zero_le 1
  writes_connect _ _ _ := rfl
  writes_disconnect _ _ _ := rfl
  writes_poll _ _ _ := rfl
  writes_stimulate _ _ := rfl
  execute_follows _ _ _ _ _ _ _ _ := ⟨[], rfl, List.nil_prefix, fun _ => rfl⟩

instance : Actuates MockIndustrialAdapter Unit MockStimulus Empty where
  writes _ := []
  commanded _ _ _ _ _ := []
  commanded_once _ _ _ _ _ := Nat.zero_le 1
  writes_connect _ _ _ := rfl
  writes_disconnect _ _ _ := rfl
  writes_poll _ _ _ := rfl
  writes_stimulate _ _ := rfl
  execute_follows _ _ _ _ _ _ _ _ := ⟨[], rfl, List.nil_prefix, fun _ => rfl⟩

/-!
# Adapters of two kinds
-/

section

variable {left right device device' stimulus stimulus' write write' : Type}
  [IndustrialAdapter left device stimulus] [IndustrialAdapter right device' stimulus']
  [Actuates left device stimulus write] [Actuates right device' stimulus' write']

instance : Actuates (left ⊕ right) (device × device') (stimulus ⊕ stimulus')
    (write ⊕ write') where
  writes := Sum.elim (fun a => (Actuates.writes a).map .inl)
    (fun a => (Actuates.writes a).map .inr)
  commanded d a equipmentId command parameter :=
    match a with
    | .inl a => (Actuates.commanded d.1 a equipmentId command parameter).map .inl
    | .inr a => (Actuates.commanded d.2 a equipmentId command parameter).map .inr
  commanded_once d a equipmentId command parameter := by
    cases a with
    | inl a =>
        rw [List.length_map]
        exact Actuates.commanded_once d.1 a equipmentId command parameter
    | inr a =>
        rw [List.length_map]
        exact Actuates.commanded_once d.2 a equipmentId command parameter
  writes_connect d a ids := by
    cases a with
    | inl a => exact congrArg (List.map Sum.inl) (Actuates.writes_connect d.1 a ids)
    | inr a => exact congrArg (List.map Sum.inr) (Actuates.writes_connect d.2 a ids)
  writes_disconnect d a ids := by
    cases a with
    | inl a => exact congrArg (List.map Sum.inl) (Actuates.writes_disconnect d.1 a ids)
    | inr a => exact congrArg (List.map Sum.inr) (Actuates.writes_disconnect d.2 a ids)
  writes_poll d a ids := by
    cases a with
    | inl a => exact congrArg (List.map Sum.inl) (Actuates.writes_poll d.1 a ids)
    | inr a => exact congrArg (List.map Sum.inr) (Actuates.writes_poll d.2 a ids)
  writes_stimulate s a := by
    cases a with
    | inl a =>
        cases s with
        | inl s => exact congrArg (List.map Sum.inl) (Actuates.writes_stimulate s a)
        | inr s => rfl
    | inr a =>
        cases s with
        | inl s => rfl
        | inr s => exact congrArg (List.map Sum.inr) (Actuates.writes_stimulate s a)
  execute_follows d a equipmentId command parameter ids r h := by
    cases a with
    | inl a =>
        rcases Option.map_eq_some_iff.mp h with ⟨result, hresult, rfl⟩
        exact (Actuates.execute_follows d.1 a equipmentId command parameter ids result
          hresult).map Sum.inl rfl rfl
    | inr a =>
        rcases Option.map_eq_some_iff.mp h with ⟨result, hresult, rfl⟩
        exact (Actuates.execute_follows d.2 a equipmentId command parameter ids result
          hresult).map Sum.inr rfl rfl

end

end VirtualFactory
