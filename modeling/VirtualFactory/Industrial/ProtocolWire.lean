import VirtualFactory.Foundation.Script
import VirtualFactory.Industrial.ProtocolDriver

/-!
# What a driver puts on the wire

The requests of an adapter are read off the calls of its session.  A driver promises
which of them each operation makes: a poll asks for the mapped points in the order of the
configuration, and only a command writes.
-/

namespace VirtualFactory

open Foundation

/-!
# The requests of a refresh
-/

namespace ReadStep

section

variable {state request : Type} (log : state -> List request) (kept : state -> Prop)

/-- A read makes the requests of a script, the last of them perhaps in vain. -/
def ReadSays {value : Type} (script : List request)
    (read : state -> Option value × state) : Prop :=
  forall s, kept s -> kept (read s).2 ∧ Follows log script (read s).1.isSome s (read s).2

/-- A refresh makes the requests of a script, whatever machine it is for. -/
def RefreshSays (script : List request) (steps : List (ReadStep state)) : Prop :=
  forall e s, kept s -> kept (refresh steps e s).2.2 ∧
    Follows log script (refresh steps e s).1 s (refresh steps e s).2.2

/-- A signal that is not mapped asks for nothing. -/
def SignalSays (script : List request) :
    Option (state -> Option Bool × state) -> Prop
  | none => script = []
  | some read => ReadSays log kept script read

end

variable {state request : Type} {log : state -> List request} {kept : state -> Prop}

theorem refreshSays_nil : RefreshSays log kept [] [] :=
  fun _ _ hs => ⟨hs, follows_nil rfl true⟩

theorem refreshSays_cons {now later : List request} {step : ReadStep state}
    {rest : List (ReadStep state)}
    (hstep : forall s, kept s -> kept (step.perform s).2 ∧
      Follows log now (step.perform s).1.isSome s (step.perform s).2)
    (hrest : RefreshSays log kept later rest) :
    RefreshSays log kept (now ++ later) (step :: rest) := by
  intro e s hs
  have hhead := hstep s hs
  rw [refresh_cons]
  rcases hperform : step.perform s with ⟨value, s'⟩
  rw [hperform] at hhead
  cases value with
  | none => exact ⟨hhead.left, hhead.right.stopped later⟩
  | some r =>
      have hafter := hrest (e.applyReading r) s' hhead.left
      exact ⟨hafter.left, hhead.right.trans hafter.right⟩

theorem refreshSays_telemetry {point : Type} {points : List point}
    {reads : point -> TelemetryRead state} {script : point -> List request}
    {later : List request} {rest : List (ReadStep state)}
    (hpoints : forall p, p ∈ points -> ReadSays log kept (script p) (reads p).read)
    (hrest : RefreshSays log kept later rest) :
    RefreshSays log kept (points.flatMap script ++ later)
      ((points.map reads).map (fun p => .telemetry p.name p.unit p.read) ++ rest) := by
  induction points with
  | nil => exact hrest
  | cons p points ih =>
      have htail := ih (fun q hq => hpoints q (List.mem_cons_of_mem p hq))
      rw [List.flatMap_cons, List.append_assoc]
      refine refreshSays_cons ?_ htail
      intro s hs
      simpa [perform] using hpoints p List.mem_cons_self s hs

theorem refreshSays_signal (toStep : (state -> Option Bool × state) -> ReadStep state)
    (hperform : forall read s, ((toStep read).perform s).1.isSome = (read s).1.isSome ∧
      ((toStep read).perform s).2 = (read s).2)
    {script later : List request} {signal : Option (state -> Option Bool × state)}
    {rest : List (ReadStep state)} (hsignal : SignalSays log kept script signal)
    (hrest : RefreshSays log kept later rest) :
    RefreshSays log kept (script ++ later) (signal.toList.map toStep ++ rest) := by
  cases signal with
  | none =>
      have hnothing : script = [] := hsignal
      rw [hnothing]
      exact hrest
  | some read =>
      refine refreshSays_cons ?_ hrest
      intro s hs
      rw [(hperform read s).left, (hperform read s).right]
      exact hsignal s hs

theorem signalSteps_says {point : Type} {points : List point}
    {reads : point -> TelemetryRead state} {script : point -> List request}
    {running fault : Option (state -> Option Bool × state)}
    {runningScript faultScript : List request}
    (hpoints : forall p, p ∈ points -> ReadSays log kept (script p) (reads p).read)
    (hrunning : SignalSays log kept runningScript running)
    (hfault : SignalSays log kept faultScript fault) :
    RefreshSays log kept (points.flatMap script ++ (runningScript ++ faultScript))
      (signalSteps (points.map reads) running fault) := by
  have hlast := refreshSays_signal .fault (fun read s => by simp [perform]) hfault
    refreshSays_nil
  have hsignals := refreshSays_signal .state (fun read s => by simp [perform]) hrunning
    hlast
  rw [List.append_nil, List.append_nil] at hsignals
  exact refreshSays_telemetry hpoints hsignals

end ReadStep

namespace Link

variable {session request context : Type} {requests : session -> List request}
  {contextOf : session -> context} {ctx : context}

theorem readSays_onSession {value : Type} {script : List request}
    {f : session -> Option value × session}
    (hf : forall s, contextOf s = ctx -> contextOf (f s).2 = ctx ∧
      Follows requests script (f s).1.isSome s (f s).2) :
    ReadStep.ReadSays (fun link : Link session => requests link.session)
      (fun link => contextOf link.session = ctx) script (Link.onSession f) :=
  fun link hlink => hf link.session hlink

theorem execute_follows {command : Type} {link : Link session} {mapped : Option command}
    {write : command -> Link session -> CommandResult × Link session}
    {script : command -> List request}
    (hwrite : forall c, Follows requests (script c) (write c link).1.accepted link.session
      (write c link).2.session) :
    Follows requests (mapped.elim [] script) (link.execute mapped write).1.accepted
      link.session (link.execute mapped write).2.session := by
  unfold execute runMapped
  cases link.connectionState with
  | disconnected => exact follows_failed rfl _
  | faulted => exact follows_failed rfl _
  | connected =>
      cases mapped with
      | none => exact follows_failed rfl _
      | some c => exact hwrite c

theorem written_follows {failure : String} {r : Bool × Link session} {before : session}
    {script : List request} (h : Follows requests script r.1 before r.2.session) :
    Follows requests script (written failure r).1.accepted before
      (written failure r).2.session := by
  rw [written_snd]
  refine h.weaken ?_
  intro haccepted
  exact written_of_accepted haccepted

end Link

/-- What a driver puts on the wire.  The context of a session is what its requests
depend on: it changes only when the adapter connects or disconnects. -/
class ProtocolWire (config mapping session : Type) (library : outParam Type)
    [EquipmentMapping mapping] [ProtocolDriver config mapping session library]
    (request context : outParam Type) where
  requests : session -> List request
  isWrite : request -> Bool
  contextOf : session -> context
  scan : context -> mapping -> List request
  commanded : library -> context -> (command : String) -> Double -> mapping ->
    List request
  greeting : config -> List request
  scan_reads : forall (ctx : context) (m : mapping), (scan ctx m).filter isWrite = []
  greeting_reads : forall cfg : config, (greeting cfg).filter isWrite = []
  commanded_writes : forall lib ctx command parameter m,
    (commanded lib ctx command parameter m).filter isWrite =
      commanded lib ctx command parameter m
  commanded_once : forall lib ctx command parameter m,
    (commanded lib ctx command parameter m).length ≤ 1
  close_requests : forall s : session, requests (ProtocolDriver.close config mapping s) = requests s
  prepare_requests : forall (cfg : config) (s : session),
    requests (ProtocolDriver.prepare mapping cfg s) = requests s
  prepare_context : forall (cfg : config) (s : session),
    contextOf (ProtocolDriver.prepare mapping cfg s) = contextOf s
  fail_session : forall link : Link session,
    (ProtocolDriver.fail config mapping link).session = link.session
  connect_follows : forall lib (a : ProtocolAdapter config mapping session),
    a.link.connectionState ≠ .connected ->
      Follows requests (greeting a.config) (ProtocolDriver.connect lib a).1
        a.link.session (ProtocolDriver.connect lib a).2.link.session
  plan_follows : forall lib (m : mapping) e (link : Link session),
    contextOf ((ProtocolDriver.plan config lib m).refresh e link).2.2.session =
        contextOf link.session ∧
      Follows requests (scan (contextOf link.session) m)
        ((ProtocolDriver.plan config lib m).refresh e link).1 link.session
        ((ProtocolDriver.plan config lib m).refresh e link).2.2.session
  run_follows : forall lib (cfg : config) command parameter (m : mapping)
      (link : Link session),
    Follows requests (commanded lib (contextOf link.session) command parameter m)
      (ProtocolDriver.run lib cfg command parameter m link).1.accepted link.session
      (ProtocolDriver.run lib cfg command parameter m link).2.session

namespace ProtocolAdapter

open ProtocolDriver ProtocolWire

variable {config mapping session library request context : Type}
  [EquipmentMapping mapping] [ProtocolDriver config mapping session library]
  [ProtocolWire config mapping session library request context]

/-- The requests an adapter has made, the oldest first. -/
def requests (a : ProtocolAdapter config mapping session) : List request :=
  ProtocolWire.requests config mapping a.link.session

/-- What the adapter asks for in one poll, machine by machine. -/
def scan (a : ProtocolAdapter config mapping session) : List request :=
  a.bound.flatMap
    (fun b => ProtocolWire.scan config session (contextOf config mapping a.link.session)
      b.mapping)

/-- A poll asks for what is mapped, in the order of the configuration, until a refresh
fails. -/
theorem poll_follows_pass (lib : library) {a : ProtocolAdapter config mapping session}
    (h : a.link.connectionState = .connected) :
    Follows (requests : ProtocolAdapter config mapping session -> List request) a.scan
      (pass lib a).1 a (poll lib a) := by
  have hrefresh : forall b, b ∈ a.bound -> forall link : Link session,
      contextOf config mapping link.session = contextOf config mapping a.link.session ->
        contextOf config mapping (b.refresh (plan config lib) link).2.2.session =
            contextOf config mapping a.link.session ∧
          Follows (fun link : Link session =>
              ProtocolWire.requests config mapping link.session)
            (ProtocolWire.scan config session
              (contextOf config mapping a.link.session) b.mapping)
            (b.refresh (plan config lib) link).1 link
            (b.refresh (plan config lib) link).2.2 := by
    intro b _ link hlink
    rw [← hlink]
    exact plan_follows lib b.mapping b.inner link
  have hpass := updateUntilFailure_follows hrefresh
    (s := { a.link with session := prepare mapping a.config a.link.session })
    (prepare_context a.config a.link.session)
  have hsession : (poll lib a).link.session = (pass lib a).2.2.session := by
    rw [poll_eq]
    unfold pollWith
    rw [if_neg (not_not.mpr h)]
    show (if (pass lib a).1 then (pass lib a).2.2
      else fail config mapping (pass lib a).2.2).session = _
    split
    · rfl
    · exact fail_session _
  rcases hpass.right with ⟨said, hsaid, hbegin, hall⟩
  refine ⟨said, ?_, hbegin, hall⟩
  unfold requests
  rw [hsession]
  refine hsaid.trans ?_
  dsimp only
  rw [prepare_requests]

theorem poll_follows (lib : library) {a : ProtocolAdapter config mapping session}
    (h : a.link.Up (isOpen config mapping)) :
    Follows (requests : ProtocolAdapter config mapping session -> List request) a.scan
      (decide ((poll lib a).link.connectionState = .connected)) a (poll lib a) := by
  refine (poll_follows_pass lib h.connected).weaken ?_
  intro hconnected
  rcases link_poll_of_up lib h with ⟨hpass, _⟩ | ⟨_, hdown⟩
  · exact hpass
  · exact absurd (of_decide_eq_true hconnected) hdown.not_connected

end ProtocolAdapter

end VirtualFactory
