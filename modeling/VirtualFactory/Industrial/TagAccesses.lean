import VirtualFactory.Industrial.Requests.EtherNetIp
import VirtualFactory.Industrial.TagUses

/-!
# The accesses of an entry

A read of an entry fetches its tag and takes a value of its type out of the buffer; a
write puts one in and sends it.  A poll does this for every entry that it shows, a command
for its own entry.
-/

namespace VirtualFactory

open Foundation

/-- What a call does to a tag and its buffer. -/
inductive TagAccess where
  | fetch (id : Int)
  | get (id : Int) (valueType : EipTagValueType)
  | set (id : Int) (valueType : EipTagValueType)
  | send (id : Int)
  deriving DecidableEq

def PlcCall.access : PlcCall -> Option TagAccess
  | .read id _ => some (.fetch id)
  | .getUint8 id => some (.get id .bool)
  | .getInt32 id => some (.get id .dint)
  | .getFloat32 id => some (.get id .real)
  | .setUint8 id _ => some (.set id .bool)
  | .setInt32 id _ => some (.set id .dint)
  | .setFloat32 id _ => some (.set id .real)
  | .write id _ => some (.send id)
  | _ => none

/-- The accesses that a session has made, the oldest first. -/
def EipSession.accesses (s : EipSession) : List TagAccess :=
  chronicle PlcCall.access s.calls

theorem EipSession.accesses_call (s : EipSession) (c : PlcCall) :
    (s.call c).accesses = s.accesses ++ c.access.toList :=
  chronicle_cons _ _ _

namespace EtherNetIpIndustrialAdapter

/-- Reading an entry accesses the tag under its key, by its type. -/
def readAccesses (tags : OrderedMap String TagEntry) (request : TagRequest) :
    List TagAccess :=
  match tags.find? request.1 with
  | none => []
  | some tag => [.fetch tag.id, .get tag.id (toSessionType request.2.2)]

def writeAccesses (tags : OrderedMap String TagEntry) (request : TagRequest) :
    List TagAccess :=
  match tags.find? request.1 with
  | none => []
  | some tag => [.set tag.id (toSessionType request.2.2), .send tag.id]

/-- The entries of a machine that a poll reads, in their order. -/
def polledEntries (m : EtherNetIpEquipmentMapping) : List TagRequest :=
  m.telemetry.zipIdx.map (fun p => (tagKey m.id "tel" p.2, p.1.tag, p.1.valueType)) ++
    ((if m.state.mapped then
        [(tagKey m.id "state" 0, m.state.tag, m.state.valueType)] else []) ++
      (if m.fault.mapped then
        [(tagKey m.id "fault" 0, m.fault.tag, m.fault.valueType)] else []))

/-- The entry that a command writes: the first of the machine with its name. -/
def commandedEntry (command : String) (m : EtherNetIpEquipmentMapping) :
    Option TagRequest :=
  (m.commands.zipIdx.find? (fun entry => entry.1.command = command)).map
    (fun p => (tagKey m.id "cmd" p.2, p.1.tag, p.1.valueType))

/-!
# Reads
-/

theorem readTag_accesses {value : Type} (lib : Libplctag) (ofUint8 : UInt8 -> value)
    (ofInt32 : Int32 -> value) (ofFloat32 : Single -> value) {request : TagRequest}
    {s : EipSession} (h : exists tag, Serves request s tag) :
    Follows EipSession.accesses (readAccesses s.tags request)
      (s.readTag lib ofUint8 ofInt32 ofFloat32 request.1).1.isSome s
      (s.readTag lib ofUint8 ofInt32 ofFloat32 request.1).2 := by
  rcases h with ⟨tag, hserves⟩
  have hscript : readAccesses s.tags request =
      [.fetch tag.id] ++ [.get tag.id (toSessionType request.2.2)] := by
    unfold readAccesses
    rw [hserves.1]
    rfl
  have hfetched := s.accesses_call (.read tag.id s.timeoutMs)
  have hclear : forall error : String,
      { s.call (.read tag.id s.timeoutMs) with lastError := error }.accesses =
        s.accesses ++ [.fetch tag.id] := fun _ => hfetched
  have htaken : forall (t : EipSession) (c : PlcCall),
      t.accesses = s.accesses ++ [.fetch tag.id] ->
        c.access = some (.get tag.id (toSessionType request.2.2)) ->
          (t.call c).accesses =
            s.accesses ++ ([.fetch tag.id] ++ [.get tag.id (toSessionType request.2.2)]) := by
    intro t c ht hc
    rw [t.accesses_call, ht, hc, List.append_assoc]
    rfl
  rw [hscript, ← hserves.2.1] at *
  unfold EipSession.readTag
  rw [findTag_of_serves hserves]
  dsimp only
  split
  · exact (follows_whole hfetched false).stopped _
  · cases htype : tag.valueType with
    | bool =>
        rw [htype] at htaken
        exact follows_whole (htaken _ (.getUint8 tag.id) (hclear "") rfl) true
    | dint =>
        rw [htype] at htaken
        exact follows_whole (htaken _ (.getInt32 tag.id) (hclear "") rfl) true
    | real =>
        rw [htype] at htaken
        exact follows_whole (htaken _ (.getFloat32 tag.id) (hclear "") rfl) true

theorem access_setCall (tag : TagEntry) (asUint8 : UInt8) (asInt32 : Int32)
    (asFloat32 : Single) :
    (setCall tag asUint8 asInt32 asFloat32).access = some (.set tag.id tag.valueType) := by
  unfold setCall
  cases tag.valueType <;> rfl

theorem writeTag_accesses (lib : Libplctag) (asUint8 : UInt8) (asInt32 : Int32)
    (asFloat32 : Single) {request : TagRequest} {s : EipSession}
    (h : exists tag, Serves request s tag) :
    Follows EipSession.accesses (writeAccesses s.tags request)
      (s.writeTag lib asUint8 asInt32 asFloat32 request.1).1 s
      (s.writeTag lib asUint8 asInt32 asFloat32 request.1).2 := by
  rcases h with ⟨tag, hserves⟩
  have hscript : writeAccesses s.tags request =
      [.set tag.id (toSessionType request.2.2)] ++ [.send tag.id] := by
    unfold writeAccesses
    rw [hserves.1]
    rfl
  have hset := s.accesses_call (setCall tag asUint8 asInt32 asFloat32)
  rw [access_setCall] at hset
  have hsent := (s.call (setCall tag asUint8 asInt32 asFloat32)).accesses_call
    (.write tag.id s.timeoutMs)
  rw [hset, List.append_assoc] at hsent
  rw [hscript, ← hserves.2.1, writeTag_of_serves lib asUint8 asInt32 asFloat32 hserves]
  unfold sendTag
  split
  · exact (follows_whole hset false).stopped _
  · dsimp only
    split
    · exact follows_whole hsent false
    · exact follows_whole hsent true

/-!
# Polls
-/

def ServedBy (requests : List TagRequest) (tags : OrderedMap String TagEntry) : Prop :=
  forall request, request ∈ requests -> exists tag, tags.find? request.1 = some tag ∧
    tag.valueType = toSessionType request.2.2 ∧ 0 ≤ tag.id

section

variable {requests : List TagRequest} {tags : OrderedMap String TagEntry}
  (hserved : ServedBy requests tags)
include hserved

theorem serves_of_servedBy {request : TagRequest} (hrequest : request ∈ requests)
    {s : EipSession} (hs : s.tags = tags) : exists tag, Serves request s tag := by
  rcases hserved request hrequest with ⟨tag, hfind, htype, hid⟩
  exact ⟨tag, hs ▸ hfind, htype, hid⟩

theorem readTag_says {value answer : Type} (lib : Libplctag) (ofUint8 : UInt8 -> value)
    (ofInt32 : Int32 -> value) (ofFloat32 : Single -> value) (f : value -> answer)
    {request : TagRequest} (hrequest : request ∈ requests) {s : EipSession}
    (hs : s.tags = tags) :
    (s.readTag lib ofUint8 ofInt32 ofFloat32 request.1).2.tags = tags ∧
      Follows EipSession.accesses (readAccesses tags request)
        ((s.readTag lib ofUint8 ofInt32 ofFloat32 request.1).1.map f).isSome s
        (s.readTag lib ofUint8 ofInt32 ofFloat32 request.1).2 := by
  have hread := readTag_accesses lib ofUint8 ofInt32 ofFloat32
    (serves_of_servedBy hserved hrequest hs)
  rw [hs] at hread
  rw [Option.isSome_map]
  exact ⟨(readTag_same lib ofUint8 ofInt32 ofFloat32 request.1 s).tags.trans hs, hread⟩

theorem readDouble_says (lib : Libplctag) {request : TagRequest}
    (hrequest : request ∈ requests) :
    ReadStep.ReadSays (fun link : EtherNetIpLink => link.session.accesses)
      (fun link => link.session.tags = tags) (readAccesses tags request)
      (readDouble lib request.1 request.2.2) := by
  apply Link.readSays_onSession
  intro s hs
  dsimp only
  split
  · exact ⟨hs, follows_failed rfl _⟩
  · cases request.2.2 <;> exact readTag_says hserved lib _ _ _ _ hrequest hs

theorem readBoolean_says (lib : Libplctag) {request : TagRequest}
    (hrequest : request ∈ requests) :
    ReadStep.ReadSays (fun link : EtherNetIpLink => link.session.accesses)
      (fun link => link.session.tags = tags) (readAccesses tags request)
      (readBoolean lib request.1 request.2.2) := by
  apply Link.readSays_onSession
  intro s hs
  dsimp only
  split
  · exact ⟨hs, follows_failed rfl _⟩
  · cases request.2.2 with
    | bool =>
        have hread := readTag_says hserved lib (fun bit => bit != 0) (fun dint => dint != 0)
          (fun real => !real.isZero) (fun flag => flag) hrequest hs
        rw [Option.map_id'] at hread
        exact hread
    | dint => exact readTag_says hserved lib _ _ _ _ hrequest hs
    | real => exact readTag_says hserved lib _ _ _ _ hrequest hs

theorem refreshSteps_access (lib : Libplctag) {m : EtherNetIpEquipmentMapping}
    (hm : mappedTags m ⊆ requests) :
    ReadStep.RefreshSays (fun link : EtherNetIpLink => link.session.accesses)
      (fun link => link.session.tags = tags)
      ((polledEntries m).flatMap (readAccesses tags)) (refreshSteps lib m) := by
  have hsignal : forall (signal : EtherNetIpSignalMapping) (role : String),
      (signal.mapped = true ->
        (tagKey m.id role 0, signal.tag, signal.valueType) ∈ mappedTags m) ->
      ReadStep.SignalSays (fun link : EtherNetIpLink => link.session.accesses)
        (fun link => link.session.tags = tags)
        ((if signal.mapped then
          [(tagKey m.id role 0, signal.tag, signal.valueType)] else []).flatMap
            (readAccesses tags))
        (if signal.mapped then
          some (readBoolean lib (tagKey m.id role 0) signal.valueType) else none) := by
    intro signal role hmem
    cases hmapped : signal.mapped with
    | true =>
        have hread := readBoolean_says hserved lib (hm (hmem hmapped))
        simpa [ReadStep.SignalSays] using hread
    | false => rfl
  have hpoints : forall p, p ∈ m.telemetry.zipIdx ->
      ReadStep.ReadSays (fun link : EtherNetIpLink => link.session.accesses)
        (fun link => link.session.tags = tags)
        (readAccesses tags (tagKey m.id "tel" p.2, p.1.tag, p.1.valueType))
        (readDouble lib (tagKey m.id "tel" p.2) p.1.valueType) :=
    fun p hp => readDouble_says hserved lib (hm (telemetry_mem_mappedTags hp))
  unfold polledEntries
  rw [List.flatMap_append, List.flatMap_append, List.flatMap_map]
  exact ReadStep.signalSteps_says hpoints (hsignal m.state "state" state_mem_mappedTags)
    (hsignal m.fault "fault" fault_mem_mappedTags)

end

theorem servedBy_tags {requests : List TagRequest} {s : EipSession}
    (h : AllServed requests s) : ServedBy requests s.tags :=
  h

theorem poll_accesses (lib : Libplctag) {requests : List TagRequest}
    {a : EtherNetIpIndustrialAdapter} (h : a.link.connectionState = .connected)
    (hserved : AllServed requests a.link.session)
    (hbound : forall b, b ∈ a.bound -> mappedTags b.mapping ⊆ requests) :
    Follows EipSession.accesses
      ((a.bound.flatMap (fun b => polledEntries b.mapping)).flatMap
        (readAccesses a.link.session.tags))
      (decide ((poll lib a).link.connectionState = .connected)) a.link.session
      (poll lib a).link.session := by
  have hrefresh : forall b, b ∈ a.bound -> forall link : EtherNetIpLink,
      link.session.tags = a.link.session.tags ->
        (b.refresh (fun m => ReadPlan.fixed (refreshSteps lib m)) link).2.2.session.tags =
            a.link.session.tags ∧
          Follows (fun link : EtherNetIpLink => link.session.accesses)
            ((polledEntries b.mapping).flatMap (readAccesses a.link.session.tags))
            (b.refresh (fun m => ReadPlan.fixed (refreshSteps lib m)) link).1 link
            (b.refresh (fun m => ReadPlan.fixed (refreshSteps lib m)) link).2.2 :=
    fun b hb link hlink => refreshSteps_access (servedBy_tags hserved) lib (hbound b hb)
      b.inner link hlink
  have hready : (a.link.session.setTimeoutMs (operationTimeoutMs a.config)).tags =
      a.link.session.tags := rfl
  rcases (updateUntilFailure_follows hrefresh (s := { a.link with
    session := a.link.session.setTimeoutMs (operationTimeoutMs a.config) }) hready).right
    with ⟨said, hsaid, hbegin, hall⟩
  have hlink : (poll lib a).link = if (ProtocolAdapter.pass lib a).1 then
      (ProtocolAdapter.pass lib a).2.2 else readFailed (ProtocolAdapter.pass lib a).2.2 := by
    unfold poll ProtocolAdapter.pollWith
    rw [if_neg (not_not.mpr h)]
    rfl
  have hsession : (poll lib a).link.session = (ProtocolAdapter.pass lib a).2.2.session := by
    rw [hlink]
    split
    · rfl
    · rfl
  rw [hsession, List.flatMap_assoc]
  refine ⟨said, hsaid, hbegin, fun hconnected => hall ?_⟩
  by_contra hfailed
  have hfaulted : (poll lib a).link.connectionState = .faulted := by
    rw [hlink]
    exact congrArg Link.connectionState (if_neg hfailed)
  rw [hfaulted] at hconnected
  cases hconnected

/-!
# Commands
-/

section

variable {request : TagRequest} {link : EtherNetIpLink}
  (hserves : exists tag, Serves request link.session tag)
include hserves

theorem writeDouble_accesses (lib : Libplctag) (timeoutMs : Int) (value : Double) :
    Follows EipSession.accesses (writeAccesses link.session.tags request)
      (writeDouble lib timeoutMs request.1 request.2.2 value link).1 link.session
      (writeDouble lib timeoutMs request.1 request.2.2 value link).2.session := by
  cases request.2.2 <;>
    exact EipRequest.writeThrough_follows (fun _ _ => rfl) timeoutMs link
      (writeTag_accesses lib _ _ _ hserves)

theorem writeBoolean_accesses (lib : Libplctag) (timeoutMs : Int) (value : Bool) :
    Follows EipSession.accesses (writeAccesses link.session.tags request)
      (writeBoolean lib timeoutMs request.1 request.2.2 value link).1 link.session
      (writeBoolean lib timeoutMs request.1 request.2.2 value link).2.session := by
  cases request.2.2 <;>
    exact EipRequest.writeThrough_follows (fun _ _ => rfl) timeoutMs link
      (writeTag_accesses lib _ _ _ hserves)

end

theorem runCommand_accesses (lib : Libplctag) (timeoutMs : Int) (command : String)
    (parameter : Double) {requests : List TagRequest} {m : EtherNetIpEquipmentMapping}
    (hm : mappedTags m ⊆ requests) {link : EtherNetIpLink}
    (hserved : AllServed requests link.session) :
    Follows EipSession.accesses
      ((commandedEntry command m).elim [] (writeAccesses link.session.tags))
      (runCommand lib timeoutMs command parameter m link).1.accepted link.session
      (runCommand lib timeoutMs command parameter m link).2.session := by
  unfold runCommand commandedEntry Link.execute runMapped
  cases link.connectionState with
  | disconnected => exact follows_failed rfl _
  | faulted => exact follows_failed rfl _
  | connected =>
      cases hfind : m.commands.zipIdx.find? (fun entry => entry.1.command = command) with
      | none => exact follows_failed rfl _
      | some mapped =>
          have hserves := hserved _
            (hm (command_mem_mappedTags (List.mem_of_find?_eq_some hfind)))
          apply Link.written_follows
          split
          · exact writeDouble_accesses hserves lib timeoutMs parameter
          · split
            · exact writeBoolean_accesses hserves lib timeoutMs true
            · exact writeDouble_accesses hserves lib timeoutMs Double.one

end EtherNetIpIndustrialAdapter

end VirtualFactory
