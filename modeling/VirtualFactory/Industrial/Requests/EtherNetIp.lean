import VirtualFactory.Industrial.EtherNetIp
import VirtualFactory.Industrial.ProtocolWire

/-!
# The requests of EtherNet/IP

The tags that a session reads and writes.  A request names the tag by the handle that the
library gave out for it.
-/

namespace VirtualFactory

open Foundation


inductive EipTagValue where
  | uint8 (value : UInt8)
  | int32 (value : Int32)
  | float32 (value : Single)
  deriving DecidableEq

/-- A write sends the value that has been set in the buffer of the tag. -/
inductive EipRequest where
  | read (id : Int)
  | write (id : Int) (value : Option EipTagValue)
  deriving DecidableEq

namespace EipRequest

def isWrite : EipRequest -> Bool
  | read _ => false
  | write _ _ => true

/-- What has been set in the buffer of a tag since it was read. -/
def staged (id : Int) : List PlcCall -> Option EipTagValue
  | [] => none
  | .setUint8 i value :: earlier =>
      if i = id then some (.uint8 value) else staged id earlier
  | .setInt32 i value :: earlier =>
      if i = id then some (.int32 value) else staged id earlier
  | .setFloat32 i value :: earlier =>
      if i = id then some (.float32 value) else staged id earlier
  | .read i _ :: earlier => if i = id then none else staged id earlier
  | _ :: earlier => staged id earlier

def ofCall (earlier : List PlcCall) : PlcCall -> Option EipRequest
  | .read id _ => some (.read id)
  | .write id _ => some (.write id (staged id earlier))
  | _ => none

def ofCalls : List PlcCall -> List EipRequest
  | [] => []
  | c :: earlier => ofCalls earlier ++ (ofCall earlier c).toList

def ofSession (s : EipSession) : List EipRequest :=
  ofCalls s.calls

/-- The handle under a key, if it stands for a tag. -/
def handleOf (tags : OrderedMap String TagEntry) (key : String) : Option TagEntry :=
  (tags.find? key).filter (fun entry => decide (0 ≤ entry.id))

def readOf (tags : OrderedMap String TagEntry) (key : String) : List EipRequest :=
  (handleOf tags key).toList.map (fun entry => .read entry.id)

/-- A value is sent in the type of its tag. -/
def encode (asUint8 : UInt8) (asInt32 : Int32) (asFloat32 : Single) :
    EipTagValueType -> EipTagValue
  | .bool => .uint8 asUint8
  | .dint => .int32 asInt32
  | .real => .float32 asFloat32

def writeOf (tags : OrderedMap String TagEntry) (asUint8 : UInt8) (asInt32 : Int32)
    (asFloat32 : Single) (key : String) : List EipRequest :=
  (handleOf tags key).toList.map
    (fun entry => .write entry.id (some (encode asUint8 asInt32 asFloat32 entry.valueType)))

def writeBoolOf (tags : OrderedMap String TagEntry) (key : String) (value : Bool) :
    List EipRequest :=
  writeOf tags (if value then 1 else 0) (if value then 1 else 0)
    (Single.ofInt (if value then 1 else 0)) key

def writeDintOf (tags : OrderedMap String TagEntry) (key : String) (value : Int32) :
    List EipRequest :=
  writeOf tags (if value != 0 then 1 else 0) value (Single.ofInt value.toInt) key

def writeRealOf (tags : OrderedMap String TagEntry) (key : String) (value : Single) :
    List EipRequest :=
  writeOf tags (if !value.isZero then 1 else 0) (Int32.ofInt value.toInt32) value key

def scan (tags : OrderedMap String TagEntry) (m : EtherNetIpEquipmentMapping) :
    List EipRequest :=
  m.telemetry.zipIdx.flatMap
      (fun p => readOf tags (EtherNetIpIndustrialAdapter.tagKey m.id "tel" p.2)) ++
    ((if m.state.mapped then
        readOf tags (EtherNetIpIndustrialAdapter.tagKey m.id "state" 0) else []) ++
      (if m.fault.mapped then
        readOf tags (EtherNetIpIndustrialAdapter.tagKey m.id "fault" 0) else []))

def writeDoubleOf (tags : OrderedMap String TagEntry) (key : String)
    (valueType : EtherNetIpValueType) (value : Double) : List EipRequest :=
  match valueType with
  | .bool => writeBoolOf tags key (!value.isZero)
  | .real => writeRealOf tags key (Single.ofDouble value)
  | .dint => writeDintOf tags key (Int32.ofInt value.lround)

/-- A command writes the tag of the first mapping with its name. -/
def ofCommand (tags : OrderedMap String TagEntry) (equipmentId command : String)
    (parameter : Double) (mapped : EtherNetIpCommandMapping × Nat) : List EipRequest :=
  let key := EtherNetIpIndustrialAdapter.tagKey equipmentId "cmd" mapped.2
  if isSetCommand command then writeDoubleOf tags key mapped.1.valueType parameter
  else if mapped.1.valueType = .bool then writeBoolOf tags key true
  else writeDoubleOf tags key mapped.1.valueType Double.one

theorem filter_readOf (tags : OrderedMap String TagEntry) (key : String) :
    (readOf tags key).filter isWrite = [] := by
  unfold readOf
  cases handleOf tags key <;> rfl

theorem filter_writeOf (tags : OrderedMap String TagEntry) (asUint8 : UInt8)
    (asInt32 : Int32) (asFloat32 : Single) (key : String) :
    (writeOf tags asUint8 asInt32 asFloat32 key).filter isWrite =
      writeOf tags asUint8 asInt32 asFloat32 key := by
  unfold writeOf
  cases handleOf tags key <;> rfl

theorem length_writeOf (tags : OrderedMap String TagEntry) (asUint8 : UInt8)
    (asInt32 : Int32) (asFloat32 : Single) (key : String) :
    (writeOf tags asUint8 asInt32 asFloat32 key).length ≤ 1 := by
  unfold writeOf
  cases handleOf tags key <;> simp

theorem ofSession_call {s : EipSession} {c : PlcCall} (h : ofCall s.calls c = none) :
    ofSession (s.call c) = ofSession s := by
  show ofCalls s.calls ++ (ofCall s.calls c).toList = _
  rw [h]
  exact List.append_nil _

theorem findTag_some {s s' : EipSession} {key : String} {entry : TagEntry}
    (h : s.findTag key = (some entry, s')) : handleOf s.tags key = some entry ∧ s' = s := by
  unfold EipSession.findTag at h
  unfold handleOf
  split at h
  · cases h
  · rename_i found hfound
    split at h
    · cases h
    · rename_i hid
      cases h
      rw [hfound]
      exact ⟨by simpa [Option.filter] using hid, rfl⟩

theorem findTag_none {s s' : EipSession} {key : String}
    (h : s.findTag key = (none, s')) : ofSession s' = ofSession s := by
  unfold EipSession.findTag at h
  split at h
  · cases h
    rfl
  · split at h <;> cases h
    rfl

theorem readTag_follows {value : Type} (lib : Libplctag) (ofUint8 : UInt8 -> value)
    (ofInt32 : Int32 -> value) (ofFloat32 : Single -> value) (key : String)
    (s : EipSession) :
    Follows ofSession (readOf s.tags key)
      (s.readTag lib ofUint8 ofInt32 ofFloat32 key).1.isSome s
      (s.readTag lib ofUint8 ofInt32 ofFloat32 key).2 := by
  unfold EipSession.readTag
  split
  · rename_i s' hfind
    exact follows_failed (findTag_none hfind) _
  · rename_i entry s' hfind
    rcases findTag_some hfind with ⟨hhandle, rfl⟩
    have hread : readOf s'.tags key = [.read entry.id] := by
      unfold readOf
      rw [hhandle]
      rfl
    have hsent : ofSession (s'.call (.read entry.id s'.timeoutMs)) =
        ofSession s' ++ [.read entry.id] := rfl
    rw [hread]
    dsimp only
    split
    · exact follows_whole hsent _
    · cases entry.valueType <;>
        exact follows_whole ((ofSession_call rfl).trans hsent) _

theorem writeTag_follows (lib : Libplctag) (asUint8 : UInt8) (asInt32 : Int32)
    (asFloat32 : Single) (key : String) (s : EipSession) :
    Follows ofSession (writeOf s.tags asUint8 asInt32 asFloat32 key)
      (s.writeTag lib asUint8 asInt32 asFloat32 key).1 s
      (s.writeTag lib asUint8 asInt32 asFloat32 key).2 := by
  unfold EipSession.writeTag
  split
  · rename_i s' hfind
    exact follows_failed (findTag_none hfind) _
  · rename_i entry s' hfind
    rcases findTag_some hfind with ⟨hhandle, rfl⟩
    have hwrite : writeOf s'.tags asUint8 asInt32 asFloat32 key =
        [.write entry.id (some (encode asUint8 asInt32 asFloat32 entry.valueType))] := by
      unfold writeOf
      rw [hhandle]
      rfl
    rw [hwrite]
    cases entry.valueType <;> dsimp only <;> split
    · exact follows_failed (ofSession_call rfl) _
    · split <;> exact follows_whole (by simp [ofSession, ofCalls, ofCall, staged, encode,
        EipSession.call, EipSession.captureStatus, EipSession.captureError]) _
    · exact follows_failed (ofSession_call rfl) _
    · split <;> exact follows_whole (by simp [ofSession, ofCalls, ofCall, staged, encode,
        EipSession.call, EipSession.captureStatus, EipSession.captureError]) _
    · exact follows_failed (ofSession_call rfl) _
    · split <;> exact follows_whole (by simp [ofSession, ofCalls, ofCall, staged, encode,
        EipSession.call, EipSession.captureStatus, EipSession.captureError]) _

theorem readTag_says {value answer : Type} (lib : Libplctag) (ofUint8 : UInt8 -> value)
    (ofInt32 : Int32 -> value) (ofFloat32 : Single -> value) (f : value -> answer)
    (key : String) {tags : OrderedMap String TagEntry} {s : EipSession}
    (hs : s.tags = tags) :
    (s.readTag lib ofUint8 ofInt32 ofFloat32 key).2.tags = tags ∧
      Follows ofSession (readOf tags key)
        ((s.readTag lib ofUint8 ofInt32 ofFloat32 key).1.map f).isSome s
        (s.readTag lib ofUint8 ofInt32 ofFloat32 key).2 := by
  have hread := readTag_follows lib ofUint8 ofInt32 ofFloat32 key s
  rw [hs] at hread
  rw [Option.isSome_map]
  exact ⟨(EtherNetIpIndustrialAdapter.readTag_same lib ofUint8 ofInt32 ofFloat32 key
    s).tags.trans hs, hread⟩

theorem readDouble_says (lib : Libplctag) (key : String)
    (valueType : EtherNetIpValueType) (tags : OrderedMap String TagEntry) :
    ReadStep.ReadSays (fun link : EtherNetIpLink => ofSession link.session)
      (fun link => link.session.tags = tags) (readOf tags key)
      (EtherNetIpIndustrialAdapter.readDouble lib key valueType) := by
  apply Link.readSays_onSession
  intro s hs
  dsimp only
  split
  · exact ⟨hs, follows_failed rfl _⟩
  · cases valueType <;> exact readTag_says lib _ _ _ _ key hs

theorem readBoolean_says (lib : Libplctag) (key : String)
    (valueType : EtherNetIpValueType) (tags : OrderedMap String TagEntry) :
    ReadStep.ReadSays (fun link : EtherNetIpLink => ofSession link.session)
      (fun link => link.session.tags = tags) (readOf tags key)
      (EtherNetIpIndustrialAdapter.readBoolean lib key valueType) := by
  apply Link.readSays_onSession
  intro s hs
  dsimp only
  split
  · exact ⟨hs, follows_failed rfl _⟩
  · cases valueType with
    | bool =>
        have hread := readTag_says lib (fun bit => bit != 0) (fun dint => dint != 0)
          (fun real => !real.isZero) (fun flag => flag) key hs
        rw [Option.map_id'] at hread
        exact hread
    | dint => exact readTag_says lib _ _ _ _ key hs
    | real => exact readTag_says lib _ _ _ _ key hs

theorem refreshSteps_say (lib : Libplctag) (m : EtherNetIpEquipmentMapping)
    (tags : OrderedMap String TagEntry) :
    ReadStep.RefreshSays (fun link : EtherNetIpLink => ofSession link.session)
      (fun link => link.session.tags = tags) (scan tags m)
      (EtherNetIpIndustrialAdapter.refreshSteps lib m) := by
  have hsignal : forall (signal : EtherNetIpSignalMapping) (role : String),
      ReadStep.SignalSays (fun link : EtherNetIpLink => ofSession link.session)
        (fun link => link.session.tags = tags)
        (if signal.mapped then
          readOf tags (EtherNetIpIndustrialAdapter.tagKey m.id role 0) else [])
        (if signal.mapped then
          some (EtherNetIpIndustrialAdapter.readBoolean lib
            (EtherNetIpIndustrialAdapter.tagKey m.id role 0) signal.valueType)
        else none) := by
    intro signal role
    cases signal.mapped with
    | true => exact readBoolean_says lib _ signal.valueType tags
    | false => rfl
  exact ReadStep.signalSteps_says
    (fun p _ => readDouble_says lib _ p.1.valueType tags) (hsignal m.state "state")
    (hsignal m.fault "fault")

theorem writeThrough_follows {entry : Type} {log : EipSession -> List entry}
    (hlog : forall s timeoutMs, log (EipSession.setTimeoutMs s timeoutMs) = log s)
    (timeoutMs : Int) {write : EipSession -> Bool × EipSession} {script : List entry}
    (link : EtherNetIpLink)
    (hwrite : Follows log script (write (link.session.setTimeoutMs timeoutMs)).1
      (link.session.setTimeoutMs timeoutMs)
      (write (link.session.setTimeoutMs timeoutMs)).2) :
    Follows log script
      (EtherNetIpIndustrialAdapter.writeThrough timeoutMs write link).1 link.session
      (EtherNetIpIndustrialAdapter.writeThrough timeoutMs write link).2.session := by
  replace hwrite := hwrite.congr (hlog link.session timeoutMs).symm rfl
  unfold EtherNetIpIndustrialAdapter.writeThrough
  split
  · exact follows_failed rfl _
  · dsimp only
    split
    · rename_i hok
      rw [hok] at hwrite
      exact hwrite
    · exact hwrite.weaken (fun h => Bool.noConfusion h)

theorem writeDouble_follows (lib : Libplctag) (timeoutMs : Int) (key : String)
    (valueType : EtherNetIpValueType) (value : Double) (link : EtherNetIpLink) :
    Follows ofSession (writeDoubleOf link.session.tags key valueType value)
      (EtherNetIpIndustrialAdapter.writeDouble lib timeoutMs key valueType value link).1
      link.session
      (EtherNetIpIndustrialAdapter.writeDouble lib timeoutMs key valueType value
        link).2.session := by
  cases valueType <;>
    exact writeThrough_follows (fun _ _ => rfl) timeoutMs link
      (writeTag_follows lib _ _ _ key _)

theorem writeBoolean_follows (lib : Libplctag) (timeoutMs : Int) (key : String)
    (value : Bool) (link : EtherNetIpLink) :
    Follows ofSession (writeBoolOf link.session.tags key value)
      (EtherNetIpIndustrialAdapter.writeBoolean lib timeoutMs key .bool value link).1
      link.session
      (EtherNetIpIndustrialAdapter.writeBoolean lib timeoutMs key .bool value
        link).2.session :=
  writeThrough_follows (fun _ _ => rfl) timeoutMs link (writeTag_follows lib _ _ _ key _)

theorem runCommand_follows (lib : Libplctag) (timeoutMs : Int) (command : String)
    (parameter : Double) (m : EtherNetIpEquipmentMapping) (link : EtherNetIpLink) :
    Follows ofSession
      ((m.commands.zipIdx.find? (fun entry => entry.1.command = command)).elim []
        (ofCommand link.session.tags m.id command parameter))
      (EtherNetIpIndustrialAdapter.runCommand lib timeoutMs command parameter m
        link).1.accepted link.session
      (EtherNetIpIndustrialAdapter.runCommand lib timeoutMs command parameter m
        link).2.session := by
  apply Link.execute_follows
  intro mapped
  apply Link.written_follows
  unfold ofCommand
  dsimp only
  split
  · exact writeDouble_follows lib timeoutMs _ _ parameter link
  · split
    · rename_i hbool
      rw [hbool]
      exact writeBoolean_follows lib timeoutMs _ true link
    · exact writeDouble_follows lib timeoutMs _ _ Double.one link

theorem filter_ofCommand (tags : OrderedMap String TagEntry) (equipmentId command : String)
    (parameter : Double) (mapped : EtherNetIpCommandMapping × Nat) :
    (ofCommand tags equipmentId command parameter mapped).filter isWrite =
      ofCommand tags equipmentId command parameter mapped := by
  have hdouble : forall (key : String) (valueType : EtherNetIpValueType) (value : Double),
      (writeDoubleOf tags key valueType value).filter isWrite =
        writeDoubleOf tags key valueType value := by
    intro key valueType value
    cases valueType <;> exact filter_writeOf tags _ _ _ key
  unfold ofCommand
  dsimp only
  split
  · exact hdouble _ _ _
  · split
    · exact filter_writeOf tags _ _ _ _
    · exact hdouble _ _ _

theorem length_ofCommand (tags : OrderedMap String TagEntry) (equipmentId command : String)
    (parameter : Double) (mapped : EtherNetIpCommandMapping × Nat) :
    (ofCommand tags equipmentId command parameter mapped).length ≤ 1 := by
  have hdouble : forall (key : String) (valueType : EtherNetIpValueType) (value : Double),
      (writeDoubleOf tags key valueType value).length ≤ 1 := by
    intro key valueType value
    cases valueType <;> exact length_writeOf tags _ _ _ key
  unfold ofCommand
  dsimp only
  split
  · exact hdouble _ _ _
  · split
    · exact length_writeOf tags _ _ _ _
    · exact hdouble _ _ _

/-!
Creating and destroying tags asks for none of their values.
-/

theorem ofSession_close (s : EipSession) : ofSession s.close = ofSession s := by
  unfold EipSession.close EipSession.destroyAllTags
  split
  · rfl
  · exact ofSession_call rfl

theorem ofSession_openWith (config : EipSessionConfig) (s : EipSession) :
    ofSession (s.openWith config).2 = ofSession s := by
  unfold EipSession.openWith
  dsimp only
  split <;> exact ofSession_close s

theorem ofSession_createTag (lib : Libplctag) (key tagName : String)
    (valueType : EipTagValueType) (s : EipSession) :
    ofSession (s.createTag lib key tagName valueType).2 = ofSession s := by
  have hcreated : ofSession (s.call (.create (s.buildAttrib tagName) s.timeoutMs)) =
      ofSession s := ofSession_call rfl
  have hasked : forall id : Int, ofSession ((s.call (.create (s.buildAttrib tagName)
      s.timeoutMs)).call (.status id)) = ofSession s :=
    fun id => (ofSession_call rfl).trans hcreated
  unfold EipSession.createTag
  split
  · rfl
  · split
    · rfl
    · split
      · rfl
      · dsimp only
        split
        · exact hcreated
        · split
          · exact (ofSession_call rfl).trans (hasked _)
          · exact hasked _

theorem ofSession_createMappedTags (lib : Libplctag) (config : EtherNetIpAdapterConfig)
    (s : EipSession) :
    ofSession (EtherNetIpIndustrialAdapter.createMappedTags lib config s).2 =
      ofSession s :=
  view_untilFailure ofSession (fun _ s => ofSession_createTag lib _ _ _ s)
    (config.equipment.flatMap EtherNetIpIndustrialAdapter.mappedTags)
    (s.setTimeoutMs (EipSession.atLeastOne config.timeoutMs))

theorem connect_follows (lib : Libplctag) (a : EtherNetIpIndustrialAdapter)
    (h : a.link.connectionState ≠ .connected) :
    Follows ofSession [] (EtherNetIpIndustrialAdapter.connect lib a).1 a.link.session
      (EtherNetIpIndustrialAdapter.connect lib a).2.link.session := by
  have hopened : forall {ok : Bool} {s : EipSession},
      a.link.session.close.openWith
          (EtherNetIpIndustrialAdapter.sessionConfig a.config) = (ok, s) ->
        ofSession s = ofSession a.link.session := by
    intro ok s hs
    have hopen := ofSession_openWith
      (EtherNetIpIndustrialAdapter.sessionConfig a.config) a.link.session.close
    rw [hs] at hopen
    exact hopen.trans (ofSession_close _)
  have hcreated : forall {ok : Bool} {s t : EipSession},
      EtherNetIpIndustrialAdapter.createMappedTags lib a.config s = (ok, t) ->
        ofSession t = ofSession s := by
    intro ok s t ht
    have hview := ofSession_createMappedTags lib a.config s
    rw [ht] at hview
    exact hview
  have hout := EtherNetIpIndustrialAdapter.connect_outcome lib a
  generalize EtherNetIpIndustrialAdapter.connect lib a = r at hout ⊢
  cases hout with
  | unchanged hstate => exact absurd hstate h
  | refused reason hreason => exact follows_nil rfl _
  | closed reason hreason hopen => exact follows_nil (hopened hopen) _
  | incomplete reason hreason hopen htags =>
      exact follows_nil ((ofSession_close _).trans
        ((hcreated htags).trans (hopened hopen))) _
  | opened hopen htags => exact follows_nil ((hcreated htags).trans (hopened hopen)) _

end EipRequest

instance : ProtocolWire EtherNetIpAdapterConfig EtherNetIpEquipmentMapping EipSession
    Libplctag EipRequest (OrderedMap String TagEntry) where
  requests := EipRequest.ofSession
  isWrite := EipRequest.isWrite
  contextOf s := s.tags
  scan := EipRequest.scan
  commanded _ tags command parameter m :=
    (m.commands.zipIdx.find? (fun entry => entry.1.command = command)).elim []
      (EipRequest.ofCommand tags m.id command parameter)
  greeting _ := []
  scan_reads tags m := by
    unfold EipRequest.scan
    rw [List.filter_append, List.filter_append, List.filter_flatMap]
    split <;> split <;> simp [EipRequest.filter_readOf]
  greeting_reads _ := rfl
  commanded_writes _ tags command parameter m := by
    cases m.commands.zipIdx.find? (fun entry => entry.1.command = command) with
    | none => rfl
    | some mapped => exact EipRequest.filter_ofCommand tags m.id command parameter mapped
  commanded_once _ tags command parameter m := by
    cases m.commands.zipIdx.find? (fun entry => entry.1.command = command) with
    | none => exact Nat.zero_le 1
    | some mapped => exact EipRequest.length_ofCommand tags m.id command parameter mapped
  close_requests := EipRequest.ofSession_close
  prepare_requests _ _ := rfl
  prepare_context _ _ := rfl
  fail_session _ := rfl
  connect_follows := EipRequest.connect_follows
  plan_follows lib m e link := EipRequest.refreshSteps_say lib m link.session.tags e link rfl
  run_follows lib config :=
    EipRequest.runCommand_follows lib
      (EtherNetIpIndustrialAdapter.operationTimeoutMs config)

end VirtualFactory
