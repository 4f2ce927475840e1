import VirtualFactory.Industrial.Answers
import VirtualFactory.Industrial.Requests.EtherNetIp

/-!
# What a controller answers to a poll
-/

namespace VirtualFactory

open Foundation

namespace EipTagValue

def asBool : EipTagValue -> Bool
  | uint8 bit => bit != 0
  | int32 dint => dint != 0
  | float32 real => !real.isZero

def asDint : EipTagValue -> Int32
  | uint8 bit => if bit != 0 then 1 else 0
  | int32 dint => dint
  | float32 real => Int32.ofInt real.toInt32

def asReal : EipTagValue -> Single
  | uint8 bit => if bit != 0 then Single.ofInt 1 else Single.ofInt 0
  | int32 dint => Single.ofInt dint.toInt
  | float32 real => real

/-- A value as the number of a mapping of some type. -/
def asDouble (value : EipTagValue) : EtherNetIpValueType -> Double
  | .bool => Double.ofBool value.asBool
  | .real => Double.ofSingle value.asReal
  | .dint => Double.ofInt value.asDint.toInt

def asTruth (value : EipTagValue) : EtherNetIpValueType -> Bool
  | .bool => value.asBool
  | .real => !value.asReal.isZero
  | .dint => value.asDint != 0

end EipTagValue

/-- The call that takes the value out of the buffer of a tag, by the type of the tag. -/
def TagEntry.getCall (entry : TagEntry) : PlcCall :=
  match entry.valueType with
  | .bool => .getUint8 entry.id
  | .dint => .getInt32 entry.id
  | .real => .getFloat32 entry.id

def TagEntry.answer (entry : TagEntry) (lib : Libplctag) (calls : List PlcCall) :
    EipTagValue :=
  match entry.valueType with
  | .bool => .uint8 (lib.uint8 calls)
  | .dint => .int32 (lib.int32 calls)
  | .real => .float32 (lib.float32 calls)

/-- How the tag under a key is read: it is fetched, and its value is taken out of the
buffer. -/
inductive TagAsked (lib : Libplctag) (tags : OrderedMap String TagEntry) (key : String)
    (before : List PlcCall) : Option EipTagValue -> List PlcCall -> Prop
  | unknown (h : EipRequest.handleOf tags key = none) :
      TagAsked lib tags key before none before
  | failed {entry : TagEntry} {timeoutMs : Int}
      (h : EipRequest.handleOf tags key = some entry)
      (hstatus : lib.status (.read entry.id timeoutMs :: before) ≠ plctagStatusOk) :
      TagAsked lib tags key before none (.read entry.id timeoutMs :: before)
  | answered {entry : TagEntry} {timeoutMs : Int}
      (h : EipRequest.handleOf tags key = some entry)
      (hstatus : lib.status (.read entry.id timeoutMs :: before) = plctagStatusOk) :
      TagAsked lib tags key before
        (some (entry.answer lib (entry.getCall :: .read entry.id timeoutMs :: before)))
        (entry.getCall :: .read entry.id timeoutMs :: before)

theorem TagAsked.suffix {lib : Libplctag} {tags : OrderedMap String TagEntry}
    {key : String} {before after : List PlcCall} {x : Option EipTagValue}
    (h : TagAsked lib tags key before x after) : before <:+ after := by
  cases h with
  | unknown => exact List.suffix_refl _
  | failed => exact List.suffix_cons _ _
  | answered => exact (List.suffix_cons _ _).trans (List.suffix_cons _ _)

namespace EtherNetIpIndustrialAdapter

/-- The tags that a machine reads, each by its key and the type it is mapped with, with
the signal that it is for. -/
def signalSources (m : EtherNetIpEquipmentMapping) :
    List (SignalEntry × String × EtherNetIpValueType) :=
  m.telemetry.zipIdx.map
      (fun p => (.telemetry p.1.name p.1.unit, tagKey m.id "tel" p.2, p.1.valueType)) ++
    ((if m.state.mapped then [(.state, tagKey m.id "state" 0, m.state.valueType)] else []) ++
      (if m.fault.mapped then [(.fault, tagKey m.id "fault" 0, m.fault.valueType)] else []))

/-- The signal at a position is what the controller answers for the tag of that
signal. -/
def Answers (lib : Libplctag) (tags : OrderedMap String TagEntry)
    (m : EtherNetIpEquipmentMapping) (n : Nat) (value : Option Reading)
    (before after : List PlcCall) : Prop :=
  exists entry key valueType x, (signalSources m)[n]? = some (entry, key, valueType) ∧
    TagAsked lib tags key before x after ∧
      value = x.bind (fun v =>
        entry.reading (some (v.asDouble valueType)) (some (v.asTruth valueType)))

def readSignal (lib : Libplctag) (entry : SignalEntry) (key : String)
    (valueType : EtherNetIpValueType) : ReadStep EtherNetIpLink :=
  match entry with
  | .telemetry name unit => .telemetry name unit (readDouble lib key valueType)
  | .state => .state (readBoolean lib key valueType)
  | .fault => .fault (readBoolean lib key valueType)

theorem refreshSteps_eq (lib : Libplctag) (m : EtherNetIpEquipmentMapping) :
    refreshSteps lib m =
      (signalSources m).map (fun p => readSignal lib p.1 p.2.1 p.2.2) := by
  unfold refreshSteps signalSources ReadStep.signalSteps
  rw [List.map_append, List.map_append, List.map_map, List.map_map]
  congr 1
  split <;> split <;> rfl

theorem findTag_missing {s s' : EipSession} {key : String}
    (h : s.findTag key = (none, s')) :
    EipRequest.handleOf s.tags key = none ∧ s'.calls = s.calls := by
  unfold EipSession.findTag at h
  unfold EipRequest.handleOf
  split at h
  · rename_i hfound
    cases h
    rw [hfound]
    exact ⟨rfl, rfl⟩
  · rename_i found hfound
    split at h
    · rename_i hid
      cases h
      rw [hfound]
      exact ⟨by simpa [Option.filter] using hid, rfl⟩
    · cases h

theorem readTag_asked {value : Type} (lib : Libplctag) (decode : EipTagValue -> value)
    (key : String) (s : EipSession) :
    let r := s.readTag lib (fun bit => decode (.uint8 bit))
      (fun dint => decode (.int32 dint)) (fun real => decode (.float32 real)) key
    exists x, TagAsked lib s.tags key s.calls x r.2.calls ∧ r.1 = x.map decode := by
  unfold EipSession.readTag
  rcases hfind : s.findTag key with ⟨found, s'⟩
  cases found with
  | none =>
      rcases findTag_missing hfind with ⟨hhandle, hcalls⟩
      exact ⟨none, hcalls ▸ .unknown hhandle, rfl⟩
  | some entry =>
      rcases EipRequest.findTag_some hfind with ⟨hhandle, rfl⟩
      dsimp only
      split
      · rename_i hstatus
        exact ⟨none, .failed hhandle hstatus, rfl⟩
      · rename_i hstatus
        refine ⟨some (entry.answer lib
          (entry.getCall :: .read entry.id s'.timeoutMs :: s'.calls)), ?_, ?_⟩
        · have hasked : TagAsked lib s'.tags key s'.calls _ _ :=
            .answered hhandle (not_not.mp hstatus)
          unfold TagEntry.getCall at hasked ⊢
          cases htype : entry.valueType <;> rw [htype] at hasked <;> exact hasked
        · unfold TagEntry.getCall TagEntry.answer
          cases entry.valueType <;> rfl

/-- A read keeps the session as it serves the reads of a poll. -/
def ServesReads (start s : EipSession) : Prop :=
  SameTags start s ∧ IsOpen s

theorem readTag_serves {value : Type} (lib : Libplctag) (decode : EipTagValue -> value)
    (key : String) {start s : EipSession} (h : ServesReads start s) :
    let r := s.readTag lib (fun bit => decode (.uint8 bit))
      (fun dint => decode (.int32 dint)) (fun real => decode (.float32 real)) key
    ServesReads start r.2 ∧
      exists x, TagAsked lib start.tags key s.calls x r.2.calls ∧ r.1 = x.map decode := by
  intro r
  have hasked := readTag_asked lib decode key s
  have hsame := readTag_same lib (fun bit => decode (.uint8 bit))
    (fun dint => decode (.int32 dint)) (fun real => decode (.float32 real)) key s
  rw [h.1.tags] at hasked
  exact ⟨⟨⟨hsame.isOpen.trans h.1.isOpen, hsame.tags.trans h.1.tags⟩,
    hsame.isOpen.trans h.2⟩, hasked⟩

theorem readDouble_asked (lib : Libplctag) (key : String)
    (valueType : EtherNetIpValueType) {start : EipSession} {link : EtherNetIpLink}
    (h : ServesReads start link.session) :
    let r := readDouble lib key valueType link
    ServesReads start r.2.session ∧
      exists x, TagAsked lib start.tags key link.session.calls x r.2.session.calls ∧
        r.1 = x.map (fun v => v.asDouble valueType) := by
  have hopen : link.session.connected = true := h.2
  unfold readDouble Link.onSession
  dsimp only
  rw [hopen]
  cases valueType with
  | bool =>
      rcases readTag_serves lib EipTagValue.asBool key h with ⟨hafter, x, hasked, hx⟩
      exact ⟨hafter, x, hasked, (congrArg (Option.map _) hx).trans (Option.map_map ..)⟩
  | dint =>
      rcases readTag_serves lib EipTagValue.asDint key h with ⟨hafter, x, hasked, hx⟩
      exact ⟨hafter, x, hasked, (congrArg (Option.map _) hx).trans (Option.map_map ..)⟩
  | real =>
      rcases readTag_serves lib EipTagValue.asReal key h with ⟨hafter, x, hasked, hx⟩
      exact ⟨hafter, x, hasked, (congrArg (Option.map _) hx).trans (Option.map_map ..)⟩

theorem readBoolean_asked (lib : Libplctag) (key : String)
    (valueType : EtherNetIpValueType) {start : EipSession} {link : EtherNetIpLink}
    (h : ServesReads start link.session) :
    let r := readBoolean lib key valueType link
    ServesReads start r.2.session ∧
      exists x, TagAsked lib start.tags key link.session.calls x r.2.session.calls ∧
        r.1 = x.map (fun v => v.asTruth valueType) := by
  have hopen : link.session.connected = true := h.2
  unfold readBoolean Link.onSession
  dsimp only
  rw [hopen]
  cases valueType with
  | bool => exact readTag_serves lib EipTagValue.asBool key h
  | dint =>
      rcases readTag_serves lib EipTagValue.asDint key h with ⟨hafter, x, hasked, hx⟩
      exact ⟨hafter, x, hasked, (congrArg (Option.map _) hx).trans (Option.map_map ..)⟩
  | real =>
      rcases readTag_serves lib EipTagValue.asReal key h with ⟨hafter, x, hasked, hx⟩
      exact ⟨hafter, x, hasked, (congrArg (Option.map _) hx).trans (Option.map_map ..)⟩

theorem readSignal_asked (lib : Libplctag) (entry : SignalEntry) (key : String)
    (valueType : EtherNetIpValueType) {start : EipSession} {link : EtherNetIpLink}
    (h : ServesReads start link.session) :
    let r := (readSignal lib entry key valueType).perform link
    ServesReads start r.2.session ∧
      exists x, TagAsked lib start.tags key link.session.calls x r.2.session.calls ∧
        r.1 = x.bind (fun v =>
          entry.reading (some (v.asDouble valueType)) (some (v.asTruth valueType))) := by
  cases entry with
  | telemetry name unit =>
      rcases readDouble_asked lib key valueType h with ⟨hafter, x, hasked, hx⟩
      refine ⟨hafter, x, hasked, (congrArg (Option.map _) hx).trans ?_⟩
      cases x <;> rfl
  | state =>
      rcases readBoolean_asked lib key valueType h with ⟨hafter, x, hasked, hx⟩
      refine ⟨hafter, x, hasked, (congrArg (Option.map _) hx).trans ?_⟩
      cases x <;> rfl
  | fault =>
      rcases readBoolean_asked lib key valueType h with ⟨hafter, x, hasked, hx⟩
      refine ⟨hafter, x, hasked, (congrArg (Option.map _) hx).trans ?_⟩
      cases x <;> rfl

instance : SignalAnswers EtherNetIpAdapterConfig EtherNetIpEquipmentMapping EipSession
    PlcCall where
  calls s := s.calls
  Answers lib s := Answers lib s.tags
  Serves := ServesReads
  serves_prepare _ _ hopen := ⟨⟨rfl, rfl⟩, hopen⟩
  calls_prepare _ _ := rfl
  calls_fail _ := rfl
  plan_answered lib s m := by
    show (ReadPlan.fixed (refreshSteps lib m)).Answered _ _ _
    rw [refreshSteps_eq]
    apply ReadPlan.answered_fixed
    intro n p link hp hserves
    rcases readSignal_asked lib p.1 p.2.1 p.2.2 hserves with ⟨hafter, x, hasked, hx⟩
    exact ⟨hafter, hasked.suffix, p.1, p.2.1, p.2.2, x, hp, hasked, hx⟩

end EtherNetIpIndustrialAdapter

end VirtualFactory
