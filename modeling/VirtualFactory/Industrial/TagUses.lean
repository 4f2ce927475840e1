import VirtualFactory.Industrial.MappedTags

/-!
# How tags are used

Between a connect and the next fault or disconnect, the session reads and writes the tags
of the mapped entries only, each by the type of its entry.
-/

namespace VirtualFactory

open Foundation IndustrialAdapter

/-- The call works on a tag by the functions for a type of values. -/
def PlcCall.Accesses (id : Int) (valueType : EipTagValueType) : PlcCall -> Prop
  | .read i _ => i = id
  | .write i _ => i = id
  | .getUint8 i => i = id ∧ valueType = .bool
  | .setUint8 i _ => i = id ∧ valueType = .bool
  | .getInt32 i => i = id ∧ valueType = .dint
  | .setInt32 i _ => i = id ∧ valueType = .dint
  | .getFloat32 i => i = id ∧ valueType = .real
  | .setFloat32 i _ => i = id ∧ valueType = .real
  | _ => False

namespace EtherNetIpIndustrialAdapter

def unknownTag : String := "unknown or destroyed tag"

/-- The entry has a tag of its type in the table. -/
def Serves (request : TagRequest) (s : EipSession) (tag : TagEntry) : Prop :=
  s.tags.find? request.1 = some tag ∧ tag.valueType = toSessionType request.2.2 ∧ 0 ≤ tag.id

/-- Using a session for some entries: every call accesses the tag of one of them by its
type, and no entry is missed. -/
structure Uses (requests : List TagRequest) (s s' : EipSession) : Prop where
  same : SameTags s s'
  attrib : forall tagName, s'.buildAttrib tagName = s.buildAttrib tagName
  calls : exists later, s'.calls = later ++ s.calls ∧
    forall c, c ∈ later -> exists request tag, request ∈ requests ∧ Serves request s tag ∧
      c.Accesses tag.id (toSessionType request.2.2)
  error : s'.lastError = s.lastError ∨
    (s'.lastError ≠ unknownTag ∧ s'.lastError ≠ duplicateKey)

theorem Uses.refl (requests : List TagRequest) (s : EipSession) : Uses requests s s where
  same := ⟨rfl, rfl⟩
  attrib _ := rfl
  calls := ⟨[], rfl, fun _ hc => absurd hc List.not_mem_nil⟩
  error := Or.inl rfl

theorem Uses.trans {requests : List TagRequest} {s t u : EipSession}
    (hst : Uses requests s t) (htu : Uses requests t u) : Uses requests s u := by
  constructor
  case same =>
    exact ⟨htu.same.isOpen.trans hst.same.isOpen, htu.same.tags.trans hst.same.tags⟩
  case attrib =>
    intro tagName
    rw [htu.attrib, hst.attrib]
  case calls =>
    rcases hst.calls with ⟨early, hearly, hfirst⟩
    rcases htu.calls with ⟨late, hlate, hsecond⟩
    refine ⟨late ++ early, ?_, ?_⟩
    · rw [hlate, hearly, List.append_assoc]
    · intro c hc
      rcases List.mem_append.mp hc with hc | hc
      · rcases hsecond c hc with ⟨request, tag, hrequest, ⟨hfind, htype, hid⟩, haccess⟩
        rw [hst.same.tags] at hfind
        exact ⟨request, tag, hrequest, ⟨hfind, htype, hid⟩, haccess⟩
      · exact hfirst c hc
  case error =>
    rcases htu.error with hsame | hother
    · rw [hsame]
      exact hst.error
    · exact Or.inr hother

def AllServed (requests : List TagRequest) (s : EipSession) : Prop :=
  forall request, request ∈ requests -> exists tag, Serves request s tag

theorem AllServed.uses {requests : List TagRequest} {s t : EipSession}
    (h : AllServed requests s) (huses : Uses requests s t) : AllServed requests t := by
  intro request hrequest
  rcases h request hrequest with ⟨tag, hfind, htype, hid⟩
  exact ⟨tag, by rw [huses.same.tags]; exact hfind, htype, hid⟩

/-!
# Reads and writes
-/

theorem findTag_of_serves {request : TagRequest} {s : EipSession} {tag : TagEntry}
    (h : Serves request s tag) : s.findTag request.1 = (some tag, s) := by
  unfold EipSession.findTag
  rw [h.left]
  dsimp only
  rw [if_neg (Int.not_lt.mpr h.right.right)]

theorem Uses.call {requests : List TagRequest} {s t : EipSession} {request : TagRequest}
    {tag : TagEntry} {c : PlcCall} (h : Uses requests s t) (hrequest : request ∈ requests)
    (hserves : Serves request s tag) (haccess : c.Accesses tag.id tag.valueType) :
    Uses requests s (t.call c) where
  same := ⟨h.same.isOpen, h.same.tags⟩
  attrib := h.attrib
  calls := by
    rcases h.calls with ⟨later, hlater, huses⟩
    rw [hserves.right.left] at haccess
    refine ⟨c :: later, ?_, ?_⟩
    · show c :: t.calls = _
      rw [hlater, List.cons_append]
    · intro d hd
      rcases List.mem_cons.mp hd with rfl | hd
      · exact ⟨request, tag, hrequest, hserves, haccess⟩
      · exact huses d hd
  error := h.error

/-- A text is told from another one by its first character. -/
theorem append_ne_of_head {what other : String} {c : Char}
    (hwhat : what.toList.head? = some c) (hother : other.toList.head? ≠ some c)
    (text : String) : what ++ text ≠ other := by
  intro heq
  apply hother
  rw [← heq, String.toList_append, List.head?_append, hwhat]
  rfl

theorem tagError_ne {what : String} (hwhat : what.toList.head? = some 't') (text : String) :
    what ++ ": " ++ text ≠ unknownTag ∧ what ++ ": " ++ text ≠ duplicateKey := by
  rw [String.append_assoc]
  exact ⟨append_ne_of_head hwhat (by decide) _, append_ne_of_head hwhat (by decide) _⟩

theorem Uses.captureStatus {requests : List TagRequest} {s t : EipSession}
    (h : Uses requests s t) (lib : Libplctag) (rc : Int) {what : String}
    (hwhat : what.toList.head? = some 't') :
    Uses requests s (t.captureStatus lib rc what) where
  same := ⟨h.same.isOpen, h.same.tags⟩
  attrib := h.attrib
  calls := h.calls
  error := Or.inr (tagError_ne hwhat _)

theorem Uses.clearError {requests : List TagRequest} {s t : EipSession}
    (h : Uses requests s t) : Uses requests s { t with lastError := "" } where
  same := ⟨h.same.isOpen, h.same.tags⟩
  attrib := h.attrib
  calls := h.calls
  error := by
    have hempty : "" ≠ unknownTag ∧ "" ≠ duplicateKey := by decide
    exact Or.inr hempty

theorem Uses.setTimeoutMs {requests : List TagRequest} {s t : EipSession}
    (h : Uses requests s t) (timeoutMs : Int) :
    Uses requests s (t.setTimeoutMs timeoutMs) where
  same := ⟨h.same.isOpen, h.same.tags⟩
  attrib := h.attrib
  calls := h.calls
  error := h.error

theorem uses_readTag {value : Type} (lib : Libplctag) (ofUint8 : UInt8 -> value)
    (ofInt32 : Int32 -> value) (ofFloat32 : Single -> value) {requests : List TagRequest}
    {request : TagRequest} (hrequest : request ∈ requests) {s : EipSession}
    (h : AllServed requests s) :
    Uses requests s (s.readTag lib ofUint8 ofInt32 ofFloat32 request.1).2 := by
  rcases h request hrequest with ⟨tag, hserves⟩
  have hread := (Uses.refl requests s).call (c := .read tag.id s.timeoutMs) hrequest hserves rfl
  unfold EipSession.readTag
  rw [findTag_of_serves hserves]
  dsimp only
  split
  · exact hread.captureStatus lib _ rfl
  · have hclear := hread.clearError
    cases htype : tag.valueType with
    | bool => exact hclear.call hrequest hserves ⟨rfl, htype⟩
    | dint => exact hclear.call hrequest hserves ⟨rfl, htype⟩
    | real => exact hclear.call hrequest hserves ⟨rfl, htype⟩

/-- The call by which `writeTag` hands a value to a tag. -/
def setCall (tag : TagEntry) (asUint8 : UInt8) (asInt32 : Int32) (asFloat32 : Single) :
    PlcCall :=
  match tag.valueType with
  | .bool => .setUint8 tag.id asUint8
  | .dint => .setInt32 tag.id asInt32
  | .real => .setFloat32 tag.id asFloat32

/-- The rest of `writeTag`, after that call. -/
def sendTag (lib : Libplctag) (id : Int) (s : EipSession) : Bool × EipSession :=
  if lib.status s.calls ≠ plctagStatusOk then
    (false, s.captureStatus lib (lib.status s.calls) "tag set failed")
  else
    let s := s.call (.write id s.timeoutMs)
    if lib.status s.calls ≠ plctagStatusOk then
      (false, s.captureStatus lib (lib.status s.calls) "tag write failed")
    else (true, { s with lastError := "" })

theorem setCall_accesses (tag : TagEntry) (asUint8 : UInt8) (asInt32 : Int32)
    (asFloat32 : Single) :
    (setCall tag asUint8 asInt32 asFloat32).Accesses tag.id tag.valueType := by
  unfold setCall
  cases htype : tag.valueType <;> exact ⟨rfl, rfl⟩

theorem writeTag_of_serves (lib : Libplctag) (asUint8 : UInt8) (asInt32 : Int32)
    (asFloat32 : Single) {request : TagRequest} {s : EipSession} {tag : TagEntry}
    (h : Serves request s tag) :
    s.writeTag lib asUint8 asInt32 asFloat32 request.1 =
      sendTag lib tag.id (s.call (setCall tag asUint8 asInt32 asFloat32)) := by
  unfold EipSession.writeTag
  rw [findTag_of_serves h]
  unfold setCall
  dsimp only
  cases tag.valueType <;> rfl

theorem uses_writeTag (lib : Libplctag) (asUint8 : UInt8) (asInt32 : Int32)
    (asFloat32 : Single) {requests : List TagRequest} {request : TagRequest}
    (hrequest : request ∈ requests) {s : EipSession} (h : AllServed requests s) :
    Uses requests s (s.writeTag lib asUint8 asInt32 asFloat32 request.1).2 := by
  rcases h request hrequest with ⟨tag, hserves⟩
  have hset := (Uses.refl requests s).call hrequest hserves
    (setCall_accesses tag asUint8 asInt32 asFloat32)
  rw [writeTag_of_serves lib asUint8 asInt32 asFloat32 hserves]
  unfold sendTag
  split
  · exact hset.captureStatus lib _ rfl
  · have hwrite := hset.call (c := .write tag.id s.timeoutMs) hrequest hserves rfl
    dsimp only
    split
    · exact hwrite.captureStatus lib _ rfl
    · exact hwrite.clearError

/-!
# Reads and writes of the adapter
-/

def LinkUses (requests : List TagRequest) (s : EipSession) (link : EtherNetIpLink) : Prop :=
  Uses requests s link.session

section

variable {requests : List TagRequest} {s : EipSession} (hserved : AllServed requests s)
include hserved

theorem uses_readDouble (lib : Libplctag) {request : TagRequest}
    (hrequest : request ∈ requests) {link : EtherNetIpLink}
    (hlink : LinkUses requests s link) :
    LinkUses requests s (readDouble lib request.1 request.2.2 link).2 := by
  have hnow := hserved.uses hlink
  unfold readDouble Link.onSession LinkUses
  dsimp only
  split
  · exact hlink
  · cases request.2.2 with
    | bool => exact hlink.trans (uses_readTag lib _ _ _ hrequest hnow)
    | dint => exact hlink.trans (uses_readTag lib _ _ _ hrequest hnow)
    | real => exact hlink.trans (uses_readTag lib _ _ _ hrequest hnow)

theorem uses_readBoolean (lib : Libplctag) {request : TagRequest}
    (hrequest : request ∈ requests) {link : EtherNetIpLink}
    (hlink : LinkUses requests s link) :
    LinkUses requests s (readBoolean lib request.1 request.2.2 link).2 := by
  have hnow := hserved.uses hlink
  unfold readBoolean Link.onSession LinkUses
  dsimp only
  split
  · exact hlink
  · cases request.2.2 with
    | bool => exact hlink.trans (uses_readTag lib _ _ _ hrequest hnow)
    | dint => exact hlink.trans (uses_readTag lib _ _ _ hrequest hnow)
    | real => exact hlink.trans (uses_readTag lib _ _ _ hrequest hnow)

theorem uses_refreshSteps (lib : Libplctag) {m : EtherNetIpEquipmentMapping}
    (hm : mappedTags m ⊆ requests) :
    forall step, step ∈ refreshSteps lib m ->
      step.Keeps (LinkUses requests s) (LinkUses requests s) := by
  apply ReadStep.signalSteps_keep
  · intro p hp
    rcases List.mem_map.mp hp with ⟨point, hpoint, rfl⟩
    have hrequest := telemetry_mem_mappedTags hpoint
    exact ReadStep.readKeeps_self (fun _ => uses_readDouble hserved lib (hm hrequest))
  · intro read hread
    split at hread
    · rename_i hmapped
      cases hread
      have hrequest := state_mem_mappedTags hmapped
      exact ReadStep.readKeeps_self (fun _ => uses_readBoolean hserved lib (hm hrequest))
    · cases hread
  · intro read hread
    split at hread
    · rename_i hmapped
      cases hread
      have hrequest := fault_mem_mappedTags hmapped
      exact ReadStep.readKeeps_self (fun _ => uses_readBoolean hserved lib (hm hrequest))
    · cases hread

theorem uses_writeThrough (timeoutMs : Int) {write : EipSession -> Bool × EipSession}
    (hwrite : forall t, AllServed requests t -> Uses requests t (write t).2)
    {link : EtherNetIpLink} (hlink : LinkUses requests s link) :
    LinkUses requests s (writeThrough timeoutMs write link).2 := by
  have hready : Uses requests s (link.session.setTimeoutMs timeoutMs) :=
    Uses.setTimeoutMs hlink timeoutMs
  have hwritten := hready.trans (hwrite _ (hserved.uses hready))
  unfold writeThrough
  split
  · exact hlink
  · dsimp only
    split
    · exact hwritten
    · exact hwritten

theorem uses_writeDouble (lib : Libplctag) (timeoutMs : Int) {request : TagRequest}
    (hrequest : request ∈ requests) (value : Double) {link : EtherNetIpLink}
    (hlink : LinkUses requests s link) :
    LinkUses requests s
      (writeDouble lib timeoutMs request.1 request.2.2 value link).2 := by
  apply uses_writeThrough hserved timeoutMs _ hlink
  intro t ht
  cases request.2.2 with
  | bool => exact uses_writeTag lib _ _ _ hrequest ht
  | dint => exact uses_writeTag lib _ _ _ hrequest ht
  | real => exact uses_writeTag lib _ _ _ hrequest ht

theorem uses_writeBoolean (lib : Libplctag) (timeoutMs : Int) {request : TagRequest}
    (hrequest : request ∈ requests) (value : Bool) {link : EtherNetIpLink}
    (hlink : LinkUses requests s link) :
    LinkUses requests s
      (writeBoolean lib timeoutMs request.1 request.2.2 value link).2 := by
  apply uses_writeThrough hserved timeoutMs _ hlink
  intro t ht
  cases request.2.2 with
  | bool => exact uses_writeTag lib _ _ _ hrequest ht
  | dint => exact uses_writeTag lib _ _ _ hrequest ht
  | real => exact uses_writeTag lib _ _ _ hrequest ht

theorem uses_runCommand (lib : Libplctag) (timeoutMs : Int) (command : String)
    (parameter : Double) {m : EtherNetIpEquipmentMapping} (hm : mappedTags m ⊆ requests)
    {link : EtherNetIpLink} (hlink : LinkUses requests s link) :
    LinkUses requests s (runCommand lib timeoutMs command parameter m link).2 := by
  unfold runCommand Link.execute runMapped
  cases link.connectionState with
  | disconnected => exact hlink
  | faulted => exact hlink
  | connected =>
      cases hfind : m.commands.zipIdx.find? (fun entry => entry.1.command = command) with
      | none => exact hlink
      | some mapped =>
          have hrequest := command_mem_mappedTags (List.mem_of_find?_eq_some hfind)
          dsimp only
          rw [Link.written_snd]
          split
          · exact uses_writeDouble hserved lib timeoutMs (hm hrequest) parameter hlink
          · split
            · exact uses_writeBoolean hserved lib timeoutMs (hm hrequest) true hlink
            · exact uses_writeDouble hserved lib timeoutMs (hm hrequest) Double.one hlink

end

/-!
# Polls
-/

/-- A poll of machines that all have their tags reads these tags only. -/
theorem uses_poll (lib : Libplctag) {requests : List TagRequest}
    {a : EtherNetIpIndustrialAdapter} (hserved : AllServed requests a.link.session)
    (hbound : forall b, b ∈ a.bound -> mappedTags b.mapping ⊆ requests) :
    Uses requests a.link.session (poll lib a).link.session := by
  apply ProtocolAdapter.session_pollWith
  case hready => exact fun s hs => hs.setTimeoutMs _
  case hplan =>
    intro b hb
    exact ReadPlan.keeps_fixed (uses_refreshSteps hserved lib (hbound b hb))
  case hfail => exact fun _ => rfl
  case h => exact Uses.refl requests a.link.session

end EtherNetIpIndustrialAdapter

end VirtualFactory
