import VirtualFactory.Foundation.Ledger
import VirtualFactory.Industrial.OwnTags

/-!
# Handles of tags

The calls of a session as a ledger of handles.  The library gives a handle to every tag
that it makes, and takes it back when the tag is destroyed.
-/

namespace VirtualFactory

open Foundation IndustrialAdapter

namespace EtherNetIpIndustrialAdapter

/-- What a call does with handles, after the calls before it. -/
def handleEvent (lib : Libplctag) (c : PlcCall) (earlier : List PlcCall) : HandleEvent Int :=
  match c with
  | .create _ _ =>
      if lib.create (c :: earlier) < 0 then .idle
      else .acquire (lib.create (c :: earlier))
  | .destroy ids => .release ids
  | .status id => .use id
  | .read id _ => .use id
  | .getUint8 id => .use id
  | .getInt32 id => .use id
  | .getFloat32 id => .use id
  | .setUint8 id _ => .use id
  | .setInt32 id _ => .use id
  | .setFloat32 id _ => .use id
  | .write id _ => .use id

def handles (lib : Libplctag) : List PlcCall -> Ledger Int
  | [] => []
  | c :: earlier => handleEvent lib c earlier :: handles lib earlier

/-- `plc_tag_create` answers with an error or with a handle that is not in use. -/
def Fresh (lib : Libplctag) : Prop :=
  forall attrib timeoutMs earlier,
    lib.create (.create attrib timeoutMs :: earlier) < 0 ∨
      lib.create (.create attrib timeoutMs :: earlier) ∉ Ledger.live (handles lib earlier)

/-- The handles in the table of a session. -/
def tableHandles (s : EipSession) : List Int :=
  s.tags.entries.map (fun e => e.2.id)

/-- The ledger of a session is sound, and the handles in use are those in its table. -/
structure Accounted (lib : Libplctag) (s : EipSession) : Prop where
  sound : Ledger.Sound (handles lib s.calls)
  live : (Ledger.live (handles lib s.calls)).Perm (tableHandles s)
  valid : forall id, id ∈ tableHandles s -> 0 ≤ id

theorem Accounted.nodup {lib : Libplctag} {s : EipSession} (h : Accounted lib s) :
    (tableHandles s).Nodup :=
  h.live.nodup_iff.mp h.sound.nodup_live

theorem Accounted.keeps {lib : Libplctag} {s t : EipSession} (h : Accounted lib s)
    (htags : t.tags = s.tags) (hsound : Ledger.Sound (handles lib t.calls))
    (hlive : Ledger.live (handles lib t.calls) = Ledger.live (handles lib s.calls)) :
    Accounted lib t := by
  have htable : tableHandles t = tableHandles s := by
    unfold tableHandles
    rw [htags]
  constructor
  · exact hsound
  · rw [hlive, htable]
    exact h.live
  · rw [htable]
    exact h.valid

theorem Accounted.of_same {lib : Libplctag} {s t : EipSession} (h : Accounted lib s)
    (hcalls : t.calls = s.calls) (htags : t.tags = s.tags) : Accounted lib t := by
  apply h.keeps htags
  · rw [hcalls]
    exact h.sound
  · rw [hcalls]

/-!
# Creating and destroying tags
-/

theorem handles_createCall {lib : Libplctag} (hfresh : Fresh lib) {tagName : String}
    {s : EipSession} (h : 0 ≤ createdId lib s tagName) :
    handles lib (s.call (createCall s tagName)).calls =
        .acquire (createdId lib s tagName) :: handles lib s.calls ∧
      createdId lib s tagName ∉ Ledger.live (handles lib s.calls) := by
  constructor
  · show (if createdId lib s tagName < 0 then _ else _) :: _ = _
    rw [if_neg (Int.not_lt.mpr h)]
    rfl
  · rcases hfresh (s.buildAttrib tagName) s.timeoutMs s.calls with herror | hunused
    · exact absurd h (Int.not_le.mpr herror)
    · exact hunused

theorem accounted_createTagOf {lib : Libplctag} (hfresh : Fresh lib) (request : TagRequest)
    {s : EipSession} (h : Accounted lib s) :
    Accounted lib (createTagOf lib request s).2 := by
  have hout := createTag_outcome lib request.1 request.2.1 (toSessionType request.2.2) s
  unfold createTagOf
  generalize s.createTag lib request.1 request.2.1 (toSessionType request.2.2) = r at hout ⊢
  cases hout with
  | refused _ => exact h.of_same rfl rfl
  | duplicate _ => exact h.of_same rfl rfl
  | failed hfailed =>
      -- no handle has been given
      have hidle : handles lib (s.call (createCall s request.2.1)).calls =
          .idle :: handles lib s.calls := by
        show (if createdId lib s request.2.1 < 0 then _ else _) :: _ = _
        rw [if_pos hfailed]
      refine h.keeps rfl ?_ ?_
      · show Ledger.Sound (handles lib (s.call (createCall s request.2.1)).calls)
        rw [hidle]
        exact h.sound
      · show Ledger.live (handles lib (s.call (createCall s request.2.1)).calls) = _
        rw [hidle]
        rfl
  | rejected hid =>
      rcases handles_createCall hfresh hid with ⟨hacquire, hunused⟩
      have hcalls : handles lib (((s.call (createCall s request.2.1)).call
            (.status (createdId lib s request.2.1))).call
              (.destroy [createdId lib s request.2.1])).calls =
          .release [createdId lib s request.2.1] :: .use (createdId lib s request.2.1) ::
            .acquire (createdId lib s request.2.1) :: handles lib s.calls := by
        rw [← hacquire]
        rfl
      refine h.keeps rfl ?_ ?_
      · show Ledger.Sound (handles lib (((s.call _).call _).call _).calls)
        rw [hcalls]
        refine ⟨⟨List.nodup_singleton _, ?_⟩, List.mem_cons_self, hunused, h.sound⟩
        intro id hmem
        rw [List.mem_singleton.mp hmem]
        exact List.mem_cons_self
      · show Ledger.live (handles lib (((s.call _).call _).call _).calls) = _
        rw [hcalls, Ledger.live_release_acquire hunused]
  | created hfree hid =>
      rcases handles_createCall hfresh hid with ⟨hacquire, hunused⟩
      have hcalls : handles lib (withTag lib request.1 request.2.1
            (toSessionType request.2.2) s).calls =
          .use (createdId lib s request.2.1) :: .acquire (createdId lib s request.2.1) ::
            handles lib s.calls := by
        rw [← hacquire]
        rfl
      have hinsert := OrderedMap.perm_insert
        (TagEntry.mk (createdId lib s request.2.1) (toSessionType request.2.2)) hfree
      have htable : (tableHandles (withTag lib request.1 request.2.1
            (toSessionType request.2.2) s)).Perm
          (createdId lib s request.2.1 :: tableHandles s) := by
        have hmap := hinsert.map (fun e : String × TagEntry => e.2.id)
        rw [List.map_cons] at hmap
        exact hmap
      constructor
      · show Ledger.Sound (handles lib (withTag lib _ _ _ s).calls)
        rw [hcalls]
        exact ⟨List.mem_cons_self, hunused, h.sound⟩
      · show (Ledger.live (handles lib (withTag lib _ _ _ s).calls)).Perm _
        rw [hcalls]
        exact (h.live.cons _).trans htable.symm
      · intro id hmem
        rcases List.mem_cons.mp (htable.mem_iff.mp hmem) with rfl | hmem
        · exact hid
        · exact h.valid id hmem

theorem accounted_close {lib : Libplctag} {s : EipSession} (h : Accounted lib s) :
    Accounted lib s.close := by
  unfold EipSession.close EipSession.destroyAllTags
  split
  · exact h.of_same rfl rfl
  · have hall : (s.tags.entries.map (fun e => e.2.id)).filter (fun id => 0 ≤ id) =
        tableHandles s :=
      List.filter_eq_self.mpr (fun id hid => decide_eq_true (h.valid id hid))
    have hcalls : handles lib (s.call (.destroy
          ((s.tags.entries.map (fun e => e.2.id)).filter (fun id => 0 ≤ id)))).calls =
        .release (tableHandles s) :: handles lib s.calls := by
      rw [hall]
      rfl
    constructor
    · show Ledger.Sound (handles lib (s.call _).calls)
      rw [hcalls]
      exact ⟨⟨h.nodup, fun id hid => h.live.mem_iff.mpr hid⟩, h.sound⟩
    · show (Ledger.live (handles lib (s.call _).calls)).Perm []
      rw [hcalls, Ledger.live_release_all h.live]
    · intro id hid
      cases hid

theorem accounted_openWith {lib : Libplctag} (sessionCfg : EipSessionConfig) {s : EipSession}
    (h : Accounted lib s) : Accounted lib (s.openWith sessionCfg).2 := by
  have hclosed := accounted_close h
  unfold EipSession.openWith
  split
  · exact hclosed.of_same rfl rfl
  · exact hclosed.of_same rfl rfl

theorem accounted_createMappedTags {lib : Libplctag} (hfresh : Fresh lib)
    (cfg : EtherNetIpAdapterConfig) {s : EipSession} (h : Accounted lib s) :
    Accounted lib (createMappedTags lib cfg s).2 := by
  have hready : Accounted lib (s.setTimeoutMs (EipSession.atLeastOne cfg.timeoutMs)) :=
    h.of_same rfl rfl
  exact untilFailure_invariant
    (fun request _ ht => accounted_createTagOf hfresh request ht) _ hready

/-!
# Using tags
-/

theorem handleEvent_of_accesses (lib : Libplctag) {c : PlcCall} {id : Int}
    {valueType : EipTagValueType} (h : c.Accesses id valueType) (earlier : List PlcCall) :
    handleEvent lib c earlier = .use id := by
  cases c with
  | create _ _ => exact h.elim
  | status _ => exact h.elim
  | destroy _ => exact h.elim
  | read i _ => rw [show i = id from h]; rfl
  | write i _ => rw [show i = id from h]; rfl
  | getUint8 i => rw [show i = id from h.left]; rfl
  | getInt32 i => rw [show i = id from h.left]; rfl
  | getFloat32 i => rw [show i = id from h.left]; rfl
  | setUint8 i _ => rw [show i = id from h.left]; rfl
  | setInt32 i _ => rw [show i = id from h.left]; rfl
  | setFloat32 i _ => rw [show i = id from h.left]; rfl

theorem Serves.mem_tableHandles {request : TagRequest} {s : EipSession} {tag : TagEntry}
    (h : Serves request s tag) : tag.id ∈ tableHandles s :=
  List.mem_map.mpr ⟨(request.1, tag), (OrderedMap.mem_entries_iff _ _ _).mpr h.left, rfl⟩

/-- The calls of a use only use handles, and these are in the table. -/
theorem handles_of_accesses (lib : Libplctag) {requests : List TagRequest} {s : EipSession}
    {later : List PlcCall}
    (h : forall c, c ∈ later -> exists request tag, request ∈ requests ∧ Serves request s tag ∧
      c.Accesses tag.id (toSessionType request.2.2)) :
    exists events : Ledger Int,
      handles lib (later ++ s.calls) = events ++ handles lib s.calls ∧
        forall event, event ∈ events -> exists id, event = .use id ∧ id ∈ tableHandles s := by
  induction later with
  | nil => exact ⟨[], rfl, fun _ hevent => absurd hevent List.not_mem_nil⟩
  | cons c later ih =>
      rcases ih (fun d hd => h d (List.mem_cons_of_mem c hd)) with ⟨events, hhandles, huses⟩
      rcases h c List.mem_cons_self with ⟨request, tag, _, hserves, haccess⟩
      refine ⟨.use tag.id :: events, ?_, ?_⟩
      · rw [List.cons_append, handles, handleEvent_of_accesses lib haccess, hhandles,
          List.cons_append]
      · intro event hevent
        rcases List.mem_cons.mp hevent with rfl | hevent
        · exact ⟨tag.id, rfl, hserves.mem_tableHandles⟩
        · exact huses event hevent

theorem Accounted.uses {lib : Libplctag} {requests : List TagRequest} {s t : EipSession}
    (h : Accounted lib s) (huses : Uses requests s t) : Accounted lib t := by
  rcases huses.calls with ⟨later, hcalls, haccess⟩
  rcases handles_of_accesses lib haccess with ⟨events, hhandles, hevents⟩
  have hlive : forall event, event ∈ events ->
      exists id, event = .use id ∧ id ∈ Ledger.live (handles lib s.calls) := by
    intro event hevent
    rcases hevents event hevent with ⟨id, hid, hmem⟩
    exact ⟨id, hid, h.live.mem_iff.mpr hmem⟩
  rcases Ledger.live_append_uses hlive with ⟨hsame, hsound⟩
  apply h.keeps huses.same.tags
  · rw [hcalls, hhandles]
    exact hsound h.sound
  · rw [hcalls, hhandles, hsame]

/-!
# Runs
-/

theorem accounted_connect {lib : Libplctag} (hfresh : Fresh lib)
    {a : EtherNetIpIndustrialAdapter} (h : Accounted lib a.link.session) :
    Accounted lib (connect lib a).2.link.session := by
  have hopened := accounted_openWith (sessionConfig a.config) (accounted_close h)
  have hout := connect_outcome lib a
  generalize connect lib a = r at hout ⊢
  cases hout with
  | unchanged hstate => exact h
  | refused reason _ => exact h
  | closed reason _ hopen =>
      rw [hopen] at hopened
      exact hopened
  | incomplete reason _ hopen htags =>
      rw [hopen] at hopened
      have hcreated := accounted_createMappedTags hfresh a.config hopened
      rw [htags] at hcreated
      exact accounted_close hcreated
  | opened hopen htags =>
      rw [hopen] at hopened
      have hcreated := accounted_createMappedTags hfresh a.config hopened
      rw [htags] at hcreated
      exact hcreated

theorem accounted_poll {lib : Libplctag} {a : EtherNetIpIndustrialAdapter}
    (hrun : Driven lib a) (h : Accounted lib a.link.session) :
    Accounted lib (poll lib a).link.session := by
  by_cases hstate : a.link.connectionState = .connected
  · exact h.uses (hrun.orderly.tagged hstate).uses_poll
  · unfold poll ProtocolAdapter.pollWith
    rw [if_pos hstate]
    split
    · exact h
    · exact h

theorem accounted_execute {lib : Libplctag} {a : EtherNetIpIndustrialAdapter}
    (hrun : Driven lib a) (h : Accounted lib a.link.session) {equipmentId command : String}
    {parameter : Double} {result : CommandResult × EtherNetIpIndustrialAdapter}
    (hresult : execute lib a equipmentId command parameter = some result) :
    Accounted lib result.2.link.session := by
  by_cases hstate : a.link.connectionState = .connected
  · exact h.uses ((hrun.orderly.tagged hstate).uses_execute hresult)
  · rcases execute_link hresult with ⟨link, hafter, hsame⟩
    rw [hafter, hsame hstate]
    exact h

theorem Driven.accounted {lib : Libplctag} (hfresh : Fresh lib)
    {a : EtherNetIpIndustrialAdapter} (h : Driven lib a) : Accounted lib a.link.session := by
  refine Driven.invariant (fun b => Accounted lib b.link.session) ?hnew ?hconnect ?hdisconnect
    ?hpoll ?hexecute h
  case hnew =>
    intro id config
    exact ⟨trivial, List.Perm.refl _, fun _ hid => absurd hid List.not_mem_nil⟩
  case hconnect => exact fun _ _ ha => accounted_connect hfresh ha
  case hdisconnect => exact fun _ _ ha => accounted_close ha
  case hpoll => exact fun _ hrun ha => accounted_poll hrun ha
  case hexecute => exact fun _ _ _ _ _ hrun ha hresult => accounted_execute hrun ha hresult

def Emptied (a : EtherNetIpIndustrialAdapter) : Prop :=
  a.link.connectionState = .disconnected -> a.link.session.tags = OrderedMap.empty

theorem emptied_connect (lib : Libplctag) {a : EtherNetIpIndustrialAdapter}
    (h : Emptied a) : Emptied (connect lib a).2 := by
  by_cases hstate : a.link.connectionState = .connected
  · rw [show connect lib a = (true, a) from if_pos hstate]
    exact h
  · intro hafter
    rcases connect_cases lib a hstate with ⟨_, hopened⟩ | ⟨_, hrefused⟩
    · rw [hopened.up.connected] at hafter
      cases hafter
    · rw [hrefused.down.faulted] at hafter
      cases hafter

theorem emptied_poll (lib : Libplctag) {a : EtherNetIpIndustrialAdapter}
    (h : Emptied a) : Emptied (poll lib a) := by
  by_cases hstate : a.link.connectionState = .connected
  · exact fun hafter => absurd hafter (ProtocolAdapter.connectionState_poll lib hstate)
  · unfold poll ProtocolAdapter.pollWith
    rw [if_pos hstate]
    split
    · exact h
    · exact h

theorem emptied_execute {lib : Libplctag} {a : EtherNetIpIndustrialAdapter} (h : Emptied a)
    {equipmentId command : String} {parameter : Double}
    {result : CommandResult × EtherNetIpIndustrialAdapter}
    (hresult : execute lib a equipmentId command parameter = some result) :
    Emptied result.2 := by
  rcases ProtocolAdapter.execute_cases lib a equipmentId command parameter with
    ⟨_, hnone⟩ | ⟨b, _, hsome⟩
  · have hnothing := hresult.symm.trans hnone
    cases hnothing
  · cases hresult.symm.trans hsome
    intro hafter
    rcases runCommand_ends lasting_isOpen lib (operationTimeoutMs a.config) command parameter
        b.mapping a.link with hmoves | hdown
    · have hstate : a.link.connectionState = .disconnected := hmoves.sameState.symm.trans hafter
      have hnot : a.link.connectionState ≠ .connected := by
        rw [hstate]
        decide
      have hsame : (runCommand lib (operationTimeoutMs a.config) command parameter b.mapping
          a.link).2 = a.link := (runMapped_of_not_connected hnot _ _ _).right
      show (runCommand _ _ _ _ _ a.link).2.session.tags = _
      rw [hsame]
      exact h hstate
    · exact ConnectionState.noConfusion (hdown.faulted.symm.trans hafter)

theorem Driven.emptied {lib : Libplctag} {a : EtherNetIpIndustrialAdapter}
    (h : Driven lib a) : Emptied a := by
  refine Driven.invariant Emptied ?hnew ?hconnect ?hdisconnect ?hpoll ?hexecute h
  case hnew => exact fun _ _ _ => rfl
  case hconnect => exact fun _ _ ha => emptied_connect lib ha
  case hdisconnect => exact fun a _ _ _ => tags_close a.link.session
  case hpoll => exact fun _ _ ha => emptied_poll lib ha
  case hexecute => exact fun _ _ _ _ _ _ ha hresult => emptied_execute ha hresult

theorem Accounted.perm_released {lib : Libplctag} {s : EipSession} (h : Accounted lib s)
    (hempty : s.tags = OrderedMap.empty) :
    Ledger.live (handles lib s.calls) = [] ∧
      (Ledger.acquired (handles lib s.calls)).Perm (Ledger.released (handles lib s.calls)) := by
  have hnone : Ledger.live (handles lib s.calls) = [] := by
    have hlive := h.live
    unfold tableHandles at hlive
    rw [hempty] at hlive
    exact List.Perm.eq_nil hlive
  have hperm := h.sound.perm_acquired
  rw [hnone, List.append_nil] at hperm
  exact ⟨hnone, hperm⟩

/-- The session when the adapter has been destroyed: its destructor disconnects, and that
of the session closes once more. -/
def destroyed (a : EtherNetIpIndustrialAdapter) : EipSession :=
  (disconnect a).link.session.close

/-- After every call of the adapter the handles in use are those in the table, each under
one key; only handles in use have been used or given back; and all are given back when the
adapter has been disconnected or destroyed. -/
theorem handles_accounted {lib : Libplctag} (hfresh : Fresh lib)
    {a : EtherNetIpIndustrialAdapter} (h : Driven lib a) :
    Ledger.Sound (handles lib a.link.session.calls) ∧
      (Ledger.live (handles lib a.link.session.calls)).Perm (tableHandles a.link.session) ∧
      (tableHandles a.link.session).Nodup ∧
      (a.link.connectionState = .disconnected ->
        Ledger.live (handles lib a.link.session.calls) = [] ∧
          (Ledger.acquired (handles lib a.link.session.calls)).Perm
            (Ledger.released (handles lib a.link.session.calls))) ∧
      Ledger.Sound (handles lib (destroyed a).calls) ∧
      Ledger.live (handles lib (destroyed a).calls) = [] ∧
      (Ledger.acquired (handles lib (destroyed a).calls)).Perm
        (Ledger.released (handles lib (destroyed a).calls)) := by
  have haccounted := h.accounted hfresh
  have hdestroyed : Accounted lib (destroyed a) := accounted_close (accounted_close haccounted)
  rcases hdestroyed.perm_released (tags_close _) with ⟨hnone, hreleased⟩
  exact ⟨haccounted.sound, haccounted.live, haccounted.nodup,
    fun hstate => haccounted.perm_released (h.emptied hstate), hdestroyed.sound, hnone,
    hreleased⟩

theorem fresh_obligingLibrary : Fresh obligingLibrary := by
  have hbound : forall earlier id,
      id ∈ Ledger.live (handles obligingLibrary earlier) -> id ≤ earlier.length := by
    intro earlier
    induction earlier with
    | nil => exact fun _ hid => absurd hid List.not_mem_nil
    | cons c earlier ih =>
        have hlater : forall id, id ∈ Ledger.live (handles obligingLibrary earlier) ->
            id ≤ (c :: earlier).length := by
          intro id hid
          have hid := ih id hid
          rw [List.length_cons]
          omega
        intro id hid
        cases c with
        | create attrib timeoutMs =>
            have hvalid : ¬ obligingLibrary.create (.create attrib timeoutMs :: earlier) < 0 :=
              Int.not_lt.mpr (Int.natCast_nonneg _)
            rw [handles, handleEvent, if_neg hvalid] at hid
            rcases List.mem_cons.mp hid with rfl | hid
            · exact le_refl _
            · exact hlater id hid
        | destroy ids => exact hlater id (List.mem_filter.mp hid).left
        | status _ => exact hlater id hid
        | read _ _ => exact hlater id hid
        | getUint8 _ => exact hlater id hid
        | getInt32 _ => exact hlater id hid
        | getFloat32 _ => exact hlater id hid
        | setUint8 _ _ => exact hlater id hid
        | setInt32 _ _ => exact hlater id hid
        | setFloat32 _ _ => exact hlater id hid
        | write _ _ => exact hlater id hid
  intro attrib timeoutMs earlier
  apply Or.inr
  intro hlive
  have hle := hbound earlier _ hlive
  have hnew : obligingLibrary.create (.create attrib timeoutMs :: earlier) =
      earlier.length + 1 := rfl
  omega

theorem handles_accounted_kilnLine :
    Ledger.live (handles obligingLibrary kilnLine.link.session.calls) ≠ [] ∧
      Ledger.Sound (handles obligingLibrary kilnLine.link.session.calls) ∧
      Ledger.live (handles obligingLibrary (destroyed kilnLine).calls) = [] := by
  have haccounted := handles_accounted fresh_obligingLibrary driven_kilnLine
  exact ⟨by decide +kernel, haccounted.left, haccounted.right.right.right.right.right.left⟩

end EtherNetIpIndustrialAdapter

end VirtualFactory
