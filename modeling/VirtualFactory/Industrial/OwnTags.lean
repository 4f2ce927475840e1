import VirtualFactory.Industrial.TagAccesses
import VirtualFactory.Industrial.TagKeys

/-!
# Entries and their own tags

While the adapter is connected, the session holds under the key of every mapped entry a
tag that the library has made from the name of that entry.
-/

namespace VirtualFactory

open Foundation IndustrialAdapter

namespace EtherNetIpIndustrialAdapter

/-- The tag of an entry: the library has made it from the name of the entry, and it has
not been destroyed since. -/
def OwnTag (lib : Libplctag) (request : TagRequest) (s : EipSession) : Prop :=
  exists tag timeoutMs later earlier, Serves request s tag ∧
    s.calls = later ++ .create (s.buildAttrib request.2.1) timeoutMs :: earlier ∧
    lib.create (.create (s.buildAttrib request.2.1) timeoutMs :: earlier) = tag.id ∧
    forall ids, .destroy ids ∈ later -> tag.id ∉ ids

theorem OwnTag.served {lib : Libplctag} {request : TagRequest} {s : EipSession}
    (h : OwnTag lib request s) : exists tag, Serves request s tag := by
  rcases h with ⟨tag, _, _, _, hserves, _⟩
  exact ⟨tag, hserves⟩

theorem OwnTag.uses {lib : Libplctag} {request : TagRequest} {requests : List TagRequest}
    {s t : EipSession} (h : OwnTag lib request s) (huses : Uses requests s t) :
    OwnTag lib request t := by
  rcases h with ⟨tag, timeoutMs, later, earlier, hserves, hcalls, hid, hkept⟩
  rcases huses.calls with ⟨used, hused, haccess⟩
  refine ⟨tag, timeoutMs, used ++ later, earlier, ?_, ?_, ?_, ?_⟩
  · exact ⟨by rw [huses.same.tags]; exact hserves.left, hserves.right⟩
  · rw [hused, hcalls, huses.attrib, List.append_assoc]
  · rw [huses.attrib]
    exact hid
  · intro ids hids
    rcases List.mem_append.mp hids with hids | hids
    · -- a use destroys nothing
      rcases haccess _ hids with ⟨_, _, _, _, hfalse⟩
      exact hfalse.elim
    · exact hkept ids hids

/-!
# Creating the tags
-/

theorem ownTag_createTagOf {lib : Libplctag} {request : TagRequest} {s : EipSession}
    (h : (createTagOf lib request s).1 = true) :
    OwnTag lib request (createTagOf lib request s).2 := by
  rcases createTagOf_of_true h with ⟨_, hid, hsession⟩
  rw [hsession]
  refine ⟨⟨createdId lib s request.2.1, toSessionType request.2.2⟩, s.timeoutMs,
    [.status (createdId lib s request.2.1)], s.calls,
    ⟨OrderedMap.find?_insert_self _ _ _, rfl, hid⟩, rfl, rfl, ?_⟩
  intro ids hids
  cases List.mem_singleton.mp hids

theorem OwnTag.createTagOf {lib : Libplctag} {request later : TagRequest} {s : EipSession}
    (hlater : (createTagOf lib later s).1 = true) (h : OwnTag lib request s) :
    OwnTag lib request (createTagOf lib later s).2 := by
  rcases createTagOf_of_true hlater with ⟨hfree, _, hsession⟩
  rcases h with ⟨tag, timeoutMs, after, earlier, ⟨hfind, htype⟩, hcalls, hid, hkept⟩
  rw [hsession]
  refine ⟨tag, timeoutMs,
    .status (createdId lib s later.2.1) :: createCall s later.2.1 :: after, earlier,
    ⟨find?_withTag_of_some hfree hfind, htype⟩, ?_, hid, ?_⟩
  · show _ :: _ :: s.calls = _
    rw [hcalls]
    rfl
  · intro ids hids
    rcases List.mem_cons.mp hids with hids | hids
    · cases hids
    · rcases List.mem_cons.mp hids with hids | hids
      · cases hids
      · exact hkept ids hids

theorem ownTags_createMappedTags (lib : Libplctag) (cfg : EtherNetIpAdapterConfig)
    {s : EipSession} (h : (createMappedTags lib cfg s).1 = true) :
    forall request, request ∈ cfg.equipment.flatMap mappedTags ->
      OwnTag lib request (createMappedTags lib cfg s).2 := by
  intro request hrequest
  apply untilFailure_done _ _ _ h request (Or.inl hrequest)
  · intro request s hok
    exact ownTag_createTagOf hok
  · intro later request s hok hown
    exact hown.createTagOf hok

theorem nodup_of_created (lib : Libplctag) (requests : List TagRequest) {s : EipSession}
    (h : (untilFailure (createTagOf lib) requests s).1 = true) :
    (requests.map Prod.fst).Nodup ∧
      forall request, request ∈ requests -> s.tags.find? request.1 = none := by
  induction requests generalizing s with
  | nil => exact ⟨List.nodup_nil, fun _ hmem => absurd hmem List.not_mem_nil⟩
  | cons request rest ih =>
      rcases hbody : createTagOf lib request s with ⟨ok, s'⟩
      cases ok with
      | false =>
          rw [untilFailure_cons_of_false hbody] at h
          cases h
      | true =>
          rcases createTagOf_of_true (congrArg Prod.fst hbody) with ⟨hfree, _, hsession⟩
          rw [hbody] at hsession
          have htags : s'.tags = s.tags.insert request.1 _ := congrArg EipSession.tags hsession
          rw [untilFailure_cons_of_true hbody] at h
          rcases ih h with ⟨hnodup, hrest⟩
          have hnew : forall other, other ∈ rest ->
              other.1 ≠ request.1 ∧ s.tags.find? other.1 = none := by
            intro other hother
            have hnone := hrest other hother
            rw [htags, OrderedMap.find?_insert] at hnone
            split at hnone
            · cases hnone
            · rename_i hne
              exact ⟨hne, hnone⟩
          constructor
          · refine List.nodup_cons.mpr ⟨?_, hnodup⟩
            intro hmem
            rcases List.mem_map.mp hmem with ⟨other, hother, heq⟩
            exact (hnew other hother).left heq
          · intro other hother
            rcases List.mem_cons.mp hother with rfl | hother
            · exact hfree
            · exact (hnew other hother).right

/-!
# Errors that are not reached
-/

/-- No tag has been unknown to the session, and a key has been found taken only if two
machines share an identifier. -/
structure KeysApart (cfg : EtherNetIpAdapterConfig) (s : EipSession) : Prop where
  known : s.lastError ≠ unknownTag
  shared : s.lastError = duplicateKey ->
    ¬ (cfg.equipment.map EtherNetIpEquipmentMapping.id).Nodup

theorem keysApart_of_ne {cfg : EtherNetIpAdapterConfig} {s : EipSession}
    (h : s.lastError ≠ unknownTag ∧ s.lastError ≠ duplicateKey) : KeysApart cfg s :=
  ⟨h.left, fun hshared => absurd hshared h.right⟩

theorem KeysApart.of_error {cfg : EtherNetIpAdapterConfig} {s t : EipSession}
    (h : KeysApart cfg s) (herror : t.lastError = s.lastError) : KeysApart cfg t := by
  constructor
  · rw [herror]
    exact h.known
  · rw [herror]
    exact h.shared

theorem KeysApart.uses {cfg : EtherNetIpAdapterConfig} {requests : List TagRequest}
    {s t : EipSession} (h : KeysApart cfg s) (huses : Uses requests s t) :
    KeysApart cfg t := by
  rcases huses.error with hsame | hother
  · exact h.of_error hsame
  · exact keysApart_of_ne hother

/-- A tag is found taken only if its key is in the table. -/
theorem lastError_createTagOf (lib : Libplctag) (request : TagRequest) (s : EipSession) :
    (createTagOf lib request s).2.lastError ≠ unknownTag ∧
      ((createTagOf lib request s).2.lastError = duplicateKey ->
        (s.tags.find? request.1).isSome) := by
  have hother : forall {error : String}, error ≠ unknownTag ∧ error ≠ duplicateKey ->
      error ≠ unknownTag ∧ (error = duplicateKey -> (s.tags.find? request.1).isSome) :=
    fun h => ⟨h.left, fun heq => absurd heq h.right⟩
  have hout := createTag_outcome lib request.1 request.2.1 (toSessionType request.2.2) s
  unfold createTagOf
  generalize s.createTag lib request.1 request.2.1 (toSessionType request.2.2) = r at hout ⊢
  cases hout with
  | refused hmessage =>
      have hmessages : forall message,
          message ∈ ["EtherNet/IP session is closed", "empty tag key or name"] ->
            message ≠ unknownTag ∧ message ≠ duplicateKey := by decide
      exact hother (hmessages _ hmessage)
  | duplicate htaken => exact ⟨show duplicateKey ≠ unknownTag by decide, fun _ => htaken⟩
  | failed _ => exact hother (tagError_ne rfl _)
  | rejected _ => exact hother (tagError_ne rfl _)
  | created _ _ => exact hother (show "" ≠ unknownTag ∧ "" ≠ duplicateKey by decide)

theorem lastError_of_nodup {lib : Libplctag} {requests : List TagRequest}
    (hnodup : (requests.map Prod.fst).Nodup) {s : EipSession}
    (hfree : forall request, request ∈ requests -> s.tags.find? request.1 = none)
    (h : s.lastError ≠ duplicateKey) :
    (untilFailure (createTagOf lib) requests s).2.lastError ≠ duplicateKey := by
  induction requests generalizing s with
  | nil => exact h
  | cons request rest ih =>
      have hafter : (createTagOf lib request s).2.lastError ≠ duplicateKey := by
        intro heq
        have htaken := (lastError_createTagOf lib request s).right heq
        rw [hfree request List.mem_cons_self] at htaken
        cases htaken
      rcases hbody : createTagOf lib request s with ⟨ok, s'⟩
      rw [hbody] at hafter
      cases ok with
      | false =>
          rw [untilFailure_cons_of_false hbody]
          exact hafter
      | true =>
          have hsession := (createTagOf_of_true (congrArg Prod.fst hbody)).right.right
          rw [hbody] at hsession
          have htags : s'.tags = s.tags.insert request.1 _ := congrArg EipSession.tags hsession
          rw [untilFailure_cons_of_true hbody]
          rcases List.nodup_cons.mp hnodup with ⟨hhead, hrest⟩
          apply ih hrest _ hafter
          intro other hother
          have hne : other.1 ≠ request.1 := by
            intro heq
            apply hhead
            rw [← heq]
            exact List.mem_map_of_mem hother
          rw [htags, OrderedMap.find?_insert_of_ne _ _ hne]
          exact hfree other (List.mem_cons_of_mem _ hother)

theorem keysApart_createMappedTags (lib : Libplctag) {cfg : EtherNetIpAdapterConfig}
    {s : EipSession} (hempty : s.tags = OrderedMap.empty) (h : KeysApart cfg s) :
    KeysApart cfg (createMappedTags lib cfg s).2 := by
  have hknown : forall request t, t.lastError ≠ unknownTag ->
      (createTagOf lib request t).2.lastError ≠ unknownTag :=
    fun request t _ => (lastError_createTagOf lib request t).left
  unfold createMappedTags
  constructor
  · exact untilFailure_invariant hknown _ h.known
  · intro hshared hids
    apply lastError_of_nodup (nodup_keys hids) _ _ hshared
    · intro request _
      show s.tags.find? request.1 = none
      rw [hempty]
      rfl
    · intro heq
      exact h.shared heq hids

theorem lastError_close (s : EipSession) : s.close.lastError = s.lastError := by
  unfold EipSession.close EipSession.destroyAllTags
  split
  · rfl
  · rfl

theorem keysApart_openWith (cfg : EtherNetIpAdapterConfig) (sessionCfg : EipSessionConfig)
    (s : EipSession) : KeysApart cfg (s.openWith sessionCfg).2 := by
  unfold EipSession.openWith
  split
  · apply keysApart_of_ne
    show "missing EtherNet/IP host, port, or plc type" ≠ unknownTag ∧
      "missing EtherNet/IP host, port, or plc type" ≠ duplicateKey
    decide
  · apply keysApart_of_ne
    show "" ≠ unknownTag ∧ "" ≠ duplicateKey
    decide

/-!
# Runs
-/

def entries (cfg : EtherNetIpAdapterConfig) : List TagRequest :=
  cfg.equipment.flatMap mappedTags

/-- A connected adapter has bound the machines with the entries, and every entry has its
own tag. -/
structure Tagged (lib : Libplctag) (a : EtherNetIpIndustrialAdapter) : Prop where
  bound : a.bound.map BoundEquipment.mapping = a.config.equipment
  own : forall request, request ∈ entries a.config -> OwnTag lib request a.link.session
  distinct : ((entries a.config).map Prod.fst).Nodup

theorem Tagged.served {lib : Libplctag} {a : EtherNetIpIndustrialAdapter}
    (h : Tagged lib a) : AllServed (entries a.config) a.link.session :=
  fun request hrequest => (h.own request hrequest).served

theorem Tagged.mappedTags_subset {lib : Libplctag} {a : EtherNetIpIndustrialAdapter}
    (h : Tagged lib a) {b : BoundEquipment EtherNetIpEquipmentMapping} (hb : b ∈ a.bound) :
    mappedTags b.mapping ⊆ entries a.config := by
  intro request hrequest
  have hmapping : b.mapping ∈ a.config.equipment := by
    rw [← h.bound]
    exact List.mem_map_of_mem hb
  exact List.mem_flatMap.mpr ⟨b.mapping, hmapping, hrequest⟩

theorem Tagged.uses_poll {lib : Libplctag} {a : EtherNetIpIndustrialAdapter}
    (h : Tagged lib a) :
    Uses (entries a.config) a.link.session (poll lib a).link.session :=
  EtherNetIpIndustrialAdapter.uses_poll lib h.served (fun _ hb => h.mappedTags_subset hb)

theorem Tagged.uses_execute {lib : Libplctag} {a : EtherNetIpIndustrialAdapter}
    (h : Tagged lib a) {equipmentId command : String} {parameter : Double}
    {result : CommandResult × EtherNetIpIndustrialAdapter}
    (hresult : execute lib a equipmentId command parameter = some result) :
    Uses (entries a.config) a.link.session result.2.link.session := by
  unfold execute ProtocolAdapter.executeWith at hresult
  rcases Option.map_eq_some_iff.mp hresult with ⟨b, hb, rfl⟩
  have hexposed : b ∈ a.exposedBound := List.mem_of_find?_eq_some hb
  have hbound : b ∈ a.bound := by
    unfold ProtocolAdapter.exposedBound at hexposed
    split at hexposed
    · cases hexposed
    · exact hexposed
  exact uses_runCommand h.served lib _ command parameter (h.mappedTags_subset hbound)
    (Uses.refl _ _)

/-- A connected adapter is tagged, and its session has never mixed up keys. -/
structure Orderly (lib : Libplctag) (a : EtherNetIpIndustrialAdapter) : Prop where
  tagged : a.link.connectionState = .connected -> Tagged lib a
  keysApart : KeysApart a.config a.link.session

theorem Orderly.enterFault {lib : Libplctag} {a : EtherNetIpIndustrialAdapter}
    (h : KeysApart a.config a.link.session) (reason : String) :
    Orderly lib (a.enterFault reason) :=
  ⟨fun hstate => ConnectionState.noConfusion hstate, h⟩

theorem orderly_connect {lib : Libplctag} {a : EtherNetIpIndustrialAdapter}
    (h : Orderly lib a) : Orderly lib (connect lib a).2 := by
  have hopened := keysApart_openWith a.config (sessionConfig a.config)
    a.link.session.close
  have hout := connect_outcome lib a
  generalize connect lib a = r at hout ⊢
  cases hout with
  | unchanged hstate => exact h
  | refused reason _ => exact Orderly.enterFault h.keysApart _
  | @closed s reason _ hopen =>
      rw [hopen] at hopened
      exact Orderly.enterFault (a := a.withSession s) hopened _
  | @incomplete s t reason _ hopen htags =>
      rw [hopen] at hopened
      have hcreated := keysApart_createMappedTags lib (openWith_opens hopen).right hopened
      rw [htags] at hcreated
      exact Orderly.enterFault (a := a.withSession t.close)
        (hcreated.of_error (lastError_close t)) _
  | @opened s t hopen htags =>
      rw [hopen] at hopened
      have hok : (createMappedTags lib a.config s).1 = true := congrArg Prod.fst htags
      have hcreated := keysApart_createMappedTags lib (openWith_opens hopen).right hopened
      have hown := ownTags_createMappedTags lib a.config hok
      have hdistinct := nodup_of_created lib (entries a.config)
        (s := s.setTimeoutMs (EipSession.atLeastOne a.config.timeoutMs)) hok
      rw [htags] at hcreated hown
      refine ⟨fun _ => ⟨?_, hown, hdistinct.left⟩, hcreated⟩
      show (a.config.equipment.map BoundEquipment.bind).map _ = _
      rw [List.map_map]
      exact List.map_id _

theorem orderly_disconnect {lib : Libplctag} {a : EtherNetIpIndustrialAdapter}
    (h : Orderly lib a) : Orderly lib (disconnect a) :=
  ⟨fun hstate => ConnectionState.noConfusion hstate,
    h.keysApart.of_error (lastError_close a.link.session)⟩

theorem orderly_poll {lib : Libplctag} {a : EtherNetIpIndustrialAdapter}
    (h : Orderly lib a) : Orderly lib (poll lib a) := by
  by_cases hstate : a.link.connectionState = .connected
  · have htagged := h.tagged hstate
    have huses := htagged.uses_poll
    have hconfig : (poll lib a).config = a.config :=
      (ProtocolAdapter.poll_of_connected lib hstate).2.1
    constructor
    · intro _
      constructor
      · rw [hconfig, ← htagged.bound]
        exact ProtocolAdapter.bound_poll lib hstate
      · rw [hconfig]
        exact fun request hrequest => (htagged.own request hrequest).uses huses
      · rw [hconfig]
        exact htagged.distinct
    · rw [hconfig]
      exact h.keysApart.uses huses
  · unfold poll ProtocolAdapter.pollWith
    rw [if_pos hstate]
    split
    · exact ⟨fun hconnected => absurd hconnected hstate, h.keysApart⟩
    · exact h

theorem execute_link {lib : Libplctag} {a : EtherNetIpIndustrialAdapter}
    {equipmentId command : String} {parameter : Double}
    {result : CommandResult × EtherNetIpIndustrialAdapter}
    (h : execute lib a equipmentId command parameter = some result) :
    exists link, result.2 = { a with link := link } ∧
      (a.link.connectionState ≠ .connected -> link = a.link) := by
  unfold execute ProtocolAdapter.executeWith at h
  rcases Option.map_eq_some_iff.mp h with ⟨b, _, rfl⟩
  exact ⟨_, rfl, fun hstate => (runMapped_of_not_connected hstate _ _ _).right⟩

theorem orderly_execute {lib : Libplctag} {a : EtherNetIpIndustrialAdapter}
    (h : Orderly lib a) {equipmentId command : String} {parameter : Double}
    {result : CommandResult × EtherNetIpIndustrialAdapter}
    (hresult : execute lib a equipmentId command parameter = some result) :
    Orderly lib result.2 := by
  rcases execute_link hresult with ⟨link, hafter, hsame⟩
  by_cases hstate : a.link.connectionState = .connected
  · have htagged := h.tagged hstate
    have huses := htagged.uses_execute hresult
    rw [hafter] at huses ⊢
    exact ⟨fun _ => ⟨htagged.bound, fun request hrequest =>
      (htagged.own request hrequest).uses huses, htagged.distinct⟩, h.keysApart.uses huses⟩
  · rw [hafter, hsame hstate]
    exact h

theorem Driven.orderly {lib : Libplctag} {a : EtherNetIpIndustrialAdapter}
    (h : Driven lib a) : Orderly lib a := by
  refine Driven.invariant (Orderly lib) ?hnew ?hconnect ?hdisconnect ?hpoll ?hexecute h
  case hnew =>
    intro id config
    constructor
    · intro hstate
      cases hstate
    · apply keysApart_of_ne
      show "" ≠ unknownTag ∧ "" ≠ duplicateKey
      decide
  case hconnect => exact fun _ _ ha => orderly_connect ha
  case hdisconnect => exact fun _ _ ha => orderly_disconnect ha
  case hpoll => exact fun _ _ ha => orderly_poll ha
  case hexecute => exact fun _ _ _ _ _ _ ha hresult => orderly_execute ha hresult

/-!
# The tags that are reached
-/

/-- The reads and writes of an entry call the library for its own tag, by the functions
for its type. -/
structure Reaches (lib : Libplctag) (request : TagRequest) (link : EtherNetIpLink) :
    Prop where
  readDouble : LinkUses [request] link.session (readDouble lib request.1 request.2.2 link).2
  readBoolean : LinkUses [request] link.session (readBoolean lib request.1 request.2.2 link).2
  writeDouble : forall timeoutMs value, LinkUses [request] link.session
    (writeDouble lib timeoutMs request.1 request.2.2 value link).2
  writeBoolean : forall timeoutMs value, LinkUses [request] link.session
    (writeBoolean lib timeoutMs request.1 request.2.2 value link).2

theorem reaches_of_serves (lib : Libplctag) {request : TagRequest} {link : EtherNetIpLink}
    (h : exists tag, Serves request link.session tag) : Reaches lib request link := by
  have hserved : AllServed [request] link.session := by
    intro other hother
    rw [List.mem_singleton.mp hother]
    exact h
  have hrequest : request ∈ [request] := List.mem_cons_self
  have hrefl : LinkUses [request] link.session link := Uses.refl _ _
  exact {
    readDouble := uses_readDouble hserved lib hrequest hrefl
    readBoolean := uses_readBoolean hserved lib hrequest hrefl
    writeDouble := fun timeoutMs value =>
      uses_writeDouble hserved lib timeoutMs hrequest value hrefl
    writeBoolean := fun timeoutMs value =>
      uses_writeBoolean hserved lib timeoutMs hrequest value hrefl }

/-- The entries of the machines have tags of their own, under keys of their own.  A poll
reads the entries in their order, up to a read that fails, and a command writes its own
entry: each by accessing the tag under its key by the functions for its type, and without
another call to the library. -/
structure OwnTags (lib : Libplctag) (a : EtherNetIpIndustrialAdapter) : Prop where
  telemetry : forall m, m ∈ a.config.equipment -> forall index point,
    m.telemetry[index]? = some point ->
      OwnTag lib (tagKey m.id "tel" index, point.tag, point.valueType) a.link.session
  commands : forall m, m ∈ a.config.equipment -> forall index command,
    m.commands[index]? = some command ->
      OwnTag lib (tagKey m.id "cmd" index, command.tag, command.valueType) a.link.session
  state : forall m, m ∈ a.config.equipment -> m.state.mapped = true ->
    OwnTag lib (tagKey m.id "state" 0, m.state.tag, m.state.valueType) a.link.session
  fault : forall m, m ∈ a.config.equipment -> m.fault.mapped = true ->
    OwnTag lib (tagKey m.id "fault" 0, m.fault.tag, m.fault.valueType) a.link.session
  distinct : ((entries a.config).map Prod.fst).Nodup
  reaches : forall link : EtherNetIpLink,
    Uses (entries a.config) a.link.session link.session ->
      forall request, request ∈ entries a.config -> Reaches lib request link
  poll : Follows EipSession.accesses
    ((a.config.equipment.flatMap polledEntries).flatMap (readAccesses a.link.session.tags))
    (decide ((poll lib a).link.connectionState = .connected)) a.link.session
    (poll lib a).link.session
  pollUses : Uses (entries a.config) a.link.session
    (EtherNetIpIndustrialAdapter.poll lib a).link.session
  execute : forall equipmentId command parameter result,
    execute lib a equipmentId command parameter = some result ->
      exists m, a.config.equipment.find? (fun m => m.id = equipmentId) = some m ∧
        Follows EipSession.accesses
          ((commandedEntry command m).elim [] (writeAccesses a.link.session.tags))
          result.1.accepted a.link.session result.2.link.session
  executeUses : forall equipmentId command parameter result,
    EtherNetIpIndustrialAdapter.execute lib a equipmentId command parameter = some result ->
      Uses (entries a.config) a.link.session result.2.link.session

theorem Tagged.poll_accesses {lib : Libplctag} {a : EtherNetIpIndustrialAdapter}
    (h : Tagged lib a) (hstate : a.link.connectionState = .connected) :
    Follows EipSession.accesses
      ((a.config.equipment.flatMap polledEntries).flatMap
        (readAccesses a.link.session.tags))
      (decide ((poll lib a).link.connectionState = .connected)) a.link.session
      (poll lib a).link.session := by
  have hpoll := EtherNetIpIndustrialAdapter.poll_accesses lib hstate h.served
    (fun _ hb => h.mappedTags_subset hb)
  rw [← h.bound, List.flatMap_map]
  exact hpoll

theorem Tagged.execute_accesses {lib : Libplctag} {a : EtherNetIpIndustrialAdapter}
    (h : Tagged lib a) (hstate : a.link.connectionState = .connected)
    {equipmentId command : String} {parameter : Double}
    {result : CommandResult × EtherNetIpIndustrialAdapter}
    (hresult : EtherNetIpIndustrialAdapter.execute lib a equipmentId command parameter =
      some result) :
    exists m, a.config.equipment.find? (fun m => m.id = equipmentId) = some m ∧
      Follows EipSession.accesses
        ((commandedEntry command m).elim [] (writeAccesses a.link.session.tags))
        result.1.accepted a.link.session result.2.link.session := by
  unfold EtherNetIpIndustrialAdapter.execute ProtocolAdapter.executeWith at hresult
  rcases Option.map_eq_some_iff.mp hresult with ⟨b, hb, rfl⟩
  have hexposed : a.exposedBound = a.bound := by
    apply if_neg
    rw [hstate]
    exact ConnectionState.noConfusion
  unfold ProtocolAdapter.boundById at hb
  rw [hexposed] at hb
  refine ⟨b.mapping, ?_, ?_⟩
  · have hsame : (fun b : BoundEquipment EtherNetIpEquipmentMapping =>
        decide (b.inner.id = equipmentId)) =
          (fun m : EtherNetIpEquipmentMapping => decide (m.id = equipmentId)) ∘
            BoundEquipment.mapping := by
      funext c
      rw [c.identity]
      rfl
    rw [← h.bound, List.find?_map, ← hsame, hb]
    rfl
  · exact runCommand_accesses lib _ command parameter
      (h.mappedTags_subset (List.mem_of_find?_eq_some hb)) h.served

theorem Tagged.ownTags {lib : Libplctag} {a : EtherNetIpIndustrialAdapter}
    (h : Tagged lib a) (hstate : a.link.connectionState = .connected) : OwnTags lib a := by
  have hown : forall m, m ∈ a.config.equipment -> forall {request : TagRequest},
      request ∈ mappedTags m -> OwnTag lib request a.link.session :=
    fun m hm request hrequest => h.own request (List.mem_flatMap.mpr ⟨m, hm, hrequest⟩)
  constructor
  case telemetry =>
    intro m hm index point hpoint
    have hentry : (point, index) ∈ m.telemetry.zipIdx := List.mem_zipIdx_iff_getElem?.mpr hpoint
    exact hown m hm (telemetry_mem_mappedTags hentry)
  case commands =>
    intro m hm index command hcommand
    have hentry : (command, index) ∈ m.commands.zipIdx :=
      List.mem_zipIdx_iff_getElem?.mpr hcommand
    exact hown m hm (command_mem_mappedTags hentry)
  case state => exact fun m hm hmapped => hown m hm (state_mem_mappedTags hmapped)
  case fault => exact fun m hm hmapped => hown m hm (fault_mem_mappedTags hmapped)
  case distinct => exact h.distinct
  case reaches =>
    intro link huses request hrequest
    exact reaches_of_serves lib ((h.own request hrequest).uses huses).served
  case poll => exact h.poll_accesses hstate
  case pollUses => exact h.uses_poll
  case execute => exact fun _ _ _ _ hresult => h.execute_accesses hstate hresult
  case executeUses => exact fun _ _ _ _ hresult => h.uses_execute hresult

/-- While the adapter is connected, every entry has its own tag, of its own type; no tag
is unknown when it is used, and a key is taken only if two machines share an
identifier. -/
theorem entries_own_tags {lib : Libplctag} {a : EtherNetIpIndustrialAdapter}
    (h : Driven lib a) :
    (a.link.connectionState = .connected -> OwnTags lib a) ∧
      a.link.session.lastError ≠ unknownTag ∧
      (a.link.session.lastError = duplicateKey ->
        ¬ (a.config.equipment.map EtherNetIpEquipmentMapping.id).Nodup) :=
  ⟨fun hstate => (h.orderly.tagged hstate).ownTags hstate, h.orderly.keysApart.known,
    h.orderly.keysApart.shared⟩

/-- A library that makes every tag and answers every read. -/
def obligingLibrary : Libplctag where
  create calls := calls.length
  status _ := plctagStatusOk
  uint8 _ := 1
  int32 _ := 0
  float32 _ := Single.ofInt 0
  decodeError _ := ""

def kiln : EtherNetIpEquipmentMapping where
  id := "kiln"
  type := "Machine"
  commands := [⟨"start", "Start", .bool⟩]
  telemetry := [⟨"heat", "Heat", .real, "C"⟩]

/-- A machine whose identifier looks like a key of another one. -/
def kilnDoor : EtherNetIpEquipmentMapping where
  id := "kiln|tel|0"
  type := "Machine"
  telemetry := [⟨"count", "Count", .dint, ""⟩]
  state := ⟨"Running", .bool, true⟩

def kilnAdapter : EtherNetIpIndustrialAdapter :=
  new "plc" { equipment := [kiln, kilnDoor] }

def kilnLine : EtherNetIpIndustrialAdapter :=
  poll obligingLibrary (connect obligingLibrary kilnAdapter).2

theorem driven_kilnLine : Driven obligingLibrary kilnLine := by
  have hnew : Driven obligingLibrary kilnAdapter := Driven.created _ _
  have hconnected : Driven obligingLibrary (connect obligingLibrary kilnAdapter).2 :=
    Driven.operated .connect {} hnew
  exact Driven.operated .poll {} hconnected

theorem entries_own_tags_kilnLine :
    OwnTags obligingLibrary kilnLine ∧ kilnLine.link.session.lastError ≠ unknownTag :=
  ⟨(entries_own_tags driven_kilnLine).left rfl, (entries_own_tags driven_kilnLine).right.left⟩

end EtherNetIpIndustrialAdapter

end VirtualFactory
