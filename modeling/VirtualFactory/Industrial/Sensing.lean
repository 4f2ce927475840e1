import VirtualFactory.Industrial.Exposure
import VirtualFactory.Industrial.Mqtt.Window
import VirtualFactory.Industrial.PollExactness

/-!
# What adapters read

The machines of an adapter show what its polls have read.  A connect may bind them anew,
and then they have shown nothing yet.
-/

namespace VirtualFactory

open Foundation IndustrialAdapter

def blankReading : Signal -> Option Reading
  | .telemetry _ => none
  | .state => some (.state false)
  | .fault => some (.fault false)

/-- A machine that shows nothing that was read. -/
def GenericEquipment.Blank (e : GenericEquipment) : Prop :=
  forall signal, e.shown signal = blankReading signal

theorem blank_freshEquipment {mapping : Type} [EquipmentMapping mapping] (m : mapping) :
    (freshEquipment m).Blank := by
  intro signal
  unfold freshEquipment
  rw [GenericEquipment.shown_bind]
  cases signal <;> rfl

namespace IndustrialAdapter

variable {adapter device stimulus : Type}
  [IndustrialAdapter adapter device stimulus]

/-- An adapter whose machines change by what its polls read for them, and which binds
them anew only by a connect.  The reads of a poll are listed by equipment identifier. -/
structure Sensing (obeys : adapter -> Prop)
    (machines : adapter -> List GenericEquipment)
    (reads : device -> adapter -> String -> List Reading)
    (renews : device -> adapter -> Bool) : Prop where
  stable : Stable obeys
  exposes : forall a, obeys a -> exposed a = (machines a).map GenericEquipment.view
  hidden : forall a, obeys a -> connectionState a = .disconnected -> machines a = []
  polls : forall d a ids, obeys a -> connectionState a = .connected ->
    (exposedIds a).Nodup ->
      machines (poll d a ids).1 =
        (machines a).map
          (fun e => (reads d a e.id).foldl GenericEquipment.applyReading e)
  known : forall d a id, obeys a -> connectionState a = .connected ->
    reads d a id ≠ [] -> id ∈ exposedIds a
  executes : forall d a equipmentId command parameter ids r, obeys a ->
    execute d a equipmentId command parameter ids = some r -> machines r.2.1 = machines a
  stimulates : forall s a, obeys a -> machines (stimulate s a) = machines a
  connects : forall d a ids, obeys a -> connectionState a ≠ .connected ->
    (renews d a = true ->
        forall e, e ∈ machines (connect d a ids).2.1 -> e.Blank) ∧
      (renews d a = false ->
        machines a = [] ∨ machines (connect d a ids).2.1 = machines a)
  sameIds : forall d a ids, obeys a -> connectionState a ≠ .connected ->
    machines a = [] ∨ exposedIds (connect d a ids).2.1 = exposedIds a

theorem Sensing.exposedIds_eq {obeys : adapter -> Prop}
    {machines : adapter -> List GenericEquipment}
    {reads : device -> adapter -> String -> List Reading}
    {renews : device -> adapter -> Bool} (h : Sensing obeys machines reads renews)
    {a : adapter} (ha : obeys a) :
    exposedIds a = (machines a).map GenericEquipment.id := by
  unfold exposedIds
  rw [h.exposes a ha, List.map_map]
  rfl

theorem Sensing.restrict {obeys some : adapter -> Prop}
    {machines : adapter -> List GenericEquipment}
    {reads : device -> adapter -> String -> List Reading}
    {renews : device -> adapter -> Bool} (h : Sensing obeys machines reads renews)
    (hstable : Stable some) (hsome : forall a, some a -> obeys a) :
    Sensing some machines reads renews where
  stable := hstable
  exposes a ha := h.exposes a (hsome a ha)
  hidden a ha := h.hidden a (hsome a ha)
  polls d a ids ha := h.polls d a ids (hsome a ha)
  known d a id ha := h.known d a id (hsome a ha)
  executes d a equipmentId command parameter ids r ha :=
    h.executes d a equipmentId command parameter ids r (hsome a ha)
  stimulates s a ha := h.stimulates s a (hsome a ha)
  connects d a ids ha := h.connects d a ids (hsome a ha)
  sameIds d a ids ha := h.sameIds d a ids (hsome a ha)

variable (adapter) in
theorem stable_false : Stable (fun _ : adapter => False) :=
  fun _ _ _ h => h

theorem sensing_false (machines : adapter -> List GenericEquipment)
    (reads : device -> adapter -> String -> List Reading)
    (renews : device -> adapter -> Bool) :
    Sensing (fun _ => False) machines reads renews where
  stable := stable_false adapter
  exposes _ h := h.elim
  hidden _ h := h.elim
  polls _ _ _ h := h.elim
  known _ _ _ h := h.elim
  executes _ _ _ _ _ _ _ h := h.elim
  stimulates _ _ h := h.elim
  connects _ _ _ h := h.elim
  sameIds _ _ _ h := h.elim

section

variable {left right device' stimulus' : Type}
  [IndustrialAdapter left device stimulus] [IndustrialAdapter right device' stimulus']

theorem Sensing.elim {obeys : left -> Prop} {obeys' : right -> Prop}
    {machines : left -> List GenericEquipment}
    {machines' : right -> List GenericEquipment}
    {reads : device -> left -> String -> List Reading}
    {reads' : device' -> right -> String -> List Reading}
    {renews : device -> left -> Bool} {renews' : device' -> right -> Bool}
    (h : Sensing obeys machines reads renews)
    (h' : Sensing obeys' machines' reads' renews') :
    Sensing (Sum.elim obeys obeys' : left ⊕ right -> Prop)
      (Sum.elim machines machines') (fun d => Sum.elim (reads d.1) (reads' d.2))
      (fun d => Sum.elim (renews d.1) (renews' d.2)) where
  stable := stable_elim h.stable h'.stable
  exposes a ha := by
    cases a with
    | inl a => exact h.exposes a ha
    | inr a => exact h'.exposes a ha
  hidden a ha hstate := by
    cases a with
    | inl a => exact h.hidden a ha hstate
    | inr a => exact h'.hidden a ha hstate
  polls d a ids ha hstate hnodup := by
    cases a with
    | inl a => exact h.polls d.1 a ids ha hstate hnodup
    | inr a => exact h'.polls d.2 a ids ha hstate hnodup
  known d a id ha hstate hreads := by
    cases a with
    | inl a => exact h.known d.1 a id ha hstate hreads
    | inr a => exact h'.known d.2 a id ha hstate hreads
  executes d a equipmentId command parameter ids r ha hr := by
    cases a with
    | inl a =>
        rcases Option.map_eq_some_iff.mp hr with ⟨q, hq, rfl⟩
        exact h.executes d.1 a equipmentId command parameter ids q ha hq
    | inr a =>
        rcases Option.map_eq_some_iff.mp hr with ⟨q, hq, rfl⟩
        exact h'.executes d.2 a equipmentId command parameter ids q ha hq
  stimulates s a ha := by
    cases s with
    | inl s =>
        cases a with
        | inl a => exact h.stimulates s a ha
        | inr a => rfl
    | inr s =>
        cases a with
        | inl a => rfl
        | inr a => exact h'.stimulates s a ha
  connects d a ids ha hstate := by
    cases a with
    | inl a => exact h.connects d.1 a ids ha hstate
    | inr a => exact h'.connects d.2 a ids ha hstate
  sameIds d a ids ha hstate := by
    cases a with
    | inl a => exact h.sameIds d.1 a ids ha hstate
    | inr a => exact h'.sameIds d.2 a ids ha hstate

end

end IndustrialAdapter

/-!
# Protocol drivers
-/

namespace ProtocolAdapter

section

variable {config mapping session : Type} [EquipmentMapping mapping]

def machines (a : ProtocolAdapter config mapping session) : List GenericEquipment :=
  a.bound.map BoundEquipment.inner

theorem equipment_eq {a : ProtocolAdapter config mapping session}
    (h : a.link.connectionState = .disconnected -> a.bound = []) :
    a.equipment = a.machines.map (fun e => some e.view) := by
  unfold equipment exposedBound machines
  by_cases hstate : a.link.connectionState = .disconnected
  · rw [if_pos hstate, h hstate]
    rfl
  · rw [if_neg hstate, List.map_map]
    rfl

theorem map_id_machines (a : ProtocolAdapter config mapping session) :
    a.machines.map GenericEquipment.id = a.bound.map (fun b => b.inner.id) := by
  unfold machines
  rw [List.map_map]
  rfl

end

variable {config mapping session library : Type} [EquipmentMapping mapping]
  [ProtocolDriver config mapping session library]

/-- What a poll reads for the machine of an identifier. -/
def reads (lib : library) (a : ProtocolAdapter config mapping session) (id : String) :
    List Reading :=
  (((a.bound.map (fun b => b.inner.id)).zip (pollReadings lib a)).lookup id).getD []

theorem Lived.exposes {a : ProtocolAdapter config mapping session} (h : a.Lived) :
    exposed a = a.machines.map GenericEquipment.view :=
  exposed_of_map (equipment_eq (fun hstate => h.bound_of_disconnected hstate))

theorem Lived.exposedIds {a : ProtocolAdapter config mapping session} (h : a.Lived) :
    exposedIds a = a.bound.map (fun b => b.inner.id) := by
  rw [← map_id_machines]
  unfold IndustrialAdapter.exposedIds
  rw [h.exposes, List.map_map]
  rfl

theorem machines_poll (lib : library) {a : ProtocolAdapter config mapping session}
    (hstate : a.link.connectionState = .connected)
    (hnodup : (a.bound.map (fun b => b.inner.id)).Nodup) :
    (ProtocolDriver.poll lib a).machines =
      a.machines.map
        (fun e => (reads lib a e.id).foldl GenericEquipment.applyReading e) := by
  have hlength : (pollReadings lib a).length = a.bound.length :=
    length_passReadings _ _ _
  have hbound : (ProtocolDriver.poll lib a).bound =
      List.zipWith BoundEquipment.store a.bound (pollReadings lib a) :=
    (poll_of_connected lib hstate).2.2.1
  unfold machines
  rw [hbound, Association.zipWith_eq_map_lookup BoundEquipment.store
    (fun b => b.inner.id) [] hnodup hlength, List.map_map, List.map_map]
  rfl

theorem mem_of_reads {lib : library} {a : ProtocolAdapter config mapping session}
    {id : String} (h : reads lib a id ≠ []) : id ∈ a.bound.map (fun b => b.inner.id) := by
  unfold reads at h
  cases hlookup : ((a.bound.map (fun b => b.inner.id)).zip
      (pollReadings lib a)).lookup id with
  | none =>
      rw [hlookup] at h
      exact absurd rfl h
  | some rs =>
      have hkey := (Association.lookup_isSome_iff id _).mp (by rw [hlookup]; rfl)
      rcases List.mem_map.mp hkey with ⟨p, hp, rfl⟩
      exact (List.of_mem_zip hp).1

theorem machines_connect (lib : library) {a : ProtocolAdapter config mapping session}
    (hstate : a.link.connectionState ≠ .connected) :
    ((ProtocolDriver.connect lib a).1 = true ->
        forall e, e ∈ (ProtocolDriver.connect lib a).2.machines -> e.Blank) ∧
      ((ProtocolDriver.connect lib a).1 = false ->
        (ProtocolDriver.connect lib a).2.machines = a.machines) := by
  rcases ProtocolDriver.connect_cases lib a hstate with
    ⟨hok, hopened⟩ | ⟨hfailed, hrefused⟩
  · constructor
    · intro _ e he
      unfold machines at he
      rw [hopened.bound, List.map_map] at he
      rcases List.mem_map.mp he with ⟨m, _, rfl⟩
      exact blank_freshEquipment m
    · intro hfailed
      cases hok.symm.trans hfailed
  · constructor
    · intro hok
      cases hok.symm.trans hfailed
    · intro _
      unfold machines
      rw [hrefused.bound]

theorem Lived.exposedIds_connect {a : ProtocolAdapter config mapping session}
    (h : a.Lived) (lib : library) (hstate : a.link.connectionState ≠ .connected)
    (hsome : a.bound ≠ []) :
    IndustrialAdapter.exposedIds (ProtocolDriver.connect lib a).2 =
      IndustrialAdapter.exposedIds a := by
  have hup : a.link.connectionState ≠ .disconnected :=
    fun hdown => hsome (h.bound_of_disconnected hdown)
  have hmappings : a.bound.map BoundEquipment.mapping =
      ProtocolDriver.equipment session a.config := by
    rcases h with ⟨l, hl⟩
    have hbound := hl.bound
    split at hbound
    · exact hbound
    · exact absurd (List.map_eq_nil_iff.mp hbound) hsome
  rw [exposedIds_eq a, exposedMappings_of_not_disconnected hup]
  refine (exposedIds_eq (ProtocolDriver.connect lib a).2).trans ?_
  rcases ProtocolDriver.connect_cases lib a hstate with ⟨_, hopened⟩ | ⟨_, hrefused⟩
  · have hnew : (ProtocolDriver.connect lib a).2.bound.map BoundEquipment.mapping =
        ProtocolDriver.equipment session a.config := by
      rw [hopened.bound, List.map_map]
      exact List.map_id _
    rw [exposedMappings_of_not_disconnected (by rw [hopened.up.connected]; decide),
      hnew, hmappings]
  · rw [exposedMappings_of_not_disconnected (by rw [hrefused.down.faulted]; decide),
      hrefused.bound]

theorem sensing :
    Sensing (Lived : ProtocolAdapter config mapping session -> Prop) machines reads
      (fun lib a => (ProtocolDriver.connect lib a).1) where
  stable := footprint.stable
  exposes _ ha := ha.exposes
  hidden _ ha hstate := List.map_eq_nil_iff.mpr (ha.bound_of_disconnected hstate)
  polls lib a ids ha hstate hnodup := by
    rw [ha.exposedIds] at hnodup
    exact machines_poll lib hstate hnodup
  known lib a id ha _ hreads := by
    rw [ha.exposedIds]
    exact mem_of_reads hreads
  executes lib a equipmentId command parameter ids r _ hr := by
    rcases Option.map_eq_some_iff.mp hr with ⟨q, hq, rfl⟩
    rcases execute_cases lib a equipmentId command parameter with
      ⟨_, hnone⟩ | ⟨b, _, hsome⟩
    · cases hnone.symm.trans hq
    · cases hsome.symm.trans hq
      rfl
  stimulates s _ _ := s.elim
  connects lib a ids _ hstate :=
    ⟨(machines_connect lib hstate).1, fun hfailed =>
      Or.inr ((machines_connect lib hstate).2 hfailed)⟩
  sameIds lib a ids ha hstate := by
    by_cases hnone : a.bound = []
    · exact Or.inl (List.map_eq_nil_iff.mpr hnone)
    · exact Or.inr (ha.exposedIds_connect lib hstate hnone)

end ProtocolAdapter

/-!
# MQTT
-/

namespace MqttIndustrialAdapter

/-- What the messages of a poll say of the machine of an identifier. -/
def reads (lib : MqttLib) (a : MqttIndustrialAdapter) (id : String) : List Reading :=
  match a.core.bound.find? (fun b => b.inner.id = id) with
  | none => []
  | some b =>
      (pollMessages lib.text lib.paho kMaxMessagesPerPoll (pollTimeout a.config)
        a).flatMap (messageReadings lib.text b.mapping)

theorem bound_pollLoop (text : TextLib) (paho : Paho) (n timeoutMs : Nat)
    (a : MqttIndustrialAdapter) (ids : ClientIds) :
    (pollLoop text paho n timeoutMs a ids).1.core.bound =
      a.core.bound.map
        (fun b => (pollMessages text paho n timeoutMs a).foldl (applyTo text) b) := by
  induction n generalizing timeoutMs a with
  | zero => exact (List.map_id' _).symm
  | succ n ih =>
      unfold pollLoop pollMessages
      rcases a.session.receive paho timeoutMs with ⟨incoming, s⟩
      cases incoming with
      | error => exact (List.map_id' _).symm
      | nothing =>
          dsimp only
          split
          · exact (List.map_id' _).symm
          · exact (List.map_id' _).symm
      | received message =>
          dsimp only
          rw [ih]
          show (a.core.bound.map _).map _ = _
          rw [List.map_map]
          rfl

theorem Binds.exposes {config : MqttAdapterConfig} {a : MqttIndustrialAdapter}
    (h : Binds config a) : exposed a = a.core.machines.map GenericEquipment.view :=
  exposed_of_map (ProtocolAdapter.equipment_eq h.hidden)

theorem Binds.exposedIds {config : MqttAdapterConfig} {a : MqttIndustrialAdapter}
    (h : Binds config a) :
    IndustrialAdapter.exposedIds a = a.core.bound.map (fun b => b.inner.id) := by
  rw [← ProtocolAdapter.map_id_machines]
  unfold IndustrialAdapter.exposedIds
  rw [h.exposes, List.map_map]
  rfl

theorem reads_of_mem (lib : MqttLib) {a : MqttIndustrialAdapter}
    (hnodup : (a.core.bound.map (fun b => b.inner.id)).Nodup)
    {b : BoundEquipment MqttEquipmentMapping} (hb : b ∈ a.core.bound) :
    reads lib a b.inner.id =
      (pollMessages lib.text lib.paho kMaxMessagesPerPoll (pollTimeout a.config)
        a).flatMap (messageReadings lib.text b.mapping) := by
  unfold reads
  cases hfind : a.core.bound.find? (fun c => c.inner.id = b.inner.id) with
  | none => exact absurd (decide_eq_true rfl) (List.find?_eq_none.mp hfind b hb)
  | some c =>
      have hc := List.mem_of_find?_eq_some hfind
      have hid : c.inner.id = b.inner.id := by simpa using List.find?_some hfind
      rw [List.inj_on_of_nodup_map hnodup hc hb hid]

theorem machines_poll (lib : MqttLib) {a : MqttIndustrialAdapter}
    (hstate : a.connectionState = .connected)
    (hnodup : (a.core.bound.map (fun b => b.inner.id)).Nodup) (ids : ClientIds) :
    (a.poll lib.text lib.paho ids).1.core.machines =
      a.core.machines.map
        (fun e => (reads lib a e.id).foldl GenericEquipment.applyReading e) := by
  unfold ProtocolAdapter.machines
  rw [poll_of_connected lib.text lib.paho hstate, bound_pollLoop, List.map_map,
    List.map_map]
  apply List.map_congr_left
  intro b hb
  show (List.foldl (applyTo lib.text) b _).inner =
    (reads lib a b.inner.id).foldl GenericEquipment.applyReading b.inner
  rw [foldl_applyTo, reads_of_mem lib hnodup hb]
  rfl

theorem Binds.bound_connect {config : MqttAdapterConfig} {a : MqttIndustrialAdapter}
    (h : Binds config a) (paho : Paho) (ids : ClientIds)
    (hstate : a.connectionState ≠ .connected) (hsome : a.core.bound ≠ []) :
    (a.connect paho ids).2.1.core.bound = a.core.bound := by
  have hfaulted : a.connectionState = .faulted := by
    cases hcases : a.connectionState with
    | connected => exact absurd hcases hstate
    | faulted => rfl
    | disconnected => exact absurd (h.hidden hcases) hsome
  have hreused : a.boundForSession = a.core.bound := by
    unfold boundForSession
    rw [if_pos]
    exact ⟨by simpa using hsome, hfaulted⟩
  have hout := connect_outcome paho hstate ids
  generalize a.connect paho ids = r at hout ⊢
  rcases r with ⟨ok, b, ids'⟩
  cases hout with
  | refused _ _ hbound => exact hbound
  | failed _ _ hbound =>
      rw [hreused, or_self] at hbound
      exact hbound
  | opened _ _ _ _ _ _ hbound => exact hbound.trans hreused

/-- The machines of an MQTT adapter are never bound anew while there are any. -/
theorem sensing :
    Sensing (fun a : MqttIndustrialAdapter => Binds a.config a)
      (fun a => a.core.machines) reads (fun _ _ => false) where
  stable := stable_binds_config
  exposes _ ha := ha.exposes
  hidden _ ha hstate := List.map_eq_nil_iff.mpr (ha.hidden hstate)
  polls lib a ids ha hstate hnodup := by
    rw [ha.exposedIds] at hnodup
    exact machines_poll lib hstate hnodup ids
  known lib a id ha _ hreads := by
    rw [ha.exposedIds]
    unfold reads at hreads
    cases hfind : a.core.bound.find? (fun b => b.inner.id = id) with
    | none =>
        rw [hfind] at hreads
        exact absurd rfl hreads
    | some b =>
        have hid : b.inner.id = id := by simpa using List.find?_some hfind
        rw [← hid]
        exact List.mem_map_of_mem (f := fun b => b.inner.id)
          (List.mem_of_find?_eq_some hfind)
  executes lib a equipmentId command parameter ids r _ hr := by
    rcases execute_some hr with ⟨b, _, hrun⟩
    have hbound := (runCommand_operated lib.text lib.paho command parameter b.mapping a
      ids).2
    rw [hrun] at hbound
    unfold ProtocolAdapter.machines
    rw [hbound]
  stimulates _ _ _ := rfl
  connects lib a ids ha hstate := by
    refine ⟨fun hrenews => Bool.noConfusion hrenews, fun _ => ?_⟩
    unfold ProtocolAdapter.machines
    by_cases hnone : a.core.bound = []
    · exact Or.inl (List.map_eq_nil_iff.mpr hnone)
    · right
      exact congrArg _ (ha.bound_connect lib.paho ids hstate hnone)
  sameIds lib a ids ha hstate := by
    by_cases hnone : a.core.bound = []
    · exact Or.inl (List.map_eq_nil_iff.mpr hnone)
    · right
      have hafter : Binds _ (a.connect lib.paho ids).2.1 :=
        stable_binds_config ⟨.connect, lib⟩ a ids ha
      rw [ha.exposedIds]
      refine hafter.exposedIds.trans ?_
      rw [ha.bound_connect lib.paho ids hstate hnone]

end MqttIndustrialAdapter

end VirtualFactory
