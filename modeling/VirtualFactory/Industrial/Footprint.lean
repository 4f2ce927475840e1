import VirtualFactory.Industrial.AdapterSum
import VirtualFactory.Industrial.Fieldbus
import VirtualFactory.Industrial.Lifecycle
import VirtualFactory.Industrial.Mock
import Mathlib.Data.Set.Basic

/-!
# Footprints

What an adapter can touch outside itself: the identifiers under which it exposes
machines, and the claims of its own client.
-/

namespace VirtualFactory

open Foundation IndustrialAdapter

namespace ClientIds

/-- Two processes agree on the claims of some keys. -/
def AgreeOn (keys : Set String) (ids ids' : ClientIds) : Prop :=
  forall key, key ∈ keys -> (key ∈ ids.claimed <-> key ∈ ids'.claimed)

theorem agreeOn_refl (keys : Set String) (ids : ClientIds) : AgreeOn keys ids ids :=
  fun _ _ => Iff.rfl

theorem AgreeOn.symm {keys : Set String} {ids ids' : ClientIds}
    (h : AgreeOn keys ids ids') : AgreeOn keys ids' ids :=
  fun key hkey => (h key hkey).symm

theorem AgreeOn.trans {keys : Set String} {ids ids' ids'' : ClientIds}
    (h : AgreeOn keys ids ids') (h' : AgreeOn keys ids' ids'') :
    AgreeOn keys ids ids'' :=
  fun key hkey => (h key hkey).trans (h' key hkey)

theorem AgreeOn.mono {keys keys' : Set String} {ids ids' : ClientIds}
    (h : AgreeOn keys ids ids') (hsub : keys' ⊆ keys) : AgreeOn keys' ids ids' :=
  fun key hkey => h key (hsub hkey)

theorem AgreeOn.sdiff {keys : Set String} {ids ids' : ClientIds}
    (h : AgreeOn keys ids ids') (dropped : Finset String) :
    AgreeOn keys { ids with claimed := ids.claimed \ dropped }
      { ids' with claimed := ids'.claimed \ dropped } := by
  intro key hkey
  simp only [Finset.mem_sdiff, h key hkey]

theorem AgreeOn.insert {keys : Set String} {ids ids' : ClientIds}
    (h : AgreeOn keys ids ids') (key : String) :
    AgreeOn keys { ids with claimed := insert key ids.claimed }
      { ids' with claimed := insert key ids'.claimed } := by
  intro other hother
  simp only [Finset.mem_insert, h other hother]

/-- Results that agree, with claims that agree on some keys. -/
def Agreeing {answer adapter : Type} (keys : Set String)
    (r q : answer × adapter × ClientIds) : Prop :=
  r.1 = q.1 ∧ r.2.1 = q.2.1 ∧ AgreeOn keys r.2.2 q.2.2

end ClientIds

open ClientIds

namespace IndustrialAdapter

variable {adapter device stimulus : Type}
  [IndustrialAdapter adapter device stimulus]

/-- The footprint of adapters: they expose machines under configured identifiers only,
and of the claims they read and write those of their own client keys only. -/
structure Footprint (genuine : adapter -> Prop)
    (configuredIds : adapter -> List String)
    (clientKeys : adapter -> Set String) : Prop where
  stable : Stable genuine
  sameIds : forall event a ids, genuine a ->
    configuredIds (operate event (a, ids)).2.1 = configuredIds a
  sameKeys : forall event a ids, genuine a ->
    clientKeys (operate event (a, ids)).2.1 = clientKeys a
  exposes : forall a, genuine a -> exposedIds a ⊆ configuredIds a
  lookup : forall a id, genuine a ->
    equipmentById a id = (exposed a).find? (fun e => e.id = id)
  reads : forall event a ids ids', genuine a -> AgreeOn (clientKeys a) ids ids' ->
    Agreeing (clientKeys a) (operate event (a, ids)) (operate event (a, ids'))
  writes : forall event a ids, genuine a ->
    AgreeOn (clientKeys a)ᶜ (operate event (a, ids)).2.2 ids

theorem Footprint.answers {genuine : adapter -> Prop}
    {configuredIds : adapter -> List String} {clientKeys : adapter -> Set String}
    (h : Footprint genuine configuredIds clientKeys) {a : adapter} (ha : genuine a)
    {id : String} {e : EquipmentView} (he : equipmentById a id = some e) :
    id ∈ configuredIds a := by
  rw [h.lookup a id ha] at he
  apply h.exposes a ha
  exact (mem_exposedIds_iff a id).mpr
    ⟨e, List.mem_of_find?_eq_some he, by simpa using List.find?_some he⟩

/-- The operations of most adapters have nothing to do with the claims. -/
def Unclaiming (adapter : Type) {device stimulus : Type}
    [IndustrialAdapter adapter device stimulus] : Prop :=
  forall (event : AdapterEvent device stimulus) (a : adapter),
    exists r : AdapterAnswer × adapter, forall ids : ClientIds,
      operate event (a, ids) = (r.1, r.2, ids)

theorem unclaiming_of
    (connects : device -> adapter -> Bool × adapter)
    (disconnects polls : device -> adapter -> adapter)
    (executes : device -> adapter -> String -> String -> Double ->
      Option (CommandResult × adapter))
    (connect_eq : forall d a ids,
      connect d a ids = ((connects d a).1, (connects d a).2, ids))
    (disconnect_eq : forall d a ids, disconnect d a ids = (disconnects d a, ids))
    (poll_eq : forall d a ids, poll d a ids = (polls d a, ids))
    (execute_eq : forall d a equipmentId command parameter ids,
      execute d a equipmentId command parameter ids =
        (executes d a equipmentId command parameter).map
          (fun r => (r.1, r.2, ids))) :
    Unclaiming adapter := by
  rintro ⟨operation, d⟩ a
  cases operation with
  | connect =>
      refine ⟨(.connected (connects d a).1, (connects d a).2), fun ids => ?_⟩
      simp only [operate, connect_eq]
  | disconnect =>
      refine ⟨(.disconnected, disconnects d a), fun ids => ?_⟩
      simp only [operate, disconnect_eq]
  | poll =>
      refine ⟨(.polled, polls d a), fun ids => ?_⟩
      simp only [operate, poll_eq]
  | execute equipmentId command parameter =>
      cases hr : executes d a equipmentId command parameter with
      | none =>
          refine ⟨(.executed none, a), fun ids => operate_execute_of_none ?_⟩
          rw [execute_eq, hr, Option.map_none]
      | some r =>
          refine ⟨(.executed (some r.1), r.2), fun ids => ?_⟩
          refine operate_execute_of_some (r := (r.1, r.2, ids)) ?_
          rw [execute_eq, hr, Option.map_some]
  | stimulate s => exact ⟨(.stimulated, stimulate s a), fun _ => rfl⟩

theorem footprint_of_unclaiming {genuine : adapter -> Prop}
    {configuredIds : adapter -> List String} (h : Unclaiming adapter)
    (stable : Stable genuine)
    (sameIds : forall event a ids, genuine a ->
      configuredIds (operate event (a, ids)).2.1 = configuredIds a)
    (exposes : forall a, genuine a -> exposedIds a ⊆ configuredIds a)
    (lookup : forall a id, genuine a ->
      equipmentById a id = (exposed a).find? (fun e => e.id = id)) :
    Footprint genuine configuredIds (fun _ => ∅) where
  stable := stable
  sameIds := sameIds
  sameKeys _ _ _ _ := rfl
  exposes := exposes
  lookup := lookup
  reads event a ids ids' _ hids := by
    rcases h event a with ⟨r, hr⟩
    rw [hr, hr]
    exact ⟨rfl, rfl, hids⟩
  writes event a ids _ := by
    rcases h event a with ⟨r, hr⟩
    rw [hr]
    exact agreeOn_refl _ ids

/-!
# Adapters of two kinds
-/

section

variable {left right device' stimulus' : Type}
  [IndustrialAdapter left device stimulus] [IndustrialAdapter right device' stimulus']

theorem Footprint.elim {genuine : left -> Prop} {genuine' : right -> Prop}
    {configuredIds : left -> List String} {configuredIds' : right -> List String}
    {clientKeys : left -> Set String} {clientKeys' : right -> Set String}
    (h : Footprint genuine configuredIds clientKeys)
    (h' : Footprint genuine' configuredIds' clientKeys') :
    Footprint (Sum.elim genuine genuine' : left ⊕ right -> Prop)
      (Sum.elim configuredIds configuredIds') (Sum.elim clientKeys clientKeys') where
  stable := stable_elim h.stable h'.stable
  sameIds event a ids ha := by
    cases a with
    | inl a =>
        rcases operate_inl right event a with hsame | ⟨own, hinl⟩
        · rw [hsame]
        · rw [hinl]
          exact h.sameIds own a ids ha
    | inr a =>
        rcases operate_inr left event a with hsame | ⟨own, hinr⟩
        · rw [hsame]
        · rw [hinr]
          exact h'.sameIds own a ids ha
  sameKeys event a ids ha := by
    cases a with
    | inl a =>
        rcases operate_inl right event a with hsame | ⟨own, hinl⟩
        · rw [hsame]
        · rw [hinl]
          exact h.sameKeys own a ids ha
    | inr a =>
        rcases operate_inr left event a with hsame | ⟨own, hinr⟩
        · rw [hsame]
        · rw [hinr]
          exact h'.sameKeys own a ids ha
  exposes a ha := by
    cases a with
    | inl a => exact h.exposes a ha
    | inr a => exact h'.exposes a ha
  lookup a id ha := by
    cases a with
    | inl a => exact h.lookup a id ha
    | inr a => exact h'.lookup a id ha
  reads event a ids ids' ha hids := by
    cases a with
    | inl a =>
        rcases operate_inl right event a with hsame | ⟨own, hinl⟩
        · rw [hsame, hsame]
          exact ⟨rfl, rfl, hids⟩
        · rcases h.reads own a ids ids' ha hids with ⟨hanswer, hadapter, hagree⟩
          rw [hinl, hinl]
          exact ⟨hanswer, congrArg Sum.inl hadapter, hagree⟩
    | inr a =>
        rcases operate_inr left event a with hsame | ⟨own, hinr⟩
        · rw [hsame, hsame]
          exact ⟨rfl, rfl, hids⟩
        · rcases h'.reads own a ids ids' ha hids with ⟨hanswer, hadapter, hagree⟩
          rw [hinr, hinr]
          exact ⟨hanswer, congrArg Sum.inr hadapter, hagree⟩
  writes event a ids ha := by
    cases a with
    | inl a =>
        rcases operate_inl right event a with hsame | ⟨own, hinl⟩
        · rw [hsame]
          exact agreeOn_refl _ ids
        · rw [hinl]
          exact h.writes own a ids ha
    | inr a =>
        rcases operate_inr left event a with hsame | ⟨own, hinr⟩
        · rw [hsame]
          exact agreeOn_refl _ ids
        · rw [hinr]
          exact h'.writes own a ids ha

end

end IndustrialAdapter

/-!
# Protocol drivers
-/

namespace ProtocolAdapter

variable {config mapping session library : Type} [EquipmentMapping mapping]
  [ProtocolDriver config mapping session library]

def configuredIds (a : ProtocolAdapter config mapping session) : List String :=
  (ProtocolDriver.equipment session a.config : List mapping).map EquipmentMapping.id

def Lived (a : ProtocolAdapter config mapping session) : Prop :=
  exists l : Lifecycle, a.Represents a.config l

theorem lived_create (id : String) (cfg : config) (s : session) :
    Lived (create id cfg s : ProtocolAdapter config mapping session) :=
  ⟨{}, represents_create id cfg s⟩

theorem lived_operate (event : AdapterEvent library Empty)
    {a : ProtocolAdapter config mapping session} (ids : ClientIds) (h : a.Lived) :
    Lived (operate event (a, ids)).2.1 ∧
      (operate event (a, ids)).2.1.config = a.config := by
  rcases h with ⟨l, hl⟩
  rcases refines_lifecycle a.config event (a, ids) l hl with ⟨l', _, hl'⟩
  have hconfig : (operate event (a, ids)).2.1.config = a.config := hl'.sameConfig
  refine ⟨⟨l', ?_⟩, hconfig⟩
  rw [hconfig]
  exact hl'

theorem unclaiming : Unclaiming (ProtocolAdapter config mapping session) :=
  unclaiming_of ProtocolDriver.connect (fun _ => ProtocolDriver.disconnect)
    ProtocolDriver.poll ProtocolDriver.execute (fun _ _ _ => rfl) (fun _ _ _ => rfl)
    (fun _ _ _ => rfl) (fun _ _ _ _ _ _ => rfl)

theorem footprint :
    Footprint (Lived : ProtocolAdapter config mapping session -> Prop)
      ProtocolAdapter.configuredIds (fun _ => ∅) :=
  footprint_of_unclaiming unclaiming (fun event _ ids h => (lived_operate event ids h).1)
    (by
      intro event a ids h
      unfold configuredIds
      rw [(lived_operate event ids h).2])
    (by
      rintro a ⟨l, hl⟩
      rw [hl.lives.exposedIds, hl.lives.exposes]
      split
      · exact List.Subset.refl _
      · exact List.nil_subset _)
    (fun a id _ => (find?_exposed_of_map (a := a) rfl id).symm)

end ProtocolAdapter

/-!
# The mock adapter
-/

namespace MockIndustrialAdapter

def configuredIds (a : MockIndustrialAdapter) : List String :=
  a.devices.map MockDeviceConfig.id

/-- The machines are devices of the adapter. -/
def BindsDevices (a : MockIndustrialAdapter) : Prop :=
  a.bound.map (fun b => b.inner.id) ⊆ a.configuredIds

theorem configuredIds_operate (event : AdapterEvent Unit MockStimulus)
    (a : MockIndustrialAdapter) (ids : ClientIds) :
    configuredIds (operate event (a, ids)).2.1 = a.configuredIds := by
  rcases event with ⟨operation, d⟩
  cases operation with
  | connect =>
      show a.connect.2.configuredIds = _
      unfold connect
      split <;> rfl
  | disconnect => rfl
  | poll =>
      show a.poll.configuredIds = _
      unfold poll
      split
      · split <;> rfl
      · rfl
  | execute equipmentId command parameter =>
      cases hr : IndustrialAdapter.execute d a equipmentId command parameter ids with
      | none => rw [operate_execute_of_none hr]
      | some r =>
          rw [operate_execute_of_some hr]
          rcases Option.map_eq_some_iff.mp hr with ⟨q, hq, rfl⟩
          rcases Option.map_eq_some_iff.mp hq with ⟨b, _, rfl⟩
          exact (runCommand_same command parameter b a).2.2.2.2
  | stimulate s =>
      cases s with
      | setSourceTelemetry equipmentId name value unit =>
          exact map_id_setSourceTelemetry a equipmentId name value unit
      | simulateCommunicationFailure reason => rfl
      | clearCommunicationFailure =>
          show a.clearCommunicationFailure.configuredIds = _
          unfold clearCommunicationFailure
          split <;> rfl

theorem stable_bindsDevices : Stable BindsDevices := by
  intro event a ids h
  unfold BindsDevices at h ⊢
  rw [configuredIds_operate]
  by_cases hconnects : (operate event (a, ids)).1 = .connected true
  · rcases event with ⟨operation, d⟩
    have hconnect : operation = .connect := operation_of_connected hconnects
    subst hconnect
    show a.connect.2.bound.map _ ⊆ _
    unfold connect
    split
    · exact h
    · exact h
    · rw [map_id_bindDevice]
      exact List.Subset.refl _
  · exact List.Subset.trans (bound_operate event a ids hconnects) h

theorem unclaiming : Unclaiming MockIndustrialAdapter :=
  unclaiming_of (fun _ => connect) (fun _ => disconnect) (fun _ => poll)
    (fun _ => execute) (fun _ _ _ => rfl) (fun _ _ _ => rfl) (fun _ _ _ => rfl)
    (fun _ _ _ _ _ _ => rfl)

theorem footprint :
    Footprint BindsDevices MockIndustrialAdapter.configuredIds (fun _ => ∅) :=
  footprint_of_unclaiming unclaiming stable_bindsDevices
    (fun event a ids _ => configuredIds_operate event a ids)
    (by
      intro a h
      rw [exposedIds_eq]
      unfold exposedBound
      split
      · exact List.nil_subset _
      · exact h)
    (fun a id _ => (find?_exposed_of_map (a := a) rfl id).symm)

end MockIndustrialAdapter

/-!
# PROFINET and PROFIBUS
-/

namespace FieldbusAdapter

variable {bus : Fieldbus}

def configuredIds (a : FieldbusAdapter bus) : List String :=
  a.core.config.equipment.map FieldbusEquipmentMapping.id

/-- The machines are bound to their mappings from the start. -/
def BindsConfigured (a : FieldbusAdapter bus) : Prop :=
  a.core.bound.map BoundEquipment.mapping = a.core.config.equipment

theorem bindsConfigured_new (id : String) (config : FieldbusConfig) :
    (new id config : FieldbusAdapter bus).BindsConfigured := by
  show (config.equipment.map BoundEquipment.bind).map BoundEquipment.mapping = _
  rw [List.map_map]
  exact List.map_id _

theorem operate_same (event : AdapterEvent HilscherSdk Empty)
    (a : FieldbusAdapter bus) (ids : ClientIds) :
    (operate event (a, ids)).2.1.core.bound = a.core.bound ∧
      (operate event (a, ids)).2.1.core.config = a.core.config := by
  rcases event with ⟨operation, sdk⟩
  cases operation with
  | connect =>
      show (a.connect sdk).2.core.bound = _ ∧ (a.connect sdk).2.core.config = _
      unfold FieldbusAdapter.connect
      split
      · exact ⟨rfl, rfl⟩
      · split
        · exact ⟨rfl, rfl⟩
        · split <;> exact ⟨rfl, rfl⟩
  | disconnect => exact ⟨rfl, rfl⟩
  | poll =>
      show a.poll.core.bound = _ ∧ a.poll.core.config = _
      unfold FieldbusAdapter.poll
      split <;> exact ⟨rfl, rfl⟩
  | execute equipmentId command parameter =>
      cases hr : IndustrialAdapter.execute sdk a equipmentId command parameter ids with
      | none =>
          rw [operate_execute_of_none hr]
          exact ⟨rfl, rfl⟩
      | some r =>
          rw [operate_execute_of_some hr]
          rcases Option.map_eq_some_iff.mp hr with ⟨q, hq, rfl⟩
          rw [FieldbusAdapter.execute_same hq]
          exact ⟨rfl, rfl⟩
  | stimulate s => exact s.elim

theorem unclaiming : Unclaiming (FieldbusAdapter bus) :=
  unclaiming_of FieldbusAdapter.connect (fun _ => FieldbusAdapter.disconnect)
    (fun _ => FieldbusAdapter.poll) (fun _ => FieldbusAdapter.execute)
    (fun _ _ _ => rfl) (fun _ _ _ => rfl) (fun _ _ _ => rfl)
    (fun _ _ _ _ _ _ => rfl)

theorem footprint :
    Footprint (BindsConfigured : FieldbusAdapter bus -> Prop) configuredIds
      (fun _ => ∅) :=
  footprint_of_unclaiming unclaiming
    (by
      intro event a ids h
      unfold BindsConfigured at h ⊢
      rw [(operate_same event a ids).1, (operate_same event a ids).2, h])
    (by
      intro event a ids _
      unfold configuredIds
      rw [(operate_same event a ids).2])
    (by
      intro a h
      rw [exposedIds_eq, configuredIds, ← h, List.map_map]
      exact List.Subset.refl _)
    (fun a id _ => (find?_exposed_of_map (a := a) rfl id).symm)

end FieldbusAdapter

end VirtualFactory
