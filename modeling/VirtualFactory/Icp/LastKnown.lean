import VirtualFactory.Icp.Freshness
import VirtualFactory.Icp.UniqueIds
import VirtualFactory.Industrial.Sensing

/-!
# Last-known values

What polls have read of the machines of an adapter is recorded beside a run of the
runtime.  The cache is compared with the record after every poll cycle.
-/

namespace VirtualFactory
namespace Icp

open Foundation IndustrialAdapter

/-!
# What a snapshot shows
-/

/-- The value that a snapshot shows for a signal. -/
def EquipmentSnapshot.shown (row : EquipmentSnapshot) : Signal -> Option Reading
  | .telemetry name =>
      (row.telemetry.find? (fun p => p.name = name)).map
        (fun p => Reading.telemetry name p.value p.unit)
  | .state => some (.state (decide (row.operationalState = .running)))
  | .fault => some (.fault row.machineFault)

section

variable {adapter device stimulus : Type}
  [IndustrialAdapter adapter device stimulus]

theorem shown_makeSnapshot (e : GenericEquipment) (a : adapter) (stale : Bool)
    (signal : Signal) :
    (makeSnapshot e.view a stale).shown signal = e.shown signal := by
  cases signal with
  | telemetry name =>
      have hfind := TelemetryMap.find?_toList e.telemetryMap name
      show ((e.telemetryMap.toList.map cachePoint).find? _).map _ =
        (e.telemetryMap.points.find? name).map _
      rw [List.find?_map, ← hfind, Option.map_map]
      rfl
  | state => rfl
  | fault => rfl

/-!
# The record of an adapter
-/

/-- What was read for the machines of an adapter before they were last bound, and since
then. -/
structure Record where
  past : String -> List Reading := fun _ => []
  since : String -> List Reading := fun _ => []

namespace Record

def all (record : Record) (id : String) : List Reading :=
  record.past id ++ record.since id

def renew (record : Record) : Record where
  past := record.all

def add (record : Record) (rs : String -> List Reading) : Record where
  past := record.past
  since id := record.since id ++ rs id

/-- What a step of the runtime adds to the record of the adapter under a key. -/
def step (reads : device -> adapter -> String -> List Reading)
    (renews : device -> adapter -> Bool) (key : String)
    (event : Event adapter device stimulus) (s : Runtime adapter) (record : Record) :
    Record :=
  match event.operation, s.manager.find? key with
  | .connectAdapter k, some a =>
      if k = key ∧ connectionState a ≠ .connected ∧
          renews (event.devices key) a = true then
        record.renew
      else record
  | .pollOnce, some a =>
      if connectionState a = .connected then
        record.add (reads (event.devices key) a)
      else record
  | _, _ => record

theorem step_connectAdapter {reads : device -> adapter -> String -> List Reading}
    {renews : device -> adapter -> Bool} {key k : String} {devices : String -> device}
    {s : Runtime adapter} {a : adapter} (h : s.manager.find? key = some a)
    (record : Record) :
    record.step reads renews key ⟨.connectAdapter k, devices⟩ s =
      if k = key ∧ connectionState a ≠ .connected ∧ renews (devices key) a = true then
        record.renew
      else record := by
  unfold step
  rw [h]

theorem step_pollOnce {reads : device -> adapter -> String -> List Reading}
    {renews : device -> adapter -> Bool} {key : String} {devices : String -> device}
    {s : Runtime adapter} {a : adapter} (h : s.manager.find? key = some a)
    (record : Record) :
    record.step reads renews key ⟨.pollOnce, devices⟩ s =
      if connectionState a = .connected then record.add (reads (devices key) a)
      else record := by
  unfold step
  rw [h]

end Record

/-- The runtime with the record of one adapter beside it. -/
def logged (reads : device -> adapter -> String -> List Reading)
    (renews : device -> adapter -> Bool) (key : String) :
    Machine (Runtime adapter × Record) (Event adapter device stimulus) Answer where
  step event s :=
    ((Runtime.step event s.1).1, (Runtime.step event s.1).2,
      s.2.step reads renews key event s.1)

theorem run_logged (reads : device -> adapter -> String -> List Reading)
    (renews : device -> adapter -> Bool) (key : String)
    (es : List (Event adapter device stimulus)) (s : Runtime adapter × Record) :
    ((logged reads renews key).run es s).1 = (runtime adapter).run es s.1 := by
  induction es generalizing s with
  | nil => rfl
  | cons event rest ih => exact ih _

/-- The machines show what was read since they were bound, and under it what a new
machine shows if anything was read before. -/
structure Recorded (machines : adapter -> List GenericEquipment) (record : Record)
    (a : adapter) : Prop where
  known : forall id, record.all id ≠ [] -> id ∈ (machines a).map GenericEquipment.id
  shows : forall e, e ∈ machines a -> exists base : Signal -> Option Reading,
    (record.past e.id ≠ [] -> base = blankReading) ∧
      forall signal, e.shown signal =
        (lastReading signal (record.since e.id)).or (base signal)

theorem recorded_of_unread {machines : adapter -> List GenericEquipment}
    {record : Record} (h : forall id, record.all id = []) (a : adapter) :
    Recorded machines record a where
  known id hid := absurd (h id) hid
  shows e _ := by
    rcases List.append_eq_nil_iff.mp (h e.id) with ⟨hpast, hsince⟩
    refine ⟨e.shown, fun hread => absurd hpast hread, fun signal => ?_⟩
    rw [hsince]
    rfl

theorem Recorded.of_same {machines : adapter -> List GenericEquipment}
    {record : Record} {a b : adapter} (h : Recorded machines record a)
    (hsame : machines b = machines a) : Recorded machines record b where
  known := by
    rw [hsame]
    exact h.known
  shows := by
    rw [hsame]
    exact h.shows

/-- New machines of the same identifiers show what was read since: nothing. -/
theorem Recorded.renew {machines : adapter -> List GenericEquipment}
    {record : Record} {a b : adapter} (h : Recorded machines record a)
    (hblank : forall e, e ∈ machines b -> e.Blank)
    (hids : (machines b).map GenericEquipment.id =
      (machines a).map GenericEquipment.id) : Recorded machines record.renew b where
  known id hid := by
    rw [hids]
    apply h.known
    intro hnone
    apply hid
    show record.all id ++ [] = []
    rw [hnone]
    rfl
  shows e he := ⟨blankReading, fun _ => rfl, fun signal => hblank e he signal⟩

theorem Recorded.add {machines : adapter -> List GenericEquipment}
    {record : Record} {a b : adapter} {rs : String -> List Reading}
    (h : Recorded machines record a)
    (hknown : forall id, rs id ≠ [] -> id ∈ (machines a).map GenericEquipment.id)
    (hpolled : machines b = (machines a).map
      (fun e => (rs e.id).foldl GenericEquipment.applyReading e)) :
    Recorded machines (record.add rs) b where
  known id hid := by
    have hids : (machines b).map GenericEquipment.id =
        (machines a).map GenericEquipment.id := by
      rw [hpolled, List.map_map]
      apply List.map_congr_left
      intro e _
      exact GenericEquipment.foldl_applyReading_id _ _
    rw [hids]
    by_cases hread : rs id = []
    · apply h.known
      intro hnone
      apply hid
      show record.past id ++ (record.since id ++ rs id) = []
      rw [hread, List.append_nil]
      exact hnone
    · exact hknown id hread
  shows e he := by
    rw [hpolled] at he
    rcases List.mem_map.mp he with ⟨d, hd, rfl⟩
    rcases h.shows d hd with ⟨base, hbase, hshown⟩
    rw [GenericEquipment.foldl_applyReading_id]
    refine ⟨base, hbase, fun signal => ?_⟩
    show _ = (lastReading signal (record.since d.id ++ rs d.id)).or _
    rw [GenericEquipment.shown_foldl_applyReading, hshown, lastReading_append,
      Option.or_assoc]

/-!
# Undisturbed steps
-/

/-- A step that neither disconnects nor removes the adapter under a key. -/
structure Undisturbed (key : String) (event : Event adapter device stimulus) : Prop where
  notDisconnected : event.operation ≠ .disconnectAdapter key
  notAllDisconnected : event.operation ≠ .disconnectAll
  notRemoved : event.operation ≠ .removeAdapter key

/-- When the adapter is connected or polled, nothing else has the identifiers of its
machines. -/
def Unambiguous (key : String) (event : Event adapter device stimulus)
    (s : Runtime adapter) : Prop :=
  event.operation = .connectAdapter key ∨ event.operation = .pollOnce ->
    s.manager.Exclusive key

theorem connectChecked_of_apart (hanswering : AdapterManager.Answering adapter)
    {d : device} {key : String} {m : AdapterManager adapter} {a : adapter}
    {ids : ClientIds} (hstate : connectionState a ≠ .connected)
    (hapart : m.Apart key (exposedIds (connect d a ids).2.1)) :
    (AdapterManager.connectChecked d key m a ids).2.1 = (connect d a ids).2.1 := by
  have hchecked := AdapterManager.checked_connectChecked d key m a ids
  generalize AdapterManager.connectChecked d key m a ids = result at hchecked ⊢
  cases hchecked with
  | already hconnected => exact absurd hconnected hstate
  | refused _ hconnect => rw [hconnect]
  | @collided b _ _ hconnect hcheck =>
      rw [hconnect] at hapart
      have hfree := AdapterManager.findCollision_of_apart hanswering hapart
      cases hcheck.symm.trans ((AdapterManager.check_ok_iff m key b).mpr hfree)
  | connected _ hconnect => rw [hconnect]

variable {obeys : adapter -> Prop} {machines : adapter -> List GenericEquipment}
  {reads : device -> adapter -> String -> List Reading}
  {renews : device -> adapter -> Bool}

theorem recorded_connect (h : Sensing obeys machines reads renews)
    (hanswering : AdapterManager.Answering adapter) (d : device) {key : String}
    {m : AdapterManager adapter} {record : Record} {a : adapter} (ids : ClientIds)
    (ha : obeys a) (hrecorded : Recorded machines record a)
    (hstate : connectionState a ≠ .connected) (hapart : m.Apart key (exposedIds a)) :
    Recorded machines (if renews d a = true then record.renew else record)
      (AdapterManager.connectChecked d key m a ids).2.1 := by
  by_cases hnone : machines a = []
  · have hunread : forall id, record.all id = [] := by
      intro id
      by_contra hread
      have hmem := hrecorded.known id hread
      rw [hnone] at hmem
      cases hmem
    apply recorded_of_unread
    intro id
    split
    · show record.all id ++ [] = []
      rw [hunread id]
      rfl
    · exact hunread id
  · have hids := (h.sameIds d a ids ha hstate).resolve_left hnone
    rw [connectChecked_of_apart hanswering hstate (by rw [hids]; exact hapart)]
    have hafter : obeys (connect d a ids).2.1 := h.stable ⟨.connect, d⟩ a ids ha
    cases hrenews : renews d a with
    | true =>
        apply hrecorded.renew ((h.connects d a ids ha hstate).1 hrenews)
        rw [← h.exposedIds_eq hafter, hids, h.exposedIds_eq ha]
    | false =>
        exact hrecorded.of_same
          (((h.connects d a ids ha hstate).2 hrenews).resolve_left hnone)

theorem recorded_poll (h : Sensing obeys machines reads renews) (d : device)
    {record : Record} {a : adapter} (ha : obeys a)
    (hrecorded : Recorded machines record a) (hnodup : (exposedIds a).Nodup) :
    Recorded machines
      (if connectionState a = .connected then record.add (reads d a) else record)
      (polled d a) := by
  unfold polled
  split
  · rename_i hstate
    apply hrecorded.add
    · intro id hread
      rw [← h.exposedIds_eq ha]
      exact h.known d a id ha hstate hread
    · exact h.polls d a {} ha hstate hnodup
  · exact hrecorded

theorem machines_executeOn (h : Sensing obeys machines reads renews) (d : device)
    (equipmentId command : String) (parameter : Double) (ids : ClientIds) {a : adapter}
    (ha : obeys a) :
    machines (AdapterManager.executeOn d equipmentId command parameter ids a) =
      machines a := by
  unfold AdapterManager.executeOn
  cases hr : execute d a equipmentId command parameter ids with
  | none => rfl
  | some r => exact h.executes d a equipmentId command parameter ids r ha hr

/-- The adapter under a key is registered, and its record says what it shows. -/
def Tracked (obeys : adapter -> Prop) (machines : adapter -> List GenericEquipment)
    (key : String) (s : Runtime adapter × Record) : Prop :=
  exists a, s.1.manager.find? key = some a ∧ obeys a ∧ Recorded machines s.2 a

theorem recorded_connectAdapter (h : Sensing obeys machines reads renews)
    (hanswering : AdapterManager.Answering adapter) {key connected : String}
    {devices : String -> device} {s : Runtime adapter} {record : Record} {a : adapter}
    (ha : s.manager.find? key = some a) (hobeys : obeys a)
    (hrecorded : Recorded machines record a)
    (hapart : key = connected -> s.manager.Apart key (exposedIds a)) :
    exists b,
      (s.manager.connectAdapter (devices connected) connected s.clientIds).2.1.find?
          key = some b ∧
        Recorded machines
          (record.step reads renews key ⟨.connectAdapter connected, devices⟩ s) b := by
  have hfind := AdapterManager.find?_connectAdapter (devices connected) connected
    s.manager s.clientIds key
  rw [Record.step_connectAdapter ha]
  by_cases hk : key = connected
  · subst hk
    rw [if_pos rfl, ha] at hfind
    rw [Option.map_some] at hfind
    by_cases hstate : connectionState a = .connected
    · rw [if_neg (fun hrenew => hrenew.2.1 hstate)]
      rw [AdapterManager.connectChecked_of_connected hstate] at hfind
      exact ⟨a, hfind, hrecorded⟩
    · have hconnected := recorded_connect h hanswering (devices key) s.clientIds hobeys
        hrecorded hstate (hapart rfl)
      exact ⟨_, hfind, by simpa [hstate] using hconnected⟩
  · rw [if_neg hk] at hfind
    rw [if_neg (fun hrenew => hk hrenew.1.symm)]
    exact ⟨a, hfind.trans ha, hrecorded⟩

variable [LawfulPoll adapter]

theorem recorded_step (h : Sensing obeys machines reads renews)
    (hanswering : AdapterManager.Answering adapter) {key : String}
    {event : Event adapter device stimulus} {s : Runtime adapter} {record : Record}
    {a : adapter} (hundisturbed : Undisturbed key event)
    (hunambiguous : Unambiguous key event s) (ha : s.manager.find? key = some a)
    (hobeys : obeys a) (hrecorded : Recorded machines record a) :
    exists b, (Runtime.step event s).2.manager.find? key = some b ∧
      Recorded machines (record.step reads renews key event s) b := by
  have hexclusive : event.operation = .connectAdapter key ∨ event.operation = .pollOnce ->
      (exposedIds a).Nodup ∧ s.manager.Apart key (exposedIds a) := by
    intro hevent
    rcases hunambiguous hevent with ⟨b, hb, hnodup, hapart⟩
    cases hb.symm.trans ha
    exact ⟨hnodup, hapart⟩
  rcases event with ⟨operation, devices⟩
  cases operation with
  | addAdapter newAdapter =>
      exact ⟨a, AdapterManager.find?_addAdapter_of_some ha _ newAdapter s.clientIds,
        hrecorded⟩
  | removeAdapter removed =>
      have hne : key ≠ removed := by
        rintro rfl
        exact hundisturbed.notRemoved rfl
      have hfind := AdapterManager.find?_removeAdapter (devices removed) removed
        s.manager s.clientIds key
      rw [if_neg hne] at hfind
      exact ⟨a, hfind.trans ha, hrecorded⟩
  | connectAdapter connected =>
      apply recorded_connectAdapter h hanswering ha hobeys hrecorded
      rintro rfl
      exact (hexclusive (Or.inl rfl)).2
  | disconnectAdapter disconnected =>
      have hne : key ≠ disconnected := by
        rintro rfl
        exact hundisturbed.notDisconnected rfl
      have hfind := AdapterManager.find?_disconnectAdapter (devices disconnected)
        disconnected s.manager s.clientIds key
      rw [if_neg hne] at hfind
      exact ⟨a, hfind.trans ha, hrecorded⟩
  | disconnectAll => exact absurd rfl hundisturbed.notAllDisconnected
  | pollOnce =>
      have hfind := find?_pollOnce devices s.manager (s.cache, s.clientIds) key
      rw [ha] at hfind
      rw [Record.step_pollOnce ha]
      exact ⟨_, hfind, recorded_poll h (devices key) hobeys hrecorded
        (hexclusive (Or.inr rfl)).1⟩
  | execute equipmentId command parameter =>
      rcases AdapterManager.find?_execute devices equipmentId command parameter
        s.manager s.clientIds key with hfind | hfind
      · exact ⟨a, hfind.trans ha, hrecorded⟩
      · rw [ha] at hfind
        exact ⟨_, hfind, hrecorded.of_same
          (machines_executeOn h (devices key) equipmentId command parameter s.clientIds
            hobeys)⟩
  | stimulate stimulated st =>
      have hfind := s.manager.find?_modify stimulated
        (IndustrialAdapter.stimulate st) (id_stimulate st) key
      by_cases hk : key = stimulated
      · rw [if_pos hk, ha] at hfind
        exact ⟨_, hfind, hrecorded.of_same (h.stimulates st a hobeys)⟩
      · rw [if_neg hk] at hfind
        exact ⟨a, hfind.trans ha, hrecorded⟩
  | rehash order =>
      exact ⟨a, (s.manager.find?_rehash order key).trans ha, hrecorded⟩

theorem tracked_step (h : Sensing obeys machines reads renews)
    (hanswering : AdapterManager.Answering adapter) {key : String}
    {event : Event adapter device stimulus} {s : Runtime adapter × Record}
    (hundisturbed : Undisturbed key event) (hunambiguous : Unambiguous key event s.1)
    (hs : Tracked obeys machines key s) :
    Tracked obeys machines key ((logged reads renews key).step event s).2 := by
  rcases hs with ⟨a, ha, hobeys, hrecorded⟩
  rcases recorded_step h hanswering hundisturbed hunambiguous ha hobeys hrecorded with
    ⟨b, hb, hafter⟩
  refine ⟨b, hb, ?_, hafter⟩
  rcases Runtime.step_find? hb with ⟨c, hc, hmoved⟩ | ⟨_, _, hfree⟩
  · cases hc.symm.trans ha
    exact hmoved.kept h.stable hobeys
  · cases hfree.symm.trans ha

/-!
# After a poll cycle
-/

/-- The cache shows the last value that was read of every signal. -/
def LiveStateCache.ShowsLast (c : LiveStateCache) (record : Record) : Prop :=
  forall id signal r, lastReading signal (record.all id) = some r ->
    exists row, c.find? id = some row ∧ row.shown signal = some r

/-- What was read before the machines were last bound has been read again since, or it
is what a new machine shows. -/
def Record.Remembered (record : Record) : Prop :=
  forall id signal r, lastReading signal (record.past id) = some r ->
    lastReading signal (record.since id) = none -> blankReading signal = some r

theorem row_pollOnce (h : Sensing obeys machines reads renews) {key : String}
    (devices : String -> device) {s : Runtime adapter} {a : adapter}
    (ha : s.manager.find? key = some a) (hobeys : obeys a)
    (hapart : s.manager.Apart key (exposedIds a))
    (hpolled : obeys (polled (devices key) a)) {id : String}
    (hid : id ∈ (machines (polled (devices key) a)).map GenericEquipment.id) :
    exists row e, (Runtime.step ⟨.pollOnce, devices⟩ s).2.cache.find? id = some row ∧
      e ∈ machines (polled (devices key) a) ∧ e.id = id ∧
        forall signal, row.shown signal = e.shown signal := by
  rw [← h.exposedIds_eq hpolled, exposedIds_polled] at hid
  have hup : connectionState a ≠ .disconnected := by
    intro hstate
    rw [h.exposedIds_eq hobeys, h.hidden a hobeys hstate] at hid
    cases hid
  have hregistered : a ∈ s.manager.registered :=
    (s.manager.mem_registered_iff a).mpr
      (by rw [AdapterManager.adapterId_of_find? ha]; exact ha)
  rcases Option.isSome_iff_exists.mp ((lastShown_isSome devices id _).mpr
    ⟨a, hregistered, hup, hid⟩) with ⟨row, hrow⟩
  rcases adapterId_of_lastShown hrow with ⟨c, hc, hshows⟩
  have hfind := (s.manager.mem_registered_iff c).mp hc
  -- the snapshot is of the adapter under the key: no other one exposes the identifier
  have hexposed : id ∈ exposedIds c :=
    ((visitShows_isSome (devices (adapterId c)) c id).mp (by rw [hshows]; rfl)).2
  have howner : adapterId c = key := by
    by_contra hother
    exact hapart (adapterId c) c hfind hother hid hexposed
  rw [howner] at hfind hshows
  cases hfind.symm.trans ha
  rw [visitShows_of_ne hup] at hshows
  rcases snapshotFor_spec hshows with ⟨view, hview, hviewId, hsnapshot⟩
  rw [h.exposes _ hpolled] at hview
  rcases List.mem_map.mp hview with ⟨e, he, rfl⟩
  refine ⟨row, e, ?_, he, hviewId, fun signal => ?_⟩
  · rw [find?_step_pollOnce, hrow, Option.some_or]
  · rw [hsnapshot]
    exact shown_makeSnapshot e _ _ signal

omit [LawfulPoll adapter] in
/-- What machines show is the last reading exactly when none is forgotten. -/
theorem Recorded.showsLast_iff {record : Record} {a : adapter} {c : LiveStateCache}
    (h : Recorded machines record a)
    (hrows : forall id, id ∈ (machines a).map GenericEquipment.id ->
      exists row e, c.find? id = some row ∧ e ∈ machines a ∧ e.id = id ∧
        forall signal, row.shown signal = e.shown signal) :
    c.ShowsLast record <-> record.Remembered := by
  have hknown : forall id signal r, lastReading signal (record.all id) = some r ->
      id ∈ (machines a).map GenericEquipment.id := by
    intro id signal r hlast
    apply h.known
    intro hnone
    rw [hnone] at hlast
    cases hlast
  constructor
  · intro hshows id signal r hpast hsince
    have hlast : lastReading signal (record.all id) = some r := by
      unfold Record.all
      rw [lastReading_append, hsince, Option.none_or, hpast]
    rcases hrows id (hknown id signal r hlast) with ⟨row, e, hrow, he, rfl, hshown⟩
    rcases h.shows e he with ⟨base, hbase, hbased⟩
    rcases hshows e.id signal r hlast with ⟨other, hother, hr⟩
    cases hother.symm.trans hrow
    have hblank : base = blankReading := by
      apply hbase
      intro hnone
      rw [hnone] at hpast
      cases hpast
    rw [← hr, hshown, hbased, hsince, hblank, Option.none_or]
  · intro hremembered id signal r hlast
    rcases hrows id (hknown id signal r hlast) with ⟨row, e, hrow, he, rfl, hshown⟩
    rcases h.shows e he with ⟨base, hbase, hbased⟩
    refine ⟨row, hrow, ?_⟩
    rw [hshown, hbased]
    unfold Record.all at hlast
    rw [lastReading_append] at hlast
    cases hsince : lastReading signal (record.since e.id) with
    | some q =>
        rw [hsince, Option.some_or] at hlast
        rw [Option.some_or, hlast]
    | none =>
        rw [hsince, Option.none_or] at hlast
        have hblank : base = blankReading := by
          apply hbase
          intro hnone
          rw [hnone] at hlast
          cases hlast
        rw [Option.none_or, hblank]
        exact hremembered e.id signal r hlast hsince

theorem showsLast_pollOnce_iff (h : Sensing obeys machines reads renews) {key : String}
    {devices : String -> device} {s : Runtime adapter × Record}
    (hunambiguous : Unambiguous key ⟨.pollOnce, devices⟩ s.1)
    (hs : Tracked obeys machines key s) :
    let t := ((logged reads renews key).step ⟨.pollOnce, devices⟩ s).2
    t.1.cache.ShowsLast t.2 <-> t.2.Remembered := by
  intro t
  rcases hs with ⟨a, ha, hobeys, hrecorded⟩
  rcases hunambiguous (Or.inr rfl) with ⟨b, hb, hnodup, hapart⟩
  cases hb.symm.trans ha
  have hpolled : obeys (polled (devices key) a) := by
    unfold polled
    split
    · exact h.stable ⟨.poll, devices key⟩ a {} hobeys
    · exact hobeys
  have hafter := recorded_poll h (devices key) hobeys hrecorded hnodup
  have hstep : s.2.step reads renews key ⟨.pollOnce, devices⟩ s.1 = _ :=
    Record.step_pollOnce ha s.2
  rw [← hstep] at hafter
  exact hafter.showsLast_iff
    (fun _ hid => row_pollOnce h devices ha hobeys hapart hpolled hid)

/-!
# Runs
-/

omit [LawfulPoll adapter] in
theorem admissible_logged {allowed : Event adapter device stimulus -> Runtime adapter -> Prop}
    {key : String} {es : List (Event adapter device stimulus)}
    {s : Runtime adapter × Record} (h : (runtime adapter).Admissible allowed es s.1) :
    (logged reads renews key).Admissible (fun event s => allowed event s.1) es s := by
  induction es generalizing s with
  | nil => exact trivial
  | cons event rest ih => exact ⟨h.1, ih h.2⟩

/-- A step that leaves the adapter in place, with its machines to itself. -/
structure Undistorted (key : String) (event : Event adapter device stimulus)
    (s : Runtime adapter) : Prop where
  undisturbed : Undisturbed key event
  unambiguous : Unambiguous key event s

theorem tracked_run (h : Sensing obeys machines reads renews)
    (hanswering : AdapterManager.Answering adapter) {key : String}
    {es : List (Event adapter device stimulus)} {s : Runtime adapter × Record}
    (hes : (runtime adapter).Admissible (Undistorted key) es s.1)
    (hs : Tracked obeys machines key s) :
    Tracked obeys machines key ((logged reads renews key).run es s) :=
  Machine.run_invariant
    (fun _ _ hallowed ht =>
      tracked_step h hanswering hallowed.undisturbed hallowed.unambiguous ht)
    hs (admissible_logged hes)

omit [LawfulPoll adapter] in
theorem past_step {key : String} {event : Event adapter device stimulus}
    {s : Runtime adapter} {a : adapter} (ha : s.manager.find? key = some a)
    (hnever : forall d, renews d a = false) (record : Record) :
    (record.step reads renews key event s).past = record.past := by
  rcases event with ⟨operation, devices⟩
  cases operation with
  | connectAdapter k =>
      rw [Record.step_connectAdapter ha, if_neg]
      rintro ⟨_, _, hrenews⟩
      cases (hnever (devices key)).symm.trans hrenews
  | pollOnce =>
      rw [Record.step_pollOnce ha]
      split <;> rfl
  | _ => rfl

/-- An adapter that never binds its machines anew forgets nothing. -/
theorem remembered_run (h : Sensing obeys machines reads renews)
    (hanswering : AdapterManager.Answering adapter)
    (hnever : forall d a, obeys a -> renews d a = false) {key : String}
    {es : List (Event adapter device stimulus)} {s : Runtime adapter × Record}
    (hes : (runtime adapter).Admissible (Undistorted key) es s.1)
    (hs : Tracked obeys machines key s) (hpast : s.2.past = fun _ => []) :
    ((logged reads renews key).run es s).2.Remembered := by
  have hstep : forall (event : Event adapter device stimulus)
      (t : Runtime adapter × Record), Undistorted key event t.1 ->
        (Tracked obeys machines key t ∧ t.2.past = fun _ => []) ->
          Tracked obeys machines key ((logged reads renews key).step event t).2 ∧
            ((logged reads renews key).step event t).2.2.past = fun _ => [] := by
    rintro event t hallowed ⟨htracked, hnone⟩
    refine ⟨tracked_step h hanswering hallowed.undisturbed hallowed.unambiguous
      htracked, ?_⟩
    rcases htracked with ⟨a, ha, hobeys, _⟩
    exact (past_step ha (fun d => hnever d a hobeys) t.2).trans hnone
  have hkept := Machine.run_invariant hstep ⟨hs, hpast⟩ (admissible_logged hes)
  intro id signal r hlast
  rw [hkept.2] at hlast
  cases hlast

end

/-!
# Adapters of all kinds
-/

namespace Adapter

/-- The adapters that read their machines over a network link. -/
def Networked : Adapter -> Prop :=
  cases (fun _ => False) (fun _ => True) (fun _ => True) (fun _ => True)
    (fun _ => True) (fun _ => True) (fun _ => False) (fun _ => False)

def machines : Adapter -> List GenericEquipment :=
  cases (fun a => a.bound.map MockBoundEquipment.inner) ProtocolAdapter.machines
    ProtocolAdapter.machines ProtocolAdapter.machines (fun a => a.core.machines)
    ProtocolAdapter.machines (fun a => a.core.machines) (fun a => a.core.machines)

/-- What a poll reads over the network link for a machine. -/
def reads (d : AdapterDevice) : Adapter -> String -> List Reading :=
  cases (fun _ _ => []) (ProtocolAdapter.reads d.2.1) (ProtocolAdapter.reads d.2.2.1)
    (ProtocolAdapter.reads d.2.2.2.1) (MqttIndustrialAdapter.reads d.2.2.2.2.1)
    (ProtocolAdapter.reads d.2.2.2.2.2.1) (fun _ _ => []) (fun _ _ => [])

/-- Whether a connect binds the machines anew: it does when it succeeds, unless the
adapter is one for MQTT. -/
def renews (d : AdapterDevice) : Adapter -> Bool :=
  cases (fun _ => false) (fun a => (ProtocolDriver.connect d.2.1 a).1)
    (fun a => (ProtocolDriver.connect d.2.2.1 a).1)
    (fun a => (ProtocolDriver.connect d.2.2.2.1 a).1) (fun _ => false)
    (fun a => (ProtocolDriver.connect d.2.2.2.2.2.1 a).1) (fun _ => false)
    (fun _ => false)

def Linked : Adapter -> Prop :=
  cases (fun _ => False) ProtocolAdapter.Lived ProtocolAdapter.Lived
    ProtocolAdapter.Lived (fun a => MqttIndustrialAdapter.Binds a.config a)
    ProtocolAdapter.Lived (fun _ => False) (fun _ => False)

theorem linked_of_genuine {a : Adapter} (h : Genuine a) (hnetworked : a.Networked) :
    a.Linked := by
  have hwired := wired_of_genuine h
  match a, hwired, hnetworked with
  | .mock _, _, hnetworked => exact hnetworked.elim
  | .opcUa _, hwired, _ => exact hwired
  | .modbus _, hwired, _ => exact hwired
  | .rest _, hwired, _ => exact hwired
  | .mqtt _, hwired, _ => exact hwired
  | .etherNetIp _, hwired, _ => exact hwired
  | .profinet _, _, hnetworked => exact hnetworked.elim
  | .profibus _, _, hnetworked => exact hnetworked.elim

theorem sensing : Sensing Linked machines reads renews := by
  have mock := sensing_false (fun a : MockIndustrialAdapter =>
    a.bound.map MockBoundEquipment.inner) (fun _ _ _ => []) (fun _ _ => false)
  have opcUa : Sensing (ProtocolAdapter.Lived : OpcUaIndustrialAdapter -> Prop)
    ProtocolAdapter.machines ProtocolAdapter.reads
    (fun d a => (ProtocolDriver.connect d a).1) := ProtocolAdapter.sensing
  have modbus : Sensing (ProtocolAdapter.Lived : ModbusIndustrialAdapter -> Prop)
    ProtocolAdapter.machines ProtocolAdapter.reads
    (fun d a => (ProtocolDriver.connect d a).1) := ProtocolAdapter.sensing
  have rest : Sensing (ProtocolAdapter.Lived : RestIndustrialAdapter -> Prop)
    ProtocolAdapter.machines ProtocolAdapter.reads
    (fun d a => (ProtocolDriver.connect d a).1) := ProtocolAdapter.sensing
  have etherNetIp : Sensing
    (ProtocolAdapter.Lived : EtherNetIpIndustrialAdapter -> Prop)
    ProtocolAdapter.machines ProtocolAdapter.reads
    (fun d a => (ProtocolDriver.connect d a).1) := ProtocolAdapter.sensing
  have profinet := sensing_false (fun a : ProfinetIndustrialAdapter => a.core.machines)
    (fun _ _ _ => []) (fun _ _ => false)
  have profibus := sensing_false (fun a : ProfibusIndustrialAdapter => a.core.machines)
    (fun _ _ _ => []) (fun _ _ => false)
  exact mock.elim (opcUa.elim (modbus.elim (rest.elim
    (MqttIndustrialAdapter.sensing.elim (etherNetIp.elim (profinet.elim profibus))))))

/-- The MQTT adapters alone. -/
def LinkedByMqtt : Adapter -> Prop :=
  cases (fun _ => False) (fun _ => False) (fun _ => False) (fun _ => False)
    (fun a => MqttIndustrialAdapter.Binds a.config a) (fun _ => False)
    (fun _ => False) (fun _ => False)

theorem stable_linkedByMqtt : Stable LinkedByMqtt := by
  unfold LinkedByMqtt
  refine stable_elim (stable_false _) ?_
  refine stable_elim (stable_false _) ?_
  refine stable_elim (stable_false _) ?_
  refine stable_elim (stable_false _) ?_
  refine stable_elim MqttIndustrialAdapter.stable_binds_config ?_
  refine stable_elim (stable_false _) ?_
  exact stable_elim (stable_false _) (stable_false _)

theorem linked_of_linkedByMqtt (a : Adapter) (h : a.LinkedByMqtt) : a.Linked := by
  match a, h with
  | .mock _, h => exact h.elim
  | .opcUa _, h => exact h.elim
  | .modbus _, h => exact h.elim
  | .rest _, h => exact h.elim
  | .mqtt _, h => exact h
  | .etherNetIp _, h => exact h.elim
  | .profinet _, h => exact h.elim
  | .profibus _, h => exact h.elim

theorem renews_of_linkedByMqtt (d : AdapterDevice) (a : Adapter) (h : a.LinkedByMqtt) :
    renews d a = false := by
  match a, h with
  | .mock _, h => exact h.elim
  | .opcUa _, h => exact h.elim
  | .modbus _, h => exact h.elim
  | .rest _, h => exact h.elim
  | .mqtt _, _ => rfl
  | .etherNetIp _, h => exact h.elim
  | .profinet _, h => exact h.elim
  | .profibus _, h => exact h.elim

end Adapter

/-- The runtime with the record of what was read from the adapter under a key. -/
abbrev history (key : String) :
    Machine (Runtime Adapter × Record) (Event Adapter AdapterDevice AdapterStimulus)
      Answer :=
  logged Adapter.reads Adapter.renews key

/-- In a run that leaves an adapter with a network link in place, the cache shows the
last value that was read of every signal after a cycle exactly when no value has been
forgotten with the machines that were bound before.  MQTT adapters forget none. -/
theorem lastKnown_iff {s : Runtime Adapter} {key : String} {a : Adapter}
    (ha : s.manager.find? key = some a) (hgenuine : Genuine a)
    (hnetworked : a.Networked)
    {es : List (Event Adapter AdapterDevice AdapterStimulus)}
    (hes : (runtime Adapter).Admissible (Undistorted key) es s) :
    forall before devices after, es = before ++ ⟨.pollOnce, devices⟩ :: after ->
      let t := (history key).run (before ++ [⟨.pollOnce, devices⟩]) (s, {})
      (t.1.cache.ShowsLast t.2 <-> t.2.Remembered) ∧
        ((exists m, a = .mqtt m) -> t.1.cache.ShowsLast t.2) := by
  intro before devices after hsplit t
  have hunread : forall id, ({} : Record).all id = [] := fun _ => rfl
  have hlinked := Adapter.linked_of_genuine hgenuine hnetworked
  have hstart : Tracked Adapter.Linked Adapter.machines key (s, {}) :=
    ⟨a, ha, hlinked, recorded_of_unread hunread a⟩
  rw [hsplit, Machine.admissible_append] at hes
  have hunambiguous : Unambiguous key ⟨.pollOnce, devices⟩
      ((history key).run before (s, {})).1 := by
    rw [run_logged]
    exact hes.2.1.unambiguous
  have hiff : t.1.cache.ShowsLast t.2 <-> t.2.Remembered := by
    have htracked := tracked_run Adapter.sensing Adapter.answering hes.1 hstart
    have hcycle := showsLast_pollOnce_iff Adapter.sensing hunambiguous htracked
    have hrun : t = ((history key).step ⟨.pollOnce, devices⟩
        ((history key).run before (s, {}))).2 :=
      Machine.run_append (history key) before _ (s, {})
    rw [hrun]
    exact hcycle
  refine ⟨hiff, ?_⟩
  rintro ⟨m, rfl⟩
  have hmqtt : Tracked Adapter.LinkedByMqtt Adapter.machines key (s, {}) :=
    ⟨.mqtt m, ha, hlinked, recorded_of_unread hunread _⟩
  apply hiff.mpr
  apply remembered_run (Adapter.sensing.restrict
    Adapter.stable_linkedByMqtt Adapter.linked_of_linkedByMqtt) Adapter.answering
    Adapter.renews_of_linkedByMqtt _ hmqtt rfl
  exact Machine.admissible_append.mpr ⟨hes.1, hes.2.1, trivial⟩

def faultyPump : Adapter :=
  AdapterFactory.createModbus "modbus-a"
    { equipment := [{ id := "PUMP-001", type := "Pump"
                      faultCoil := makeModbusRef 1 .coil 0 }] }

def pumpRegistered : Runtime Adapter :=
  (runtime Adapter).run [⟨.addAdapter (some faultyPump), default⟩] Runtime.empty

def answering (answers : Bool) (_ : String) : AdapterDevice :=
  let server : Libmodbus :=
    { newTcp := fun _ => true
      done := fun calls =>
        if answers || calls.head? = some .connect then .ok () else .error "timeout"
      bit := fun _ => .ok 1
      word := fun _ => .error "timeout" }
  (default, default, server, default)

/-- The fault of the pump is read, the link is lost and comes back, and is lost again
before anything is read. -/
def faultForgotten : List (Event Adapter AdapterDevice AdapterStimulus) :=
  [⟨.connectAdapter "modbus-a", answering true⟩, ⟨.pollOnce, answering true⟩,
    ⟨.pollOnce, answering false⟩, ⟨.connectAdapter "modbus-a", answering false⟩,
    ⟨.pollOnce, answering false⟩]

theorem undisturbed_faultForgotten :
    forall event, event ∈ faultForgotten -> Undisturbed "modbus-a" event := by
  intro event hevent
  simp only [faultForgotten, List.mem_cons, List.not_mem_nil, or_false] at hevent
  rcases hevent with rfl | rfl | rfl | rfl | rfl <;>
    exact ⟨by simp, by simp, by simp⟩

/-- The pump is shown without the fault that was read last. -/
theorem not_showsLast_faultForgotten :
    let t := (history "modbus-a").run faultForgotten (pumpRegistered, {})
    lastReading .fault (t.2.all "PUMP-001") = some (.fault true) ∧
      (t.1.cache.find? "PUMP-001").map EquipmentSnapshot.machineFault = some false ∧
      (forall event, event ∈ faultForgotten -> Undisturbed "modbus-a" event) ∧
      ¬ t.1.cache.ShowsLast t.2 := by
  intro t
  have hlast : lastReading .fault (t.2.all "PUMP-001") = some (.fault true) := by
    decide
  have hcached : (t.1.cache.find? "PUMP-001").map EquipmentSnapshot.machineFault =
      some false := by
    decide
  refine ⟨hlast, hcached, undisturbed_faultForgotten, ?_⟩
  intro hshows
  rcases hshows "PUMP-001" .fault _ hlast with ⟨row, hrow, hshown⟩
  rw [hrow, Option.map_some] at hcached
  have hfault : row.machineFault = true :=
    Reading.fault.inj (Option.some.inj hshown)
  rw [hfault] at hcached
  cases hcached

theorem unambiguous_of_alone {key : String} {s : Runtime Adapter} {ids : List String}
    (h : s.manager.registered.map (fun a => (adapterId a, exposedIds a)) = [(key, ids)])
    (hnodup : ids.Nodup) (event : Event Adapter AdapterDevice AdapterStimulus) :
    Unambiguous key event s := by
  intro _
  rcases List.map_eq_singleton_iff.mp h with ⟨a, halone, heq⟩
  cases heq
  have hfind : s.manager.find? (adapterId a) = some a := by
    rw [← s.manager.mem_registered_iff, halone]
    exact List.mem_cons_self
  refine ⟨a, hfind, hnodup, ?_⟩
  intro other b hb hother
  have hid := AdapterManager.adapterId_of_find? hb
  have hmem : b ∈ s.manager.registered := by
    rw [s.manager.mem_registered_iff, hid]
    exact hb
  rw [halone] at hmem
  cases List.mem_singleton.mp hmem
  exact absurd hid.symm hother

theorem lastKnown_iff_faultForgotten :
    let t := (history "modbus-a").run faultForgotten (pumpRegistered, {})
    t.1.cache.ShowsLast t.2 <-> t.2.Remembered := by
  have hundisturbed := undisturbed_faultForgotten
  have hadmissible : (runtime Adapter).Admissible (Undistorted "modbus-a")
      faultForgotten pumpRegistered :=
    ⟨⟨hundisturbed _ (by simp [faultForgotten]),
        unambiguous_of_alone rfl (by decide) _⟩,
      ⟨hundisturbed _ (by simp [faultForgotten]),
        unambiguous_of_alone rfl (by decide) _⟩,
      ⟨hundisturbed _ (by simp [faultForgotten]),
        unambiguous_of_alone rfl (by decide) _⟩,
      ⟨hundisturbed _ (by simp [faultForgotten]),
        unambiguous_of_alone rfl (by decide) _⟩,
      ⟨hundisturbed _ (by simp [faultForgotten]),
        unambiguous_of_alone rfl (by decide) _⟩, trivial⟩
  exact (lastKnown_iff rfl (Operated.created (Created.modbus _ _)) trivial hadmissible
    (faultForgotten.take 4) (answering false) [] rfl).1

end Icp
end VirtualFactory
