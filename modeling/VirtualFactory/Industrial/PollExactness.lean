import VirtualFactory.Industrial.Answers.EtherNetIp
import VirtualFactory.Industrial.Answers.Modbus
import VirtualFactory.Industrial.Answers.OpcUa
import VirtualFactory.Industrial.Answers.Rest
import VirtualFactory.Industrial.Footprint

/-!
# What exactly a poll stores

A poll reads the mapped signals of every machine in order until a read fails.  What it
leaves is said by positions: which machine, which mapped signal of it, and which value
was read there.
-/

namespace VirtualFactory

open Foundation IndustrialAdapter

/-!
# What a machine shows
-/

/-- What a machine shows after the values of some mapped signals were stored in it: for
every signal the value that was read for its last entry, and what it showed before for
the signals without an entry. -/
structure Refreshed (entries : List SignalEntry) (rs : List Reading)
    (before after : GenericEquipment) : Prop where
  reads : rs.map Reading.entry = entries
  shows : forall xs e ys, entries = xs ++ e :: ys ->
    (forall d, d ∈ ys -> d.signal ≠ e.signal) ->
      exists r, rs[xs.length]? = some r ∧ r.entry = e ∧
        after.shown e.signal = some r
  keeps : forall signal, (forall e, e ∈ entries -> e.signal ≠ signal) ->
    after.shown signal = before.shown signal

theorem refreshed_foldl_applyReading {entries : List SignalEntry}
    {rs : List Reading} (h : rs.map Reading.entry = entries)
    (e : GenericEquipment) :
    Refreshed entries rs e (rs.foldl GenericEquipment.applyReading e) := by
  subst h
  constructor
  · rfl
  · intro xs d ys hentries hlater
    rcases List.map_eq_append_iff.mp hentries with ⟨qs, ps, rfl, rfl, hps⟩
    rcases List.map_eq_cons_iff.mp hps with ⟨r, later, rfl, rfl, rfl⟩
    refine ⟨r, by simp, rfl, ?_⟩
    have hlast : lastReading r.signal later = none := by
      apply lastReading_eq_none
      intro p hp
      rw [← p.signal_entry, ← r.signal_entry]
      exact hlater p.entry (List.mem_map_of_mem hp)
    rw [GenericEquipment.shown_foldl_applyReading, lastReading_append, lastReading,
      r.signal_entry, hlast, if_pos rfl]
    rfl
  · intro signal hunmapped
    have hlast : lastReading signal rs = none := by
      apply lastReading_eq_none
      intro r hr
      rw [← r.signal_entry]
      exact hunmapped r.entry (List.mem_map_of_mem hr)
    rw [GenericEquipment.shown_foldl_applyReading, hlast]
    rfl

/-!
# Where a refresh fails
-/

namespace ReadStep

variable {state : Type}

def entry : ReadStep state -> SignalEntry
  | telemetry name unit _ => .telemetry name unit
  | .state _ => .state
  | fault _ => .fault

theorem entry_perform {step : ReadStep state} {s s' : state} {r : Reading}
    (h : step.perform s = (some r, s')) : r.entry = step.entry := by
  have hsome : (step.perform s).1 = some r := by rw [h]
  cases step with
  | telemetry name unit read =>
      rcases Option.map_eq_some_iff.mp hsome with ⟨value, _, rfl⟩
      rfl
  | state read =>
      rcases Option.map_eq_some_iff.mp hsome with ⟨value, _, rfl⟩
      rfl
  | fault read =>
      rcases Option.map_eq_some_iff.mp hsome with ⟨value, _, rfl⟩
      rfl

/-- The read at a position fails, and every read before it succeeds. -/
def FailsAt : List (ReadStep state) -> state -> Nat -> Prop
  | [], _, _ => False
  | step :: _, s, 0 => (step.perform s).1 = none
  | step :: rest, s, n + 1 =>
      (step.perform s).1 ≠ none ∧ FailsAt rest (step.perform s).2 n

theorem readings_cases (steps : List (ReadStep state)) (e : GenericEquipment)
    (s : state) :
    ((refresh steps e s).1 = true ∧
        (readings steps s).map Reading.entry = steps.map entry) ∨
      ((refresh steps e s).1 = false ∧
        exists n, FailsAt steps s n ∧
          (readings steps s).map Reading.entry = (steps.map entry).take n) := by
  induction steps generalizing e s with
  | nil => exact Or.inl ⟨rfl, rfl⟩
  | cons step rest ih =>
      rw [refresh_cons, readings]
      rcases hperform : step.perform s with ⟨value, s'⟩
      cases value with
      | none =>
          refine Or.inr ⟨rfl, 0, ?_, rfl⟩
          show (step.perform s).1 = none
          rw [hperform]
      | some r =>
          have hr := entry_perform hperform
          rcases ih (e.applyReading r) s' with ⟨hok, hrest⟩ | ⟨hfailed, n, hn, hrest⟩
          · refine Or.inl ⟨hok, ?_⟩
            rw [List.map_cons, List.map_cons, hr, hrest]
          · refine Or.inr ⟨hfailed, n + 1, ?_, ?_⟩
            · show (step.perform s).1 ≠ none ∧ FailsAt rest (step.perform s).2 n
              rw [hperform]
              exact ⟨Option.some_ne_none r, hn⟩
            · rw [List.map_cons, List.map_cons, List.take_succ_cons, hr, hrest]

theorem readings_answered {call : Type} {log : state -> List call}
    {kept : state -> Prop} {start reached : List call}
    {answers : Nat -> Option Reading -> List call -> List call -> Prop}
    {steps : List (ReadStep state)}
    (hsteps : forall (n : Nat) (step : ReadStep state), steps[n]? = some step ->
      step.Answered log kept (answers n) start reached)
    (e : GenericEquipment) {s : state} (hs : kept s) (hreached : reached <:+ log s) :
    kept (refresh steps e s).2.2 ∧ log s <:+ log (refresh steps e s).2.2 ∧
      (forall n r, (readings steps s)[n]? = some r ->
        During start (log (refresh steps e s).2.2) (answers n (some r))) ∧
      forall n, FailsAt steps s n ->
        During start (log (refresh steps e s).2.2) (answers n none) := by
  induction steps generalizing answers e s with
  | nil =>
      refine ⟨hs, List.suffix_refl _, fun n r hr => ?_, fun n hn => hn.elim⟩
      rw [readings] at hr
      cases hr
  | cons step rest ih =>
      rcases hsteps 0 step rfl s hs hreached with ⟨hkept, hmade, hanswer⟩
      rw [refresh_cons, readings]
      rcases hperform : step.perform s with ⟨value, s'⟩
      rw [hperform] at hkept hmade hanswer
      cases value with
      | none =>
          refine ⟨hkept, hmade, ?_, ?_⟩
          · intro n r hr
            cases hr
          · intro n hn
            cases n with
            | zero => exact hanswer
            | succ n =>
                have hread : (step.perform s).1 ≠ none := hn.1
                rw [hperform] at hread
                exact absurd rfl hread
      | some r =>
          have hlater : forall (n : Nat) (d : ReadStep state), rest[n]? = some d ->
              d.Answered log kept (answers (n + 1)) start reached :=
            fun n d hd => hsteps (n + 1) d hd
          have hrest := ih hlater (e.applyReading r) hkept (hreached.trans hmade)
          refine ⟨hrest.1, hmade.trans hrest.2.1, ?_, ?_⟩
          · intro n q hq
            cases n with
            | zero =>
                cases hq
                exact hanswer.widen (List.suffix_refl _) hrest.2.1
            | succ n => exact hrest.2.2.1 n q hq
          · intro n hn
            cases n with
            | zero =>
                have hfailed : (step.perform s).1 = none := hn
                rw [hperform] at hfailed
                cases hfailed
            | succ n =>
                have hfailed : FailsAt rest (step.perform s).2 n := hn.2
                rw [hperform] at hfailed
                exact hrest.2.2.2 n hfailed

end ReadStep

/-- The refresh of a plan fails at a read, or before its reads are known. -/
def ReadPlan.FailsAt {state : Type} (plan : ReadPlan state) (s : state) (n : Nat) :
    Prop :=
  match plan s with
  | (none, _) => n = 0
  | (some steps, s') => ReadStep.FailsAt steps s' n

theorem ReadPlan.readings_cases {state : Type} {plan : ReadPlan state}
    {entries : List SignalEntry} {s : state}
    (hplan : forall steps s', plan s = (some steps, s') ->
      steps.map ReadStep.entry = entries)
    (e : GenericEquipment) :
    ((plan.refresh e s).1 = true ∧
        (plan.readings s).map Reading.entry = entries) ∨
      ((plan.refresh e s).1 = false ∧
        exists n, plan.FailsAt s n ∧
          (plan.readings s).map Reading.entry = entries.take n) := by
  unfold refresh readings FailsAt
  rcases hs : plan s with ⟨steps, s'⟩
  cases steps with
  | none => exact Or.inr ⟨rfl, 0, rfl, rfl⟩
  | some steps =>
      rw [← hplan steps s' hs]
      exact ReadStep.readings_cases steps e s'

theorem ReadPlan.readings_answered {state call : Type} {log : state -> List call}
    {kept : state -> Prop}
    {answers : Nat -> Option Reading -> List call -> List call -> Prop}
    {plan : ReadPlan state} (hplan : plan.Answered log kept answers)
    (e : GenericEquipment) {s : state} (hs : kept s) :
    kept (plan.refresh e s).2.2 ∧ log s <:+ log (plan.refresh e s).2.2 ∧
      (forall n r, (plan.readings s)[n]? = some r ->
        During (log s) (log (plan.refresh e s).2.2) (answers n (some r))) ∧
      forall n, plan.FailsAt s n ->
        During (log s) (log (plan.refresh e s).2.2) (answers n none) := by
  rcases hplan s hs with ⟨hkept, hmade, hnone, hsteps⟩
  unfold refresh readings FailsAt
  rcases hplanned : plan s with ⟨steps, s'⟩
  rw [hplanned] at hkept hmade hnone hsteps
  cases steps with
  | none =>
      refine ⟨hkept, hmade, ?_, ?_⟩
      · intro n r hr
        cases hr
      · rintro n rfl
        exact hnone rfl
  | some steps =>
      have hread := ReadStep.readings_answered (fun n step => hsteps steps n step rfl) e
        hkept (List.suffix_refl _)
      exact ⟨hread.1, hmade.trans hread.2.1, hread.2.2⟩

/-!
# Where a pass over the machines fails
-/

def ReadsAt (rss : List (List Reading)) (i : Nat) (entries : List SignalEntry) :
    Prop :=
  exists rs, rss[i]? = some rs ∧ rs.map Reading.entry = entries

namespace ProtocolAdapter

section Pass

variable {mapping session : Type} [EquipmentMapping mapping]
  {plan : mapping -> ReadPlan (Link session)}

/-- The refresh of the machine at a position fails at one of its reads, and every
refresh before it succeeds. -/
def PassFailsAt (plan : mapping -> ReadPlan (Link session)) :
    List (BoundEquipment mapping) -> Link session -> Nat -> Nat -> Prop
  | [], _, _, _ => False
  | b :: _, link, 0, n => (plan b.mapping).FailsAt link n
  | b :: rest, link, k + 1, n =>
      (b.refresh plan link).1 = true ∧
        PassFailsAt plan rest (b.refresh plan link).2.2 k n

def ReadsAll (entries : mapping -> List SignalEntry)
    (bs : List (BoundEquipment mapping)) (rss : List (List Reading)) : Prop :=
  forall i b, bs[i]? = some b -> ReadsAt rss i (entries b.mapping)

/-- The values of a pass that fails at a read of the machine at a position. -/
structure ReadsUntil (entries : mapping -> List SignalEntry)
    (bs : List (BoundEquipment mapping)) (rss : List (List Reading))
    (k n : Nat) (b : BoundEquipment mapping) : Prop where
  failing : bs[k]? = some b
  before : forall i c, i < k -> bs[i]? = some c -> ReadsAt rss i (entries c.mapping)
  reads : ReadsAt rss k ((entries b.mapping).take n)
  after : forall i c, k < i -> bs[i]? = some c -> ReadsAt rss i []

theorem passReadings_cases {entries : mapping -> List SignalEntry}
    (hplan : forall m link steps link', plan m link = (some steps, link') ->
      steps.map ReadStep.entry = entries m)
    (bs : List (BoundEquipment mapping)) (link : Link session) :
    ((updateUntilFailure (BoundEquipment.refresh plan) bs link).1 = true ∧
        ReadsAll entries bs (passReadings plan bs link)) ∨
      ((updateUntilFailure (BoundEquipment.refresh plan) bs link).1 = false ∧
        exists k n b, PassFailsAt plan bs link k n ∧
          ReadsUntil entries bs (passReadings plan bs link) k n b) := by
  induction bs generalizing link with
  | nil => exact Or.inl ⟨rfl, fun i b hb => by cases hb⟩
  | cons b rest ih =>
      have hb := ReadPlan.readings_cases (hplan b.mapping link) b.inner
      rcases hrefresh : b.refresh plan link with ⟨ok, b', link'⟩
      have hok : ((plan b.mapping).refresh b.inner link).1 = ok :=
        congrArg Prod.fst hrefresh
      unfold updateUntilFailure passReadings
      rw [hrefresh]
      rw [hok] at hb
      rcases hb with ⟨rfl, hread⟩ | ⟨rfl, n, hn, hread⟩
      · have hcons : forall i c (rss : List (List Reading)), (b :: rest)[i]? = some c ->
            (forall j, i = j + 1 -> rest[j]? = some c ->
              ReadsAt rss j (entries c.mapping)) ->
              ReadsAt ((plan b.mapping).readings link :: rss) i
                (entries c.mapping) := by
          intro i c rss hc hrest
          cases i with
          | zero =>
              cases hc
              exact ⟨_, rfl, hread⟩
          | succ j => exact hrest j rfl hc
        rcases ih link' with ⟨hall, hreads⟩ | ⟨hfailed, k, n, c, hk, huntil⟩
        · refine Or.inl ⟨hall, fun i c hc => hcons i c _ hc ?_⟩
          intro j _ hj
          exact hreads j c hj
        · refine Or.inr ⟨hfailed, k + 1, n, c, ?_, ?_⟩
          · show (b.refresh plan link).1 = true ∧
              PassFailsAt plan rest (b.refresh plan link).2.2 k n
            rw [hrefresh]
            exact ⟨rfl, hk⟩
          · constructor
            · exact huntil.failing
            · intro i d hi hd
              refine hcons i d _ hd ?_
              intro j hij hj
              exact huntil.before j d (by omega) hj
            · exact huntil.reads
            · intro i d hi hd
              cases i with
              | zero => omega
              | succ j => exact huntil.after j d (by omega) hd
      · refine Or.inr ⟨rfl, 0, n, b, hn, ?_⟩
        constructor
        · rfl
        · intro i c hi
          omega
        · exact ⟨_, rfl, hread⟩
        · intro i c hi hc
          cases i with
          | zero => omega
          | succ j =>
              refine ⟨[], ?_, rfl⟩
              show (rest.map (fun _ => []))[j]? = some []
              have hj : rest[j]? = some c := hc
              rw [List.getElem?_map, hj]
              rfl

/-- The values of a pass are the answers to its reads, machine by machine. -/
theorem passReadings_answered {call : Type} {log : Link session -> List call}
    {kept : Link session -> Prop}
    {answers : mapping -> Nat -> Option Reading -> List call -> List call -> Prop}
    (hplan : forall m, (plan m).Answered log kept (answers m))
    (bs : List (BoundEquipment mapping)) (link : Link session) (hlink : kept link) :
    let finish := log (updateUntilFailure (BoundEquipment.refresh plan) bs link).2.2
    log link <:+ finish ∧
      (forall (i : Nat) (b : BoundEquipment mapping) (rs : List Reading) (n : Nat)
        (r : Reading), bs[i]? = some b -> (passReadings plan bs link)[i]? = some rs ->
          rs[n]? = some r -> During (log link) finish (answers b.mapping n (some r))) ∧
      forall (k n : Nat) (b : BoundEquipment mapping), PassFailsAt plan bs link k n ->
        bs[k]? = some b -> During (log link) finish (answers b.mapping n none) := by
  induction bs generalizing link with
  | nil =>
      refine ⟨List.suffix_refl _, ?_, fun k n b hk => hk.elim⟩
      intro i b rs n r hb
      cases hb
  | cons b rest ih =>
      have hread := ReadPlan.readings_answered (hplan b.mapping) b.inner hlink
      rcases hrefresh : b.refresh plan link with ⟨ok, b', link'⟩
      have hafter : ((plan b.mapping).refresh b.inner link).2.2 = link' :=
        congrArg (fun r => r.2.2) hrefresh
      unfold updateUntilFailure passReadings
      rw [hrefresh]
      rw [hafter] at hread
      rcases hread with ⟨hkept, hmade, hvalues, hfailed⟩
      cases ok with
      | false =>
          refine ⟨hmade, ?_, ?_⟩
          · intro i c rs n r hc hrs hr
            cases i with
            | zero =>
                cases hc
                cases hrs
                exact hvalues n r hr
            | succ i =>
                have hnone : (rest.map (fun _ => ([] : List Reading)))[i]? = some rs := hrs
                rw [List.getElem?_map] at hnone
                rcases Option.map_eq_some_iff.mp hnone with ⟨_, _, rfl⟩
                cases hr
          · intro k n c hk hc
            cases k with
            | zero =>
                cases hc
                exact hfailed n hk
            | succ k =>
                have hok : (b.refresh plan link).1 = true := hk.1
                rw [hrefresh] at hok
                cases hok
      | true =>
          rcases ih link' hkept with ⟨hlater, hrest, hrestFailed⟩
          refine ⟨hmade.trans hlater, ?_, ?_⟩
          · intro i c rs n r hc hrs hr
            cases i with
            | zero =>
                cases hc
                cases hrs
                exact (hvalues n r hr).widen (List.suffix_refl _) hlater
            | succ i => exact (hrest i c rs n r hc hrs hr).widen hmade (List.suffix_refl _)
          · intro k n c hk hc
            cases k with
            | zero =>
                cases hc
                exact (hfailed n hk).widen (List.suffix_refl _) hlater
            | succ k =>
                have hnext : PassFailsAt plan rest (b.refresh plan link).2.2 k n := hk.2
                rw [hrefresh] at hnext
                exact (hrestFailed k n c hnext hc).widen hmade (List.suffix_refl _)

theorem entry_mem_of_passReadings {entries : mapping -> List SignalEntry}
    (hplan : forall m link steps link', plan m link = (some steps, link') ->
      steps.map ReadStep.entry = entries m)
    {bs : List (BoundEquipment mapping)} {link : Link session} {i : Nat}
    {b : BoundEquipment mapping} {rs : List Reading} (hb : bs[i]? = some b)
    (hrs : (passReadings plan bs link)[i]? = some rs) {r : Reading} (hr : r ∈ rs) :
    r.entry ∈ entries b.mapping := by
  have hpart : forall part : List SignalEntry, part ⊆ entries b.mapping ->
      ReadsAt (passReadings plan bs link) i part -> r.entry ∈ entries b.mapping := by
    intro part hsub hreads
    rcases hreads with ⟨qs, hqs, hentries⟩
    rw [hrs] at hqs
    cases hqs
    apply hsub
    rw [← hentries]
    exact List.mem_map_of_mem hr
  rcases passReadings_cases hplan bs link with ⟨_, hall⟩ | ⟨_, k, n, c, _, huntil⟩
  · exact hpart _ (List.Subset.refl _) (hall i b hb)
  · rcases Nat.lt_trichotomy i k with hi | rfl | hi
    · exact hpart _ (List.Subset.refl _) (huntil.before i b hi hb)
    · have hsame : c = b := Option.some.inj (huntil.failing.symm.trans hb)
      subst hsame
      exact hpart _ (List.take_subset n _) huntil.reads
    · exact hpart [] (List.nil_subset _) (huntil.after i b hi hb)

end Pass

end ProtocolAdapter

/-!
# What a poll leaves
-/

/-- The mapped signals of a machine: its telemetry points in order, and then its
running state and its machine fault if they are mapped. -/
def signalEntries (telemetry : List (String × String)) (state fault : Bool) :
    List SignalEntry :=
  telemetry.map (fun p => .telemetry p.1 p.2) ++
    ((if state then [.state] else []) ++ (if fault then [.fault] else []))

theorem ReadStep.entries_signalSteps {state : Type}
    (telemetry : List (TelemetryRead state))
    (running fault : Option (state -> Option Bool × state)) :
    (signalSteps telemetry running fault).map entry =
      signalEntries (telemetry.map (fun p => (p.name, p.unit))) running.isSome
        fault.isSome := by
  have hpoints : (telemetry.map (fun p => ReadStep.telemetry p.name p.unit p.read)).map
      entry = (telemetry.map (fun p => (p.name, p.unit))).map
        (fun p => SignalEntry.telemetry p.1 p.2) := by
    rw [List.map_map, List.map_map]
    rfl
  unfold signalSteps signalEntries
  rw [List.map_append, hpoints]
  cases running <;> cases fault <;> rfl

/-- The mapped signals of the machines of a driver, which are what its plans read. -/
class MappedSignals (config mapping session : Type) {library : outParam Type}
    [EquipmentMapping mapping] [ProtocolDriver config mapping session library] where
  entries : mapping -> List SignalEntry
  entries_plan : forall (lib : library) (m : mapping) (link : Link session) steps link',
    ProtocolDriver.plan config lib m link = (some steps, link') ->
      steps.map ReadStep.entry = entries m

namespace ProtocolAdapter

variable {config mapping session library : Type} [EquipmentMapping mapping]
  [ProtocolDriver config mapping session library]

/-- The values that a poll reads for each bound machine. -/
def pollReadings (lib : library) (a : ProtocolAdapter config mapping session) :
    List (List Reading) :=
  passReadings (ProtocolDriver.plan config lib) a.bound
    { a.link with session := ProtocolDriver.prepare mapping a.config a.link.session }

/-- A poll fails at a read of the machine at a position. -/
def PollFailsAt (lib : library) (a : ProtocolAdapter config mapping session)
    (k n : Nat) : Prop :=
  PassFailsAt (ProtocolDriver.plan config lib) a.bound
    { a.link with session := ProtocolDriver.prepare mapping a.config a.link.session }
    k n

/-- A machine stores the values of some entries, which a poll reads at its position. -/
def StoredAt (lib : library) (a : ProtocolAdapter config mapping session)
    (i : Nat) (b : BoundEquipment mapping) (entries : List SignalEntry) : Prop :=
  exists rs b', (pollReadings lib a)[i]? = some rs ∧
    (ProtocolDriver.poll lib a).bound[i]? = some b' ∧ b'.mapping = b.mapping ∧
      Refreshed entries rs b.inner b'.inner

theorem getElem?_bound_poll (lib : library)
    {a : ProtocolAdapter config mapping session}
    (h : a.link.connectionState = .connected) {i : Nat} {b : BoundEquipment mapping}
    {rs : List Reading} (hb : a.bound[i]? = some b)
    (hrs : (pollReadings lib a)[i]? = some rs) :
    (ProtocolDriver.poll lib a).bound[i]? = some (b.store rs) := by
  unfold pollReadings at hrs
  rw [(poll_of_connected lib h).2.2.1, List.getElem?_zipWith, hb, hrs]

theorem storedAt_of_readsAt (lib : library)
    {a : ProtocolAdapter config mapping session}
    (h : a.link.connectionState = .connected) {i : Nat} {b : BoundEquipment mapping}
    (hb : a.bound[i]? = some b) {entries : List SignalEntry}
    (hreads : ReadsAt (pollReadings lib a) i entries) :
    StoredAt lib a i b entries := by
  rcases hreads with ⟨rs, hrs, hentries⟩
  exact ⟨rs, b.store rs, hrs, getElem?_bound_poll lib h hb hrs, rfl,
    refreshed_foldl_applyReading hentries b.inner⟩

theorem bound_poll_of_readsAt_nil (lib : library)
    {a : ProtocolAdapter config mapping session}
    (h : a.link.connectionState = .connected) {i : Nat}
    (hreads : forall b, a.bound[i]? = some b -> ReadsAt (pollReadings lib a) i []) :
    (ProtocolDriver.poll lib a).bound[i]? = a.bound[i]? := by
  cases hb : a.bound[i]? with
  | none =>
      rw [(poll_of_connected lib h).2.2.1, List.getElem?_zipWith, hb]
  | some b =>
      rcases hreads b hb with ⟨rs, hrs, hnone⟩
      rw [List.map_eq_nil_iff.mp hnone] at hrs
      exact getElem?_bound_poll lib h hb hrs

variable [MappedSignals config mapping session]

def mappedEntries (config session : Type) {library : Type}
    [ProtocolDriver config mapping session library]
    [MappedSignals config mapping session] (b : BoundEquipment mapping) :
    List SignalEntry :=
  MappedSignals.entries config session b.mapping

/-- The values of a poll, machine by machine, and where it ends. -/
theorem poll_stores (lib : library) {a : ProtocolAdapter config mapping session}
    (h : a.link.Up (ProtocolDriver.isOpen config mapping)) :
    ((ProtocolDriver.poll lib a).link.connectionState = .connected ∧
        forall i b, a.bound[i]? = some b ->
          StoredAt lib a i b (mappedEntries config session b)) ∨
      ((ProtocolDriver.poll lib a).link.connectionState = .faulted ∧
        exists k n b, PollFailsAt lib a k n ∧ a.bound[k]? = some b ∧
          (forall i c, i < k -> a.bound[i]? = some c ->
            StoredAt lib a i c (mappedEntries config session c)) ∧
          StoredAt lib a k b ((mappedEntries config session b).take n) ∧
          forall i, k < i -> (ProtocolDriver.poll lib a).bound[i]? = a.bound[i]?) := by
  have hpass : ((pass lib a).1 = true ∧
        ReadsAll (MappedSignals.entries config session) a.bound (pollReadings lib a)) ∨
      ((pass lib a).1 = false ∧
        exists k n b, PollFailsAt lib a k n ∧
          ReadsUntil (MappedSignals.entries config session) a.bound
            (pollReadings lib a) k n b) :=
    passReadings_cases (MappedSignals.entries_plan lib) a.bound _
  rcases link_poll_of_up lib h with ⟨hok, hup⟩ | ⟨hfailed, hdown⟩
  · rcases hpass with ⟨_, hall⟩ | ⟨hfailed, _⟩
    · exact Or.inl ⟨hup.connected, fun i b hb =>
        storedAt_of_readsAt lib h.connected hb (hall i b hb)⟩
    · rw [hok] at hfailed
      cases hfailed
  · rcases hpass with ⟨hok, _⟩ | ⟨_, k, n, b, hfails, huntil⟩
    · rw [hok] at hfailed
      cases hfailed
    · have hpart := storedAt_of_readsAt lib h.connected huntil.failing huntil.reads
      refine Or.inr ⟨hdown.faulted, k, n, b, hfails, huntil.failing, ?_, hpart, ?_⟩
      · intro i c hi hc
        exact storedAt_of_readsAt lib h.connected hc (huntil.before i c hi hc)
      · intro i hi
        exact bound_poll_of_readsAt_nil lib h.connected
          (fun c hc => huntil.after i c hi hc)

theorem stored_of_connected (lib : library) {a : ProtocolAdapter config mapping session}
    (h : a.link.Up (ProtocolDriver.isOpen config mapping))
    (hafter : (ProtocolDriver.poll lib a).link.connectionState = .connected) {i : Nat}
    {b : BoundEquipment mapping} (hb : a.bound[i]? = some b) :
    StoredAt lib a i b (mappedEntries config session b) := by
  rcases poll_stores lib h with ⟨_, hall⟩ | ⟨hfaulted, _⟩
  · exact hall i b hb
  · rw [hfaulted] at hafter
    cases hafter

/-!
# What the library has answered
-/

section Answers

variable {call : Type} [SignalAnswers config mapping session call]

/-- During a poll the library is asked for the mapped signal of a machine at a position,
and answers with a value or without one. -/
def AnsweredBy (lib : library) (a : ProtocolAdapter config mapping session)
    (m : mapping) (n : Nat) (value : Option Reading) : Prop :=
  During (SignalAnswers.calls config mapping a.link.session)
    (SignalAnswers.calls config mapping (ProtocolDriver.poll lib a).link.session)
    (SignalAnswers.Answers config lib a.link.session m n value)

/-- A poll refreshes the given entries of the machine at a position: the machine shows
what the library has answered for them. -/
def RefreshedAt (lib : library) (a : ProtocolAdapter config mapping session)
    (i : Nat) (b : BoundEquipment mapping) (entries : List SignalEntry) : Prop :=
  exists rs b', (ProtocolDriver.poll lib a).bound[i]? = some b' ∧
    b'.mapping = b.mapping ∧ Refreshed entries rs b.inner b'.inner ∧
      forall n r, rs[n]? = some r -> AnsweredBy lib a b.mapping n (some r)

omit [MappedSignals config mapping session] in
/-- The values of a poll are what the library answers during the poll. -/
theorem poll_answered (lib : library) {a : ProtocolAdapter config mapping session}
    (h : a.link.Up (ProtocolDriver.isOpen config mapping)) :
    (forall (i : Nat) (b : BoundEquipment mapping) (rs : List Reading) (n : Nat)
        (r : Reading), a.bound[i]? = some b -> (pollReadings lib a)[i]? = some rs ->
          rs[n]? = some r -> AnsweredBy lib a b.mapping n (some r)) ∧
      forall (k n : Nat) (b : BoundEquipment mapping), PollFailsAt lib a k n ->
        a.bound[k]? = some b -> AnsweredBy lib a b.mapping n none := by
  have hplan : forall m : mapping, (ProtocolDriver.plan config lib m).Answered
      (fun link : Link session => SignalAnswers.calls config mapping link.session)
      (fun link => SignalAnswers.Serves config mapping a.link.session link.session)
      (SignalAnswers.Answers config lib a.link.session m) :=
    fun m => SignalAnswers.plan_answered lib a.link.session m
  have hpass := passReadings_answered hplan a.bound
    { a.link with session := ProtocolDriver.prepare mapping a.config a.link.session }
    (SignalAnswers.serves_prepare a.config a.link.session h.sessionOpen)
  have hfinish : SignalAnswers.calls config mapping
      (ProtocolDriver.poll lib a).link.session =
        SignalAnswers.calls config mapping (pass lib a).2.2.session := by
    rw [ProtocolDriver.poll_eq]
    unfold pollWith
    rw [if_neg (not_not.mpr h.connected)]
    show SignalAnswers.calls config mapping (if (pass lib a).1 then (pass lib a).2.2
      else ProtocolDriver.fail config mapping (pass lib a).2.2).session = _
    split
    · rfl
    · exact SignalAnswers.calls_fail _
  unfold AnsweredBy
  rw [hfinish, ← SignalAnswers.calls_prepare a.config a.link.session]
  exact hpass.2

omit [MappedSignals config mapping session] in
theorem StoredAt.refreshed {lib : library} {a : ProtocolAdapter config mapping session}
    (hup : a.link.Up (ProtocolDriver.isOpen config mapping)) {i : Nat}
    {b : BoundEquipment mapping} {entries : List SignalEntry}
    (hb : a.bound[i]? = some b) (h : StoredAt lib a i b entries) :
    RefreshedAt lib a i b entries := by
  rcases h with ⟨rs, b', hrs, hb', hmapping, hrefreshed⟩
  exact ⟨rs, b', hb', hmapping, hrefreshed,
    fun n r => (poll_answered lib hup).1 i b rs n r hb hrs⟩

/-- A poll refreshes every machine completely, or it faults the adapter at one read that
the library answers without a value: the machines before are refreshed completely, the
machine of the read up to it, and the machines after it not at all. -/
structure PollExact (lib : library) (a : ProtocolAdapter config mapping session) :
    Prop where
  ends : (ProtocolDriver.poll lib a).link.connectionState ≠ .disconnected
  connected : (ProtocolDriver.poll lib a).link.connectionState = .connected ->
    forall i b, a.bound[i]? = some b ->
      RefreshedAt lib a i b (mappedEntries config session b)
  faulted : (ProtocolDriver.poll lib a).link.connectionState = .faulted ->
    exists k n b, a.bound[k]? = some b ∧ AnsweredBy lib a b.mapping n none ∧
      (forall i c, i < k -> a.bound[i]? = some c ->
        RefreshedAt lib a i c (mappedEntries config session c)) ∧
      RefreshedAt lib a k b ((mappedEntries config session b).take n) ∧
      forall i, k < i -> (ProtocolDriver.poll lib a).bound[i]? = a.bound[i]?

theorem pollExact (lib : library) {a : ProtocolAdapter config mapping session}
    (h : a.link.Up (ProtocolDriver.isOpen config mapping)) : PollExact lib a := by
  rcases poll_stores lib h with
    ⟨hconnected, hall⟩ | ⟨hfaulted, k, n, b, hfails, hb, hbefore, hpart, hafter⟩
  · constructor
    · rw [hconnected]
      exact ConnectionState.noConfusion
    · intro _ i b hb
      exact (hall i b hb).refreshed h hb
    · intro hstate
      rw [hconnected] at hstate
      cases hstate
  · constructor
    · rw [hfaulted]
      exact ConnectionState.noConfusion
    · intro hstate
      rw [hfaulted] at hstate
      cases hstate
    · intro _
      exact ⟨k, n, b, hb, (poll_answered lib h).2 k n b hfails hb,
        fun i c hi hc => (hbefore i c hi hc).refreshed h hc, hpart.refreshed h hb, hafter⟩

end Answers

/-!
# Runs
-/

/-- No machine shows a telemetry point that is not mapped. -/
def ShowsMapped (a : ProtocolAdapter config mapping session) : Prop :=
  forall b, b ∈ a.bound -> forall name r, b.inner.shown (.telemetry name) = some r ->
    r.entry ∈ mappedEntries config session b

theorem showsMapped_poll (lib : library) {a : ProtocolAdapter config mapping session}
    (hstate : a.link.connectionState = .connected) (h : a.ShowsMapped) :
    (ProtocolDriver.poll lib a).ShowsMapped := by
  intro b' hb' name r hshown
  rcases List.mem_iff_getElem?.mp hb' with ⟨i, hi⟩
  rw [(poll_of_connected lib hstate).2.2.1] at hi
  rcases List.getElem?_zipWith_eq_some.mp hi with ⟨b, rs, hb, hrs, rfl⟩
  have hstored : (b.store rs).inner.shown (.telemetry name) =
      (lastReading (.telemetry name) rs).or (b.inner.shown (.telemetry name)) :=
    GenericEquipment.shown_foldl_applyReading rs b.inner _
  rw [hstored] at hshown
  cases hlast : lastReading (.telemetry name) rs with
  | none =>
      rw [hlast] at hshown
      exact h b (List.mem_of_getElem? hb) name r hshown
  | some q =>
      rw [hlast] at hshown
      cases hshown
      exact entry_mem_of_passReadings (MappedSignals.entries_plan lib) hb hrs
        (lastReading_mem hlast)

theorem showsMapped_connect (lib : library)
    {a : ProtocolAdapter config mapping session} (h : a.ShowsMapped) :
    (ProtocolDriver.connect lib a).2.ShowsMapped := by
  by_cases hstate : a.link.connectionState = .connected
  · rw [ProtocolDriver.connect_of_connected lib a hstate]
    exact h
  · rcases ProtocolDriver.connect_cases lib a hstate with ⟨_, hopened⟩ | ⟨_, hrefused⟩
    · intro b hb name r hshown
      rw [hopened.bound] at hb
      rcases List.mem_map.mp hb with ⟨m, _, rfl⟩
      have hfresh : (BoundEquipment.bind m).inner.shown (.telemetry name) = none :=
        GenericEquipment.shown_bind _ _ _ _ _
      rw [hfresh] at hshown
      cases hshown
    · intro b hb
      rw [hrefused.bound] at hb
      exact h b hb

theorem stable_showsMapped :
    Stable (ShowsMapped : ProtocolAdapter config mapping session -> Prop) := by
  rintro ⟨operation, lib⟩ a ids h
  cases operation with
  | connect => exact showsMapped_connect lib h
  | disconnect =>
      intro b hb
      have hnone : (ProtocolDriver.disconnect a).bound = [] := by
        rw [ProtocolDriver.disconnect_eq]
        rfl
      have hmem : b ∈ (ProtocolDriver.disconnect a).bound := hb
      rw [hnone] at hmem
      cases hmem
  | poll =>
      show (ProtocolDriver.poll lib a).ShowsMapped
      by_cases hstate : a.link.connectionState = .connected
      · exact showsMapped_poll lib hstate h
      · rw [ProtocolDriver.poll_eq]
        unfold pollWith
        rw [if_pos hstate]
        split
        · exact h
        · exact h
  | execute equipmentId command parameter =>
      rcases execute_cases lib a equipmentId command parameter with
        ⟨_, hnone⟩ | ⟨b, _, hsome⟩
      · rw [operate_execute_of_none (Option.map_eq_none_iff.mpr hnone)]
        exact h
      · rw [operate_execute_of_some (Option.map_eq_some_iff.mpr ⟨_, hsome, rfl⟩)]
        exact h
  | stimulate s => exact s.elim

variable {call : Type} [SignalAnswers config mapping session call]

/-- Along every run of an adapter: a connected adapter has bound the configured machines
in their order, its polls are exact, the polls of any other adapter change nothing, and
telemetry has only mapped points. -/
structure PollsExactly (cfg : config)
    (start : ProtocolAdapter config mapping session) : Prop where
  configured : forall es ids,
    let a := ((operations _).run es (start, ids)).1
    connectionState a = .connected ->
      a.bound.map BoundEquipment.mapping = ProtocolDriver.equipment session cfg
  polled : forall es ids lib,
    let a := ((operations _).run es (start, ids)).1
    connectionState a = .connected -> PollExact lib a
  idle : forall es ids lib,
    let a := ((operations _).run es (start, ids)).1
    connectionState a ≠ .connected -> ProtocolDriver.poll lib a = a
  named : forall es ids b p,
    b ∈ ((operations _).run es (start, ids)).1.bound -> p ∈ b.inner.telemetry ->
      SignalEntry.telemetry p.name p.unit ∈ mappedEntries config session b

theorem Represents.pollsExactly {cfg : config}
    {start : ProtocolAdapter config mapping session}
    (h : start.Represents cfg {}) (hmapped : start.ShowsMapped) :
    PollsExactly cfg start := by
  have hrun := fun es ids => (refines_lifecycle cfg).run es
    (s := (start, ids)) (x := {}) h
  constructor
  · intro es ids a hstate
    rcases hrun es ids with ⟨l, _, hl⟩
    have hopened := hl.coherent.connected (hl.sameState.symm.trans hstate)
    have hbound := hl.bound
    rw [if_pos hopened] at hbound
    exact hbound
  · intro es ids lib a hstate
    rcases hrun es ids with ⟨l, _, hl⟩
    exact pollExact lib (hl.connected (hl.sameState.symm.trans hstate))
  · intro es ids lib a hstate
    rcases hrun es ids with ⟨l, _, hl⟩
    exact hl.poll_idle lib hstate
  · intro es ids b p hb hp
    have hkept : ((operations _).run es (start, ids)).1.ShowsMapped :=
      (operations (ProtocolAdapter config mapping session)).run_invariant
        (fun event s _ hs => stable_showsMapped event s.1 s.2 hs) hmapped
        ((operations _).admissible_true es (start, ids))
    exact hkept b hb p.name _ (GenericEquipment.shown_of_mem_telemetry hp)

end ProtocolAdapter

/-!
# The four protocols
-/

theorem isSome_ite {value : Type} (condition : Prop) [Decidable condition]
    (x : value) : (if condition then some x else none).isSome = decide condition := by
  split
  · rename_i h
    exact (decide_eq_true h).symm
  · rename_i h
    exact (decide_eq_false h).symm

instance : MappedSignals ModbusAdapterConfig ModbusEquipmentMapping
    ModbusTcpSession where
  entries m :=
    signalEntries (m.telemetry.map (fun point => (point.name, point.unit)))
      m.stateCoil.mapped m.faultCoil.mapped
  entries_plan lib m link steps link' h := by
    cases h
    unfold ModbusIndustrialAdapter.refreshSteps
    rw [ReadStep.entries_signalSteps, isSome_ite, isSome_ite, List.map_map]
    simp only [Bool.decide_eq_true]
    rfl

instance : MappedSignals OpcUaAdapterConfig OpcUaEquipmentMapping
    UaClientHandle where
  entries m :=
    signalEntries (m.telemetry.map (fun point => (point.name, point.unit)))
      (m.stateNode.identifier ≠ "") (m.faultNode.identifier ≠ "")
  entries_plan lib m link steps link' h := by
    cases h
    unfold OpcUaIndustrialAdapter.refreshSteps
    rw [ReadStep.entries_signalSteps, isSome_ite, isSome_ite, List.map_map]
    rfl

instance : MappedSignals EtherNetIpAdapterConfig EtherNetIpEquipmentMapping
    EipSession where
  entries m :=
    signalEntries (m.telemetry.map (fun point => (point.name, point.unit)))
      m.state.mapped m.fault.mapped
  entries_plan lib m link steps link' h := by
    cases h
    have hpoints : m.telemetry.zipIdx.map (fun p => (p.1.name, p.1.unit)) =
        m.telemetry.map (fun point => (point.name, point.unit)) := by
      conv => rhs; rw [← List.zipIdx_map_fst 0 m.telemetry, List.map_map]
      rfl
    unfold EtherNetIpIndustrialAdapter.refreshSteps
    rw [ReadStep.entries_signalSteps, isSome_ite, isSome_ite, List.map_map]
    simp only [Bool.decide_eq_true]
    rw [← hpoints]
    rfl

theorem RestIndustrialAdapter.entries_decodeSteps (text : TextLib)
    (m : RestEquipmentMapping) (doc : Json) :
    (decodeSteps text m doc).map ReadStep.entry =
      signalEntries (m.telemetry.map (fun point => (point.name, point.unit)))
        (m.statePointer ≠ "") (m.faultPointer ≠ "") := by
  unfold decodeSteps
  rw [ReadStep.entries_signalSteps, isSome_ite, isSome_ite, List.map_map]
  rfl

/-- Without a path, a machine has a plan only if nothing of it is mapped. -/
instance : MappedSignals RestAdapterConfig RestEquipmentMapping HttpSession where
  entries m :=
    signalEntries (m.telemetry.map (fun point => (point.name, point.unit)))
      (m.statePointer ≠ "") (m.faultPointer ≠ "")
  entries_plan lib m link steps link' h := by
    replace h : RestIndustrialAdapter.refreshPlan lib.text lib.curl m link =
      (some steps, link') := h
    unfold RestIndustrialAdapter.refreshPlan at h
    split at h
    · split at h
      · rename_i hnothing
        cases h
        simp only [Bool.and_eq_true, List.isEmpty_iff, beq_iff_eq] at hnothing
        rcases hnothing with ⟨⟨htelemetry, hstate⟩, hfault⟩
        rw [htelemetry, hstate, hfault]
        rfl
      · cases h
    · split at h
      · cases h
      · split at h
        · cases h
        · cases h
          exact RestIndustrialAdapter.entries_decodeSteps _ m _

namespace ProtocolAdapter

end ProtocolAdapter

end VirtualFactory
