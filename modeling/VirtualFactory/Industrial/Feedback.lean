import VirtualFactory.Industrial.LibraryUse
import VirtualFactory.Industrial.PollExactness
import VirtualFactory.Industrial.Traffic

/-!
# Commands and what is read back

A source may keep what is written to it.  What a command has written there is then what
the machines show that read it, from the next poll on that completes and until another
command writes there, however often the connection is lost in between.
-/

namespace VirtualFactory

open Foundation
open IndustrialAdapter (operate operations operate_execute_of_none operate_execute_of_some)

/-- Where a driver reads the mapped signals of a machine. -/
class SignalSources (config mapping session : Type) {library : outParam Type}
    [EquipmentMapping mapping] [ProtocolDriver config mapping session library]
    [MappedSignals config mapping session] (ref : outParam Type) where
  sources : mapping -> List (SignalEntry × ref)
  read : library -> SignalEntry -> ref -> ReadStep (Link session)
  entries_sources : forall m : mapping,
    MappedSignals.entries config session m = (sources m).map Prod.fst
  plan_reads : forall (lib : library) (m : mapping) (link : Link session) steps link',
    ProtocolDriver.plan config lib m link = (some steps, link') ->
      steps = (sources m).map (fun p => read lib p.1 p.2)

/-- A place in the source of an adapter: what it holds after the calls of a session, how
a signal shows that, and which commands write to it and what. -/
structure SourceCell (mapping session ref value : Type) where
  ref : ref
  held : session -> value
  decode : SignalEntry -> value -> Option Reading
  targeted : (command : String) -> mapping -> Prop
  sent : (command : String) -> Double -> value

/-- The library keeps what is written to the cell, and nothing else changes it. -/
structure Retains (config : Type) {mapping session library ref value : Type}
    [EquipmentMapping mapping] [ProtocolDriver config mapping session library]
    [MappedSignals config mapping session] [SignalSources config mapping session ref]
    (lib : library) (cell : SourceCell mapping session ref value) : Prop where
  connect_held : forall a : ProtocolAdapter config mapping session,
    a.link.connectionState ≠ .connected ->
      cell.held (ProtocolDriver.connect lib a).2.link.session = cell.held a.link.session
  close_held : forall s : session,
    cell.held (ProtocolDriver.close config mapping s) = cell.held s
  prepare_held : forall (cfg : config) (s : session),
    cell.held (ProtocolDriver.prepare mapping cfg s) = cell.held s
  fail_session : forall link : Link session,
    (ProtocolDriver.fail config mapping link).session = link.session
  plan_held : forall (m : mapping) (x : value),
    (ProtocolDriver.plan config lib m).Keeps (fun link => cell.held link.session = x)
      (fun link => cell.held link.session = x)
  read_held : forall (entry : SignalEntry) (link : Link session) (r : Reading),
    ((SignalSources.read config mapping lib entry cell.ref).perform link).1 = some r ->
      cell.decode entry (cell.held link.session) = some r
  run_held : forall (cfg : config) (command : String) (parameter : Double) (m : mapping)
    (link : Link session), ¬ cell.targeted command m ->
      cell.held (ProtocolDriver.run lib cfg command parameter m link).2.session =
        cell.held link.session
  run_sent : forall (cfg : config) (command : String) (parameter : Double) (m : mapping)
    (link : Link session), cell.targeted command m ->
      (ProtocolDriver.run lib cfg command parameter m link).1.accepted = true ->
        cell.held (ProtocolDriver.run lib cfg command parameter m link).2.session =
          cell.sent command parameter

/-- A command that is run on a link writes where its mapping says, or nowhere. -/
theorem Link.execute_held {command session value : Type} {held : session -> value}
    {targeted : command -> Prop} {sent : value}
    {write : command -> Link session -> CommandResult × Link session}
    (hwrite : forall c link,
      (¬ targeted c -> held (write c link).2.session = held link.session) ∧
        (targeted c -> (write c link).1.accepted = true ->
          held (write c link).2.session = sent))
    (link : Link session) (mapped : Option command) :
    ((¬ exists c, mapped = some c ∧ targeted c) ->
        held (link.execute mapped write).2.session = held link.session) ∧
      ((exists c, mapped = some c ∧ targeted c) ->
        (link.execute mapped write).1.accepted = true ->
          held (link.execute mapped write).2.session = sent) := by
  constructor
  · intro hother
    unfold Link.execute runMapped
    cases link.connectionState with
    | disconnected => rfl
    | faulted => rfl
    | connected =>
        cases mapped with
        | none => rfl
        | some c => exact (hwrite c link).1 (fun htargeted => hother ⟨c, rfl, htargeted⟩)
  · rintro ⟨c, rfl, htargeted⟩ haccepted
    rcases Link.execute_of_accepted haccepted with ⟨_, d, hd, hexecute⟩
    cases hd
    rw [hexecute] at haccepted ⊢
    exact (hwrite c link).2 htargeted haccepted

/-!
# The values of a pass
-/

namespace ReadStep

theorem perform_of_readings {state : Type} {kept : state -> Prop}
    {steps : List (ReadStep state)} (hsteps : forall step, step ∈ steps -> step.Keeps kept kept)
    {s : state} (hs : kept s) {n : Nat} {r : Reading}
    (h : (readings steps s)[n]? = some r) :
    exists step s', steps[n]? = some step ∧ kept s' ∧ (step.perform s').1 = some r := by
  induction steps generalizing s n with
  | nil => cases h
  | cons step rest ih =>
      have hhead := hsteps step List.mem_cons_self s hs
      unfold readings at h
      rcases hperform : step.perform s with ⟨value, s'⟩
      rw [hperform] at h hhead
      cases value with
      | none => cases h
      | some q =>
          cases n with
          | zero =>
              cases h
              exact ⟨step, s, rfl, hs, congrArg Prod.fst hperform⟩
          | succ n =>
              rcases ih (fun d hd => hsteps d (List.mem_cons_of_mem step hd))
                (hhead.1 rfl) h with ⟨later, t, hlater, ht, hread⟩
              exact ⟨later, t, hlater, ht, hread⟩

end ReadStep

namespace ProtocolAdapter

theorem perform_of_passReadings {mapping session : Type} [EquipmentMapping mapping]
    {plan : mapping -> ReadPlan (Link session)} {kept : Link session -> Prop}
    {bs : List (BoundEquipment mapping)}
    (hplan : forall b, b ∈ bs -> (plan b.mapping).Keeps kept kept) {link : Link session}
    (hlink : kept link) {i n : Nat} {b : BoundEquipment mapping} {rs : List Reading}
    {r : Reading} (hb : bs[i]? = some b) (hrs : (passReadings plan bs link)[i]? = some rs)
    (hr : rs[n]? = some r) :
    exists before steps link' step, plan b.mapping before = (some steps, link') ∧
      steps[n]? = some step ∧ exists l, kept l ∧ (step.perform l).1 = some r := by
  induction bs generalizing link i with
  | nil => cases hb
  | cons c rest ih =>
      have hhead := hplan c List.mem_cons_self
      unfold passReadings at hrs
      cases i with
      | zero =>
          cases hb
          cases hrs
          have hstart := hhead link hlink
          unfold ReadPlan.readings at hr
          rcases hplanned : plan b.mapping link with ⟨steps, link'⟩
          rw [hplanned] at hr hstart
          cases steps with
          | none => cases hr
          | some steps =>
              rcases ReadStep.perform_of_readings hstart.2 hstart.1 hr with
                ⟨step, l, hstep, hl, hread⟩
              exact ⟨link, steps, link', step, hplanned, hstep, l, hl, hread⟩
      | succ i =>
          have hrefresh := ReadPlan.refresh_outcome hhead c.inner hlink
          have hrest : forall d, d ∈ rest -> (plan d.mapping).Keeps kept kept :=
            fun d hd => hplan d (List.mem_cons_of_mem c hd)
          have hlater : (if (c.refresh plan link).1 then
              passReadings plan rest (c.refresh plan link).2.2
            else rest.map (fun _ => []))[i]? = some rs := hrs
          split at hlater
          · rename_i hok
            exact ih hrest (hrefresh.1 hok) hb hlater
          · rw [List.getElem?_map] at hlater
            rcases Option.map_eq_some_iff.mp hlater with ⟨_, _, rfl⟩
            cases hr

open ProtocolDriver SignalSources

section

variable {config mapping session library ref value : Type} [EquipmentMapping mapping]
  [ProtocolDriver config mapping session library] [MappedSignals config mapping session]
  [SignalSources config mapping session ref]

/-!
# What an operation leaves in the cell
-/

/-- An operation runs no command that writes to the cell. -/
def Spares (cell : SourceCell mapping session ref value) (cfg : config)
    (event : AdapterEvent library Empty) : Prop :=
  match event.operation with
  | .execute equipmentId command _ =>
      forall m : mapping, m ∈ ProtocolDriver.equipment session cfg ->
        EquipmentMapping.id m = equipmentId -> ¬ cell.targeted command m
  | _ => True

variable {lib : library} {cell : SourceCell mapping session ref value}

theorem held_connect (h : Retains config lib cell)
    (a : ProtocolAdapter config mapping session) :
    cell.held (connect lib a).2.link.session = cell.held a.link.session := by
  by_cases hstate : a.link.connectionState = .connected
  · rw [connect_of_connected lib a hstate]
  · exact h.connect_held a hstate

theorem held_poll (h : Retains config lib cell)
    (a : ProtocolAdapter config mapping session) :
    cell.held (poll lib a).link.session = cell.held a.link.session := by
  have hprepare : forall s : session, cell.held s = cell.held a.link.session ->
      cell.held (prepare mapping a.config s) = cell.held a.link.session :=
    fun s hs => (h.prepare_held a.config s).trans hs
  rw [poll_eq]
  exact session_pollWith hprepare (fun b _ => h.plan_held b.mapping _) h.fail_session rfl

omit [MappedSignals config mapping session] in
theorem configured_of_boundById {a : ProtocolAdapter config mapping session}
    (hlived : a.Lived) {equipmentId : String} {b : BoundEquipment mapping}
    (h : a.boundById equipmentId = some b) :
    b.mapping ∈ ProtocolDriver.equipment session a.config ∧
      EquipmentMapping.id b.mapping = equipmentId := by
  refine ⟨mem_equipment_of_lived hlived (mem_bound_of_boundById h), ?_⟩
  have hfound : b.inner.id = equipmentId := by
    simpa using List.find?_some h
  exact b.identity.symm.trans hfound

theorem held_operate (h : Retains config lib cell) {event : AdapterEvent library Empty}
    (hevent : event.device = lib) {a : ProtocolAdapter config mapping session}
    (ids : ClientIds) (hlived : a.Lived) (hspares : Spares cell a.config event) :
    cell.held (operate event (a, ids)).2.1.link.session = cell.held a.link.session := by
  rcases event with ⟨operation, d⟩
  cases hevent
  cases operation with
  | connect => exact held_connect h a
  | disconnect =>
      show cell.held (disconnect a).link.session = _
      rw [disconnect_eq]
      exact h.close_held a.link.session
  | poll => exact held_poll h a
  | execute equipmentId command parameter =>
      rcases execute_cases d a equipmentId command parameter with
        ⟨_, hnone⟩ | ⟨b, hb, hsome⟩
      · rw [operate_execute_of_none
          (show IndustrialAdapter.execute d a equipmentId command parameter ids = none from
            congrArg (Option.map fun r => (r.1, r.2, ids)) hnone)]
      · rw [operate_execute_of_some
          (show IndustrialAdapter.execute d a equipmentId command parameter ids = some _ from
            congrArg (Option.map fun r => (r.1, r.2, ids)) hsome)]
        rcases configured_of_boundById hlived hb with ⟨hmem, hid⟩
        exact h.run_held a.config command parameter b.mapping a.link
          (hspares b.mapping hmem hid)
  | stimulate s => exact s.elim

/-- Operations that run no command on the cell leave it as it is. -/
theorem held_run (h : Retains config lib cell) {es : List (AdapterEvent library Empty)}
    {cfg : config} (hes : forall event, event ∈ es ->
      event.device = lib ∧ Spares cell cfg event)
    {s : ProtocolAdapter config mapping session × ClientIds} (hlived : s.1.Lived)
    (hconfig : s.1.config = cfg) :
    let t := (operations (ProtocolAdapter config mapping session)).run es s
    (t.1.Lived ∧ t.1.config = cfg) ∧ cell.held t.1.link.session = cell.held s.1.link.session := by
  have hstep : forall (event : AdapterEvent library Empty)
      (t : ProtocolAdapter config mapping session × ClientIds),
      (event.device = lib ∧ Spares cell cfg event) ->
        ((t.1.Lived ∧ t.1.config = cfg) ∧
            cell.held t.1.link.session = cell.held s.1.link.session) ->
          ((((operations _).step event t).2.1.Lived ∧
              ((operations _).step event t).2.1.config = cfg) ∧
            cell.held ((operations _).step event t).2.1.link.session =
              cell.held s.1.link.session) := by
    rintro event t ⟨hevent, hspares⟩ ⟨⟨hlived, rfl⟩, hheld⟩
    have hafter := lived_operate event t.2 hlived
    exact ⟨hafter, (held_operate h hevent t.2 hlived hspares).trans hheld⟩
  exact Machine.run_invariant hstep ⟨⟨hlived, hconfig⟩, rfl⟩
    (Machine.admissible_of_forall s hes)

/-!
# What a poll shows of the cell
-/

/-- When a poll completes, every machine that reads the cell last for a signal shows what
the cell holds. -/
def ShowsHeld (lib : library) (cell : SourceCell mapping session ref value) (x : value)
    (a : ProtocolAdapter config mapping session) : Prop :=
  (poll lib a).link.connectionState = .connected ->
    forall (i : Nat) (m : mapping) xs entry ys,
      (ProtocolDriver.equipment session a.config : List mapping)[i]? = some m ->
        sources config session m = xs ++ (entry, cell.ref) :: ys ->
          (forall p, p ∈ ys -> p.1.signal ≠ entry.signal) ->
            exists (e : GenericEquipment) (r : Reading),
              (poll lib a).equipment[i]? = some (some e.view) ∧
                cell.decode entry x = some r ∧ e.shown entry.signal = some r

omit [MappedSignals config mapping session] in
theorem bound_of_lived {a : ProtocolAdapter config mapping session} (h : a.Lived)
    (hstate : a.link.connectionState = .connected) :
    a.bound.map BoundEquipment.mapping = ProtocolDriver.equipment session a.config := by
  rcases h with ⟨l, hl⟩
  have hbound := hl.bound
  rw [if_pos (hl.coherent.connected (hl.sameState.symm.trans hstate))] at hbound
  exact hbound

theorem showsHeld_of_retains (h : Retains config lib cell)
    {a : ProtocolAdapter config mapping session} (hlived : a.Lived) :
    ShowsHeld lib cell (cell.held a.link.session) a := by
  intro hafter i m xs entry ys hm hsources hlast
  have hstate : a.link.connectionState = .connected := by
    by_contra hdown
    rcases hlived with ⟨l, hl⟩
    rw [hl.poll_idle lib hdown] at hafter
    exact hdown hafter
  rw [← bound_of_lived hlived hstate, List.getElem?_map] at hm
  rcases Option.map_eq_some_iff.mp hm with ⟨b, hb, rfl⟩
  rcases stored_of_connected lib (up_of_lived hlived hstate) hafter hb with
    ⟨rs, b', hrs, hb', _, hrefreshed⟩
  have hentries : mappedEntries config session b =
      xs.map Prod.fst ++ entry :: ys.map Prod.fst := by
    have hmapped : mappedEntries config session b =
        (sources config session b.mapping).map Prod.fst := entries_sources b.mapping
    rw [hmapped, hsources, List.map_append]
    rfl
  have hlater : forall d, d ∈ ys.map Prod.fst -> d.signal ≠ entry.signal := by
    intro d hd
    rcases List.mem_map.mp hd with ⟨p, hp, rfl⟩
    exact hlast p hp
  rcases hrefreshed.shows _ entry _ hentries hlater with ⟨r, hr, _, hshown⟩
  rw [List.length_map] at hr
  have hread : cell.decode entry (cell.held a.link.session) = some r := by
    have hplan : forall c, c ∈ a.bound -> (plan config lib c.mapping).Keeps
        (fun link => cell.held link.session = cell.held a.link.session)
        (fun link => cell.held link.session = cell.held a.link.session) :=
      fun c _ => h.plan_held c.mapping _
    rcases perform_of_passReadings hplan (h.prepare_held a.config a.link.session) hb hrs hr
      with ⟨_, steps, _, step, hsteps, hstep, l, hl, hperform⟩
    rw [plan_reads lib b.mapping _ steps _ hsteps, hsources, List.getElem?_map,
      List.getElem?_append_right (Nat.le_refl _), Nat.sub_self] at hstep
    cases hstep
    rw [← hl]
    exact h.read_held entry l r hperform
  refine ⟨b'.inner, r, ?_, hread, hshown⟩
  have hexposed : (poll lib a).exposedBound = (poll lib a).bound := by
    apply if_neg
    rw [hafter]
    exact fun h => ConnectionState.noConfusion h
  unfold equipment
  rw [hexposed, List.getElem?_map, hb']
  rfl

/-- Once a command on the cell is accepted, what it sent is what the machines show when a
poll completes, until another command may write there. -/
def ReadsBack (lib : library) (cell : SourceCell mapping session ref value)
    (a : ProtocolAdapter config mapping session) : Prop :=
  forall (before between : List (AdapterEvent library Empty)) (ids : ClientIds)
    (equipmentId command : String) (parameter : Double) (b : BoundEquipment mapping)
    (result : CommandResult),
    let s := (operations (ProtocolAdapter config mapping session)).run before (a, ids)
    let commanded := operate ⟨.execute equipmentId command parameter, lib⟩ s
    s.1.boundById equipmentId = some b -> cell.targeted command b.mapping ->
      commanded.1 = .executed (some result) -> result.accepted = true ->
        (forall event, event ∈ between ->
          event.device = lib ∧ Spares cell a.config event) ->
          ShowsHeld lib cell (cell.sent command parameter)
            ((operations (ProtocolAdapter config mapping session)).run between
              commanded.2).1

theorem readsBack_of_retains (h : Retains config lib cell)
    {a : ProtocolAdapter config mapping session} (hlived : a.Lived) :
    ReadsBack lib cell a := by
  intro before between ids equipmentId command parameter b result s commanded hb
    htargeted hanswer haccepted hbetween
  have hstep : forall (event : AdapterEvent library Empty)
      (t : ProtocolAdapter config mapping session × ClientIds), True ->
        (t.1.Lived ∧ t.1.config = a.config) ->
          ((operations _).step event t).2.1.Lived ∧
            ((operations _).step event t).2.1.config = a.config := by
    rintro event t _ ⟨hlived, hconfig⟩
    have hafter := lived_operate event t.2 hlived
    exact ⟨hafter.1, hafter.2.trans hconfig⟩
  have hs : s.1.Lived ∧ s.1.config = a.config :=
    Machine.run_invariant hstep ⟨hlived, rfl⟩ (Machine.admissible_true _ before (a, ids))
  have hcommanded : commanded.2.1.Lived ∧ commanded.2.1.config = a.config :=
    hstep _ s trivial hs
  have hsent : cell.held commanded.2.1.link.session = cell.sent command parameter := by
    rcases execute_cases lib s.1 equipmentId command parameter with
      ⟨hnone, _⟩ | ⟨b', hb', hsome⟩
    · cases hnone.symm.trans hb
    · cases hb'.symm.trans hb
      have hoperate := operate_execute_of_some
        (show IndustrialAdapter.execute lib s.1 equipmentId command parameter s.2 = some _ from
          congrArg (Option.map fun r => (r.1, r.2, s.2)) hsome)
      have hresult := congrArg Prod.fst hoperate
      cases (hanswer.symm.trans hresult)
      rw [show commanded = _ from hoperate]
      exact h.run_sent s.1.config command parameter b.mapping s.1.link htargeted haccepted
  rcases held_run h hbetween hcommanded.1 hcommanded.2 with ⟨hafter, hheld⟩
  rw [← hsent, ← hheld]
  exact showsHeld_of_retains h hafter.1

end

end ProtocolAdapter

end VirtualFactory
