import VirtualFactory.Foundation.Unwinding
import VirtualFactory.Icp.Zones

/-!
# Two runs

Two runs of a runtime may differ in the zone of one adapter.  Every operation keeps
them alike in everything else.
-/

namespace VirtualFactory
namespace Icp

open Foundation IndustrialAdapter ClientIds

variable {adapter device stimulus : Type}
  [IndustrialAdapter adapter device stimulus] {z : Zones adapter}

/-- What the other adapters are told of an answer. -/
def Answer.elsewhere (key : String) : Answer -> Answer
  | .nothing => .nothing
  | .managed k result => if k = key then .nothing else .managed k result
  | .executed k result => if k = key then .nothing else .executed k result

/-- Everything that is seen of a step but the adapter under a key: the answer, all other
adapters with their machines, and the snapshots that they own. -/
structure View (adapter : Type) where
  answer : Answer
  adapters : String -> Option adapter
  snapshots : String -> Option EquipmentSnapshot

def seeElsewhere (key : String) (answer : Answer) (s : Runtime adapter) :
    View adapter where
  answer := answer.elsewhere key
  adapters k := if k = key then none else s.manager.find? k
  snapshots equipmentId :=
    (s.cache.find? equipmentId).filter (fun row => row.adapterId != key)

namespace Zones

/-!
# States that look alike
-/

def Owned (z : Zones adapter) (c : LiveStateCache) : Prop :=
  forall equipmentId row, c.find? equipmentId = some row ->
    equipmentId ∈ z.names row.adapterId

/-- Caches that differ only in the zone of one adapter. -/
structure AlikeCaches (z : Zones adapter) (key : String) (c d : LiveStateCache) :
    Prop where
  rows : forall equipmentId, equipmentId ∉ z.names key ->
    c.find? equipmentId = d.find? equipmentId
  owned : z.Owned c
  owned' : z.Owned d

/-- Runtimes that differ only in the zone of one adapter. -/
structure Alike (z : Zones adapter) (key : String) (s t : Runtime adapter) : Prop where
  tables : z.Tables key s.manager t.manager
  claims : AgreeOn (z.elsewhere key) s.clientIds t.clientIds
  caches : z.AlikeCaches key s.cache t.cache

theorem Alike.symm {key : String} {s t : Runtime adapter} (h : z.Alike key s t) :
    z.Alike key t s :=
  ⟨h.tables.symm, h.claims.symm,
    fun id hid => (h.caches.rows id hid).symm, h.caches.owned', h.caches.owned⟩

theorem alike_empty (z : Zones adapter) (key : String) :
    z.Alike key Runtime.empty Runtime.empty := by
  have howned : z.Owned LiveStateCache.empty := by
    intro equipmentId row h
    cases h
  exact ⟨Table.related_empty, agreeOn_refl _ _, fun _ _ => rfl, howned, howned⟩

theorem Alike.see_eq {key : String} {s t : Runtime adapter} (h : z.Alike key s t)
    {answer answer' : Answer} (hanswer : answer.elsewhere key = answer'.elsewhere key) :
    seeElsewhere key answer s = seeElsewhere key answer' t := by
  have hadapters : forall k,
      (if k = key then none else s.manager.find? k) =
        if k = key then none else t.manager.find? k := by
    intro k
    by_cases hk : k = key
    · rw [if_pos hk, if_pos hk]
    · rw [if_neg hk, if_neg hk]
      rcases Table.Related.find? h.tables k with ⟨hs, ht⟩ | ⟨v, w, hs, ht, hsame⟩
      · exact hs.trans ht.symm
      · exact hs.trans ((congrArg some (hsame.2.2 hk)).trans ht.symm)
  have hmine : forall (c : LiveStateCache), z.Owned c -> forall equipmentId,
      equipmentId ∈ z.names key ->
        (c.find? equipmentId).filter (fun row => row.adapterId != key) = none := by
    intro c hc equipmentId hid
    cases hrow : c.find? equipmentId with
    | none => rfl
    | some row =>
        have howner := z.namesApart _ _ _ (hc equipmentId row hrow) hid
        simp [Option.filter, howner]
  have hrows : forall equipmentId,
      (s.cache.find? equipmentId).filter (fun row => row.adapterId != key) =
        (t.cache.find? equipmentId).filter (fun row => row.adapterId != key) := by
    intro equipmentId
    by_cases hid : equipmentId ∈ z.names key
    · rw [hmine s.cache h.caches.owned equipmentId hid,
        hmine t.cache h.caches.owned' equipmentId hid]
    · rw [h.caches.rows equipmentId hid]
  unfold seeElsewhere
  rw [hanswer, funext hadapters, funext hrows]

/-!
# Operations in the zone

An operation on the one adapter in which the runs may differ changes nothing else.
-/

/-- The operations that only reach the adapter under a key. -/
inductive InZone (z : Zones adapter) (key : String) :
    Operation adapter stimulus -> Prop
  | connectAdapter : InZone z key (.connectAdapter key)
  | disconnectAdapter : InZone z key (.disconnectAdapter key)
  | execute {equipmentId command : String} {parameter : Double}
      (h : equipmentId ∈ z.names key) :
      InZone z key (.execute equipmentId command parameter)
  | stimulate {s : stimulus} : InZone z key (.stimulate key s)

theorem Alike.modify_left {key : String} {s t : Runtime adapter}
    (h : z.Alike key s t) {f : adapter -> adapter}
    (hf : forall a, adapterId (f a) = adapterId a) {ids : ClientIds}
    (hkeeps : forall a, s.manager.find? key = some a -> z.Keeps key a ->
      z.Keeps key (f a))
    (hids : AgreeOn (z.elsewhere key) ids s.clientIds) :
    z.Alike key
      { s with manager := s.manager.modify key f hf, clientIds := ids } t where
  tables := Table.Related.modify_left h.tables key
    (fun v _ hv _ hsame =>
      ⟨hkeeps v hv hsame.1, hsame.2.1, fun hk => absurd rfl hk⟩)
  claims := hids.trans h.claims
  caches := h.caches

def connectResult (a : adapter) (ok : Bool) : AdapterManagerResult :=
  if ok then ⟨true, "connected"⟩
  else ⟨false, if lastError a = "" then "connect failed" else lastError a⟩

/-- In its zone, an adapter connects as if it were alone. -/
theorem Tables.connectChecked_eq {key : String} {m n : AdapterManager adapter}
    (h : z.Tables key m n) {k : String} {a : adapter} (ha : z.Keeps k a)
    (hstate : connectionState a ≠ .connected) (d : device) (ids : ClientIds) :
    AdapterManager.connectChecked d k m a ids =
      (connectResult (connect d a ids).2.1 (connect d a ids).1,
        (connect d a ids).2) := by
  have hkeeps := stable_keeps k ⟨.connect, d⟩ a ids ha
  simp only [operate] at hkeeps
  have hchecked := AdapterManager.checked_connectChecked d k m a ids
  generalize AdapterManager.connectChecked d k m a ids = result at hchecked ⊢
  cases hchecked with
  | already hconnected => exact absurd hconnected hstate
  | refused _ hconnect =>
      rw [hconnect]
      rfl
  | collided _ hconnect hcheck =>
      rw [hconnect] at hkeeps
      cases hcheck.symm.trans (h.check_ok hkeeps)
  | connected _ hconnect =>
      rw [hconnect]
      rfl

theorem Tables.connectChecked_untouched {key : String} {m n : AdapterManager adapter}
    (h : z.Tables key m n) {k : String} {a : adapter} (ha : z.Keeps k a) (d : device)
    (ids : ClientIds) :
    AgreeOn (z.elsewhere k) (AdapterManager.connectChecked d k m a ids).2.2 ids := by
  by_cases hstate : connectionState a = .connected
  · rw [AdapterManager.connectChecked_of_connected hstate]
    exact agreeOn_refl _ ids
  · rw [h.connectChecked_eq ha hstate]
    exact ha.untouched ⟨.connect, d⟩ ids

theorem executeOn_eq (d : device) (equipmentId command : String) (parameter : Double)
    (ids : ClientIds) (a : adapter) :
    AdapterManager.executeOn d equipmentId command parameter ids a =
      (operate ⟨.execute equipmentId command parameter, d⟩ (a, ids)).2.1 := by
  unfold AdapterManager.executeOn
  cases hr : execute d a equipmentId command parameter ids with
  | none => rw [operate_execute_of_none hr]
  | some r => rw [operate_execute_of_some hr]

theorem keeps_executeOn {k : String} (d : device) (equipmentId command : String)
    (parameter : Double) (ids : ClientIds) {a : adapter} (ha : z.Keeps k a) :
    z.Keeps k (AdapterManager.executeOn d equipmentId command parameter ids a) := by
  rw [executeOn_eq]
  exact stable_keeps k _ a ids ha

theorem Alike.step_left {key : String} {s t : Runtime adapter} (h : z.Alike key s t)
    {event : Event adapter device stimulus} (hzone : z.InZone key event.operation) :
    z.Alike key (Runtime.step event s).2 t := by
  rcases event with ⟨operation, devices⟩
  cases hzone with
  | connectAdapter =>
      show z.Alike key (s.manage key (s.manager.connectAdapter _ key s.clientIds)).2 t
      cases hfind : s.manager.find? key with
      | none =>
          rw [AdapterManager.connectAdapter_of_none hfind]
          exact h
      | some a =>
          rw [AdapterManager.connectAdapter_of_some hfind]
          exact h.modify_left
            (fun b => AdapterManager.adapterId_connectChecked _ key _ b _)
            (fun b _ hb => Runtime.kept_connectChecked (stable_keeps key) _ key _ _ hb)
            (h.tables.connectChecked_untouched (h.tables.keeps hfind) _ _)
  | disconnectAdapter =>
      show z.Alike key
        (s.manage key (s.manager.disconnectAdapter _ key s.clientIds)).2 t
      cases hfind : s.manager.find? key with
      | none =>
          rw [AdapterManager.disconnectAdapter_of_none hfind]
          exact h
      | some a =>
          rw [AdapterManager.disconnectAdapter_of_some hfind]
          exact h.modify_left (fun b => id_disconnect _ b _)
            (fun b _ hb => stable_keeps key ⟨.disconnect, devices key⟩ b _ hb)
            ((h.tables.keeps hfind).untouched ⟨.disconnect, devices key⟩ _)
  | @execute equipmentId command parameter hid =>
      show z.Alike key
        { s with
          manager :=
            (s.manager.execute devices equipmentId command parameter s.clientIds).2.1
          clientIds :=
            (s.manager.execute devices equipmentId command parameter
              s.clientIds).2.2 } t
      cases hlocate : s.manager.locate equipmentId with
      | none =>
          rw [AdapterManager.execute_of_none hlocate]
          exact h
      | some found =>
          rcases found with ⟨k, e⟩
          have hk : k = key :=
            z.namesApart k key _ (h.tables.names_of_locate hlocate) hid
          subst hk
          rcases AdapterManager.find?_of_locate hlocate with ⟨a, ha, _⟩
          rw [AdapterManager.execute_of_some hlocate ha]
          cases hr : IndustrialAdapter.execute (devices k) a equipmentId command
              parameter s.clientIds with
          | none => exact h
          | some r =>
              have huntouched := (h.tables.keeps ha).untouched
                ⟨.execute equipmentId command parameter, devices k⟩ s.clientIds
              rw [operate_execute_of_some hr] at huntouched
              exact h.modify_left
                (AdapterManager.adapterId_executeOn _ _ _ _ _)
                (fun b _ hb => keeps_executeOn (devices k) _ _ _ _ hb) huntouched
  | @stimulate st =>
      exact h.modify_left (id_stimulate st)
        (fun b _ hb => stable_keeps key ⟨.stimulate st, devices key⟩ b s.clientIds hb)
        (agreeOn_refl _ _)

theorem Alike.answer_elsewhere {key : String} {s t : Runtime adapter}
    (h : z.Alike key s t) {event : Event adapter device stimulus}
    (hzone : z.InZone key event.operation) :
    (Runtime.step event s).1.elsewhere key = .nothing := by
  rcases event with ⟨operation, devices⟩
  cases hzone with
  | connectAdapter => exact if_pos rfl
  | disconnectAdapter => exact if_pos rfl
  | @execute equipmentId command parameter hid =>
      show Answer.elsewhere key
        (((s.manager.execute devices equipmentId command parameter s.clientIds).1.map
          (fun p => Answer.executed p.1 p.2)).getD .nothing) = _
      cases hlocate : s.manager.locate equipmentId with
      | none =>
          rw [AdapterManager.execute_of_none hlocate]
          rfl
      | some found =>
          rcases found with ⟨k, e⟩
          have hk : k = key :=
            z.namesApart k key _ (h.tables.names_of_locate hlocate) hid
          rcases AdapterManager.find?_of_locate hlocate with ⟨a, ha, _⟩
          rw [AdapterManager.execute_of_some hlocate ha]
          cases IndustrialAdapter.execute (devices k) a equipmentId command
              parameter s.clientIds with
          | none => rfl
          | some r => exact if_pos hk
  | stimulate => rfl

/-!
# Operations on other adapters

Operations outside the zone do the same in both runs.
-/

theorem Alike.modify_both {key k : String} {s t : Runtime adapter}
    (h : z.Alike key s t) (hk : k ≠ key) {f g : adapter -> adapter}
    (hf : forall a, adapterId (f a) = adapterId a)
    (hg : forall a, adapterId (g a) = adapterId a) {ids ids' : ClientIds}
    (hsame : forall a, z.Keeps k a -> z.Keeps k (f a) ∧ f a = g a)
    (hids : AgreeOn (z.elsewhere key) ids ids') :
    z.Alike key { s with manager := s.manager.modify k f hf, clientIds := ids }
      { t with manager := t.manager.modify k g hg, clientIds := ids' } where
  tables := by
    refine Table.Related.modify h.tables k ?_
    rintro v w _ _ ⟨hv, _, hvw⟩
    rcases hsame v hv with ⟨hkeeps, heq⟩
    rw [← hvw hk, ← heq]
    exact ⟨hkeeps, hkeeps, fun _ => rfl⟩
  claims := hids
  caches := h.caches

theorem Tables.connectChecked_agreeing {key k : String} {m n : AdapterManager adapter}
    (h : z.Tables key m n) (hk : k ≠ key) {a : adapter} (ha : z.Keeps k a) (d : device)
    {ids ids' : ClientIds} (hids : AgreeOn (z.elsewhere key) ids ids') :
    Agreeing (z.elsewhere key) (AdapterManager.connectChecked d k m a ids)
      (AdapterManager.connectChecked d k n a ids') := by
  by_cases hstate : connectionState a = .connected
  · rw [AdapterManager.connectChecked_of_connected hstate,
      AdapterManager.connectChecked_of_connected hstate]
    exact ⟨rfl, rfl, hids⟩
  · rw [h.connectChecked_eq ha hstate, h.symm.connectChecked_eq ha hstate]
    rcases ha.agreeing hk ⟨.connect, d⟩ hids with ⟨hanswer, hadapter, hclaims⟩
    have hok : (connect d a ids).1 = (connect d a ids').1 :=
      AdapterAnswer.connected.inj hanswer
    have hsame : (connect d a ids).2.1 = (connect d a ids').2.1 := hadapter
    exact ⟨by rw [hok, hsame], hsame, hclaims⟩

theorem Alike.step_connectAdapter {key k : String} {s t : Runtime adapter}
    (h : z.Alike key s t) (hk : k ≠ key) {devices devices' : String -> device}
    (hdevices : devices k = devices' k) :
    (Runtime.step ⟨.connectAdapter k, devices⟩ s).1 =
        (Runtime.step ⟨.connectAdapter k, devices'⟩ t).1 ∧
      z.Alike key (Runtime.step ⟨.connectAdapter k, devices⟩ s).2
        (Runtime.step ⟨.connectAdapter k, devices'⟩ t).2 := by
  simp only [Runtime.step, Runtime.manage, ← hdevices]
  rcases Table.Related.find? h.tables k with ⟨hs, ht⟩ | ⟨a, b, hs, ht, hsame⟩
  · rw [AdapterManager.connectAdapter_of_none hs,
      AdapterManager.connectAdapter_of_none ht]
    exact ⟨rfl, h⟩
  · cases hsame.2.2 hk
    rw [AdapterManager.connectAdapter_of_some hs,
      AdapterManager.connectAdapter_of_some ht]
    have hagreeing := fun b (hb : z.Keeps k b) =>
      h.tables.connectChecked_agreeing hk hb (devices k) h.claims
    refine ⟨by rw [(hagreeing a hsame.1).1], ?_⟩
    exact h.modify_both hk
      (fun b => AdapterManager.adapterId_connectChecked _ k _ b _)
      (fun b => AdapterManager.adapterId_connectChecked _ k _ b _)
      (fun b hb => ⟨Runtime.kept_connectChecked (stable_keeps k) _ k _ _ hb,
        (hagreeing b hb).2.1⟩) (hagreeing a hsame.1).2.2

theorem Alike.step_disconnectAdapter {key k : String} {s t : Runtime adapter}
    (h : z.Alike key s t) (hk : k ≠ key) {devices devices' : String -> device}
    (hdevices : devices k = devices' k) :
    (Runtime.step ⟨.disconnectAdapter k, devices⟩ s).1 =
        (Runtime.step ⟨.disconnectAdapter k, devices'⟩ t).1 ∧
      z.Alike key (Runtime.step ⟨.disconnectAdapter k, devices⟩ s).2
        (Runtime.step ⟨.disconnectAdapter k, devices'⟩ t).2 := by
  simp only [Runtime.step, Runtime.manage, ← hdevices]
  rcases Table.Related.find? h.tables k with ⟨hs, ht⟩ | ⟨a, b, hs, ht, hsame⟩
  · rw [AdapterManager.disconnectAdapter_of_none hs,
      AdapterManager.disconnectAdapter_of_none ht]
    exact ⟨rfl, h⟩
  · cases hsame.2.2 hk
    rw [AdapterManager.disconnectAdapter_of_some hs,
      AdapterManager.disconnectAdapter_of_some ht]
    have hagreeing := fun b (hb : z.Keeps k b) =>
      hb.agreeing hk ⟨.disconnect, devices k⟩ h.claims
    refine ⟨rfl, ?_⟩
    exact h.modify_both hk (fun b => id_disconnect _ b _) (fun b => id_disconnect _ b _)
      (fun b hb => ⟨stable_keeps k ⟨.disconnect, devices k⟩ b _ hb,
        (hagreeing b hb).2.1⟩) (hagreeing a hsame.1).2.2

theorem Alike.step_execute {key : String} {s t : Runtime adapter}
    (h : z.Alike key s t) {equipmentId : String} (hid : equipmentId ∉ z.names key)
    (command : String) (parameter : Double) {devices devices' : String -> device}
    (hdevices : forall k, k ≠ key -> devices k = devices' k) :
    (Runtime.step ⟨.execute equipmentId command parameter, devices⟩ s).1 =
        (Runtime.step ⟨.execute equipmentId command parameter, devices'⟩ t).1 ∧
      z.Alike key
        (Runtime.step ⟨.execute equipmentId command parameter, devices⟩ s).2
        (Runtime.step ⟨.execute equipmentId command parameter, devices'⟩ t).2 := by
  have hlocated := h.tables.locate_eq hid
  simp only [Runtime.step]
  cases hlocate : s.manager.locate equipmentId with
  | none =>
      rw [AdapterManager.execute_of_none hlocate,
        AdapterManager.execute_of_none (hlocated.symm.trans hlocate)]
      exact ⟨rfl, h⟩
  | some found =>
      rcases found with ⟨k, e⟩
      have hk : k ≠ key := fun hk => hid (hk ▸ h.tables.names_of_locate hlocate)
      rcases AdapterManager.find?_of_locate hlocate with ⟨a, hs, _⟩
      rcases Table.Related.find? h.tables k with ⟨hnone, _⟩ | ⟨v, w, hv, ht, hsame⟩
      · cases hnone.symm.trans hs
      · cases hv.symm.trans hs
        cases hsame.2.2 hk
        rw [AdapterManager.execute_of_some hlocate hs,
          AdapterManager.execute_of_some (hlocated.symm.trans hlocate) ht,
          ← hdevices k hk]
        -- the command has the same outcome at every adapter that keeps to its zone
        have hexecuted : forall b, z.Keeps k b ->
            AdapterManager.executeOn (devices k) equipmentId command parameter
                s.clientIds b =
              AdapterManager.executeOn (devices k) equipmentId command parameter
                t.clientIds b ∧
            Agreeing (z.elsewhere key)
              (operate ⟨.execute equipmentId command parameter, devices k⟩
                (b, s.clientIds))
              (operate ⟨.execute equipmentId command parameter, devices k⟩
                (b, t.clientIds)) := by
          intro b hb
          have hagreeing := hb.agreeing hk
            ⟨.execute equipmentId command parameter, devices k⟩ h.claims
          exact ⟨by rw [executeOn_eq, executeOn_eq, hagreeing.2.1], hagreeing⟩
        have hagreeing := (hexecuted a hsame.1).2
        cases hr : IndustrialAdapter.execute (devices k) a equipmentId command
            parameter s.clientIds with
        | none =>
            cases hq : IndustrialAdapter.execute (devices k) a equipmentId command
                parameter t.clientIds with
            | none => exact ⟨rfl, h⟩
            | some q =>
                rw [operate_execute_of_none hr, operate_execute_of_some hq]
                  at hagreeing
                cases hagreeing.1
        | some r =>
            cases hq : IndustrialAdapter.execute (devices k) a equipmentId command
                parameter t.clientIds with
            | none =>
                rw [operate_execute_of_some hr, operate_execute_of_none hq]
                  at hagreeing
                cases hagreeing.1
            | some q =>
                rw [operate_execute_of_some hr, operate_execute_of_some hq]
                  at hagreeing
                have hresult : r.1 = q.1 :=
                  Option.some.inj (AdapterAnswer.executed.inj hagreeing.1)
                refine ⟨by simp [hresult], ?_⟩
                exact h.modify_both hk
                  (AdapterManager.adapterId_executeOn _ _ _ _ _)
                  (AdapterManager.adapterId_executeOn _ _ _ _ _)
                  (fun b hb => ⟨keeps_executeOn _ _ _ _ _ hb, (hexecuted b hb).1⟩)
                  hagreeing.2.2

/-!
# Operations on the manager
-/

theorem same_self {key k : String} {a : adapter} (h : z.Keeps k a) : z.Same key k a a :=
  ⟨h, h, fun _ => rfl⟩

theorem agreeOn_destroy {key k : String} {v w : adapter} (h : z.Same key k v w)
    {d d' : device} (hd : k ≠ key -> d = d') {ids ids' : ClientIds}
    (hids : AgreeOn (z.elsewhere key) ids ids') :
    AgreeOn (z.elsewhere key) (AdapterManager.destroy d v ids)
      (AdapterManager.destroy d' w ids') := by
  exact (same_operate h hids ⟨.disconnect, d⟩ ⟨.disconnect, d'⟩
    (fun hk => by rw [hd hk])).2

theorem Alike.step_addAdapter {key : String} {s t : Runtime adapter}
    (h : z.Alike key s t) {newAdapter : Option adapter}
    (hnew : forall a, newAdapter = some a -> z.Keeps (adapterId a) a)
    {devices devices' : String -> device}
    (hdevices : forall k, k ≠ key -> devices k = devices' k) :
    (Runtime.step ⟨.addAdapter newAdapter, devices⟩ s).1 =
        (Runtime.step ⟨.addAdapter newAdapter, devices'⟩ t).1 ∧
      z.Alike key (Runtime.step ⟨.addAdapter newAdapter, devices⟩ s).2
        (Runtime.step ⟨.addAdapter newAdapter, devices'⟩ t).2 := by
  cases newAdapter with
  | none => exact ⟨rfl, h⟩
  | some a =>
      have hkeeps := hnew a rfl
      have hdestroyed : AgreeOn (z.elsewhere key)
          (AdapterManager.destroy (devices (adapterId a)) a s.clientIds)
          (AdapterManager.destroy (devices' (adapterId a)) a t.clientIds) :=
        agreeOn_destroy (same_self hkeeps) (hdevices (adapterId a)) h.claims
      simp only [Runtime.step, Runtime.manage, Option.map_some, Option.getD_some,
        AdapterManager.addAdapter]
      by_cases hempty : adapterId a = ""
      · simp only [hempty, if_true]
        rw [hempty] at hdestroyed
        exact ⟨trivial, h.tables, hdestroyed, h.caches⟩
      · rw [if_neg hempty, if_neg hempty]
        rcases Table.Related.find? h.tables (adapterId a) with
          ⟨hs, ht⟩ | ⟨v, w, hs, ht, _⟩
        · rw [dif_pos hs, dif_pos ht]
          exact ⟨rfl, Table.Related.emplace h.tables (same_self hkeeps) hs ht, h.claims,
            h.caches⟩
        · rw [dif_neg (by simp [hs]), dif_neg (by simp [ht])]
          exact ⟨rfl, h.tables, hdestroyed, h.caches⟩

theorem Alike.step_removeAdapter {key k : String} {s t : Runtime adapter}
    (h : z.Alike key s t) {devices devices' : String -> device}
    (hdevices : forall k, k ≠ key -> devices k = devices' k) :
    (Runtime.step ⟨.removeAdapter k, devices⟩ s).1 =
        (Runtime.step ⟨.removeAdapter k, devices'⟩ t).1 ∧
      z.Alike key (Runtime.step ⟨.removeAdapter k, devices⟩ s).2
        (Runtime.step ⟨.removeAdapter k, devices'⟩ t).2 := by
  simp only [Runtime.step, Runtime.manage, AdapterManager.removeAdapter]
  rcases Table.Related.find? h.tables k with ⟨hs, ht⟩ | ⟨v, w, hs, ht, hsame⟩
  · have hs' : s.manager.find? k = none := hs
    have ht' : t.manager.find? k = none := ht
    rw [hs', ht']
    exact ⟨rfl, h⟩
  · have hs' : s.manager.find? k = some v := hs
    have ht' : t.manager.find? k = some w := ht
    rw [hs', ht']
    refine ⟨rfl, Table.Related.erase h.tables k, ?_, h.caches⟩
    have hdisconnect := same_operate hsame h.claims ⟨.disconnect, devices k⟩
      ⟨.disconnect, devices' k⟩ (fun hk => by rw [hdevices k hk])
    by_cases hk : k = key
    · -- both ends of the zone are left alone, however often it is disconnected
      have huntouched : forall (a : adapter) (d : device) (ids : ClientIds),
          z.Keeps key a ->
            AgreeOn (z.elsewhere key)
              (AdapterManager.destroy d
                (if connectionState a ≠ .disconnected then disconnect d a ids
                  else (a, ids)).1
                (if connectionState a ≠ .disconnected then disconnect d a ids
                  else (a, ids)).2) ids := by
        intro a d ids ha
        split
        · exact ((stable_keeps key ⟨.disconnect, d⟩ a ids ha).untouched
            ⟨.disconnect, d⟩ _).trans (ha.untouched ⟨.disconnect, d⟩ ids)
        · exact ha.untouched ⟨.disconnect, d⟩ ids
      subst hk
      exact ((huntouched v _ _ hsame.1).trans h.claims).trans
        (huntouched w _ _ hsame.2.1).symm
    · have hvw := hsame.2.2 hk
      subst hvw
      by_cases hstate : connectionState v ≠ .disconnected
      · simp only [if_pos hstate]
        exact agreeOn_destroy hdisconnect.1 (hdevices k) hdisconnect.2
      · simp only [if_neg hstate]
        exact agreeOn_destroy hsame (hdevices k) h.claims

theorem Alike.step_disconnectAll {key : String} {s t : Runtime adapter}
    (h : z.Alike key s t) {devices devices' : String -> device}
    (hdevices : forall k, k ≠ key -> devices k = devices' k) :
    z.Alike key (Runtime.step ⟨.disconnectAll, devices⟩ s).2
      (Runtime.step ⟨.disconnectAll, devices'⟩ t).2 := by
  have hvisit := Table.Related.visit h.tables (AgreeOn (z.elsewhere key))
    (f := fun _ a ids => disconnect (devices (adapterId a)) a ids)
    (g := fun _ a ids => disconnect (devices' (adapterId a)) a ids)
    (by
      intro k v w ids ids' hsame hids
      refine same_operate hsame hids ⟨.disconnect, devices (adapterId v)⟩
        ⟨.disconnect, devices' (adapterId w)⟩ (fun hk => ?_)
      rw [hsame.1.sameId, hsame.2.1.sameId, hdevices k hk]) h.claims
  exact ⟨hvisit.1, hvisit.2, h.caches⟩

theorem Alike.step_rehash {key : String} {s t : Runtime adapter}
    (h : z.Alike key s t) (order : List String) :
    z.Alike key { s with manager := s.manager.rehash order }
      { t with manager := t.manager.rehash order } :=
  ⟨Table.Related.reorder h.tables order, h.claims, h.caches⟩

/-!
# The poll cycle
-/

theorem Keeps.visit {k : String} {a : adapter} (h : z.Keeps k a) (d : device)
    (s : Shared) :
    z.Keeps k (pollAdapterLocked d a s).1 ∧
      AgreeOn (z.elsewhere k) (pollAdapterLocked d a s).2.2 s.2 := by
  unfold pollAdapterLocked
  cases connectionState a with
  | disconnected => exact ⟨h, agreeOn_refl _ _⟩
  | faulted => exact ⟨h, agreeOn_refl _ _⟩
  | connected =>
      exact ⟨stable_keeps k ⟨.poll, d⟩ a s.2 h, h.untouched ⟨.poll, d⟩ s.2⟩

theorem Keeps.names_of_snapshotFor {k : String} {a : adapter} (h : z.Keeps k a)
    {equipmentId : String} {row : EquipmentSnapshot}
    (hrow : snapshotFor a equipmentId = some row) : equipmentId ∈ z.names k :=
  h.exposes ((snapshotFor_isSome a equipmentId).mp (by rw [hrow]; rfl))

theorem Keeps.names_of_visitShows {k : String} {a b : adapter} (h : z.Keeps k b)
    {equipmentId : String} {row : EquipmentSnapshot}
    (hrow : visitShows a b equipmentId = some row) : equipmentId ∈ z.names k := by
  unfold visitShows at hrow
  split at hrow
  · cases hrow
  · exact h.names_of_snapshotFor hrow

theorem Keeps.owned_visit {k : String} {a : adapter} (h : z.Keeps k a) (d : device)
    {s : Shared} (howned : z.Owned s.1) : z.Owned (pollAdapterLocked d a s).2.1 := by
  intro equipmentId row hrow
  rw [find?_pollAdapterLocked] at hrow
  rcases Option.or_eq_some_iff.mp hrow with hshown | ⟨_, hkept⟩
  · have hmine := (h.visit d s).1.names_of_visitShows hshown
    unfold visitShows at hshown
    split at hshown
    · cases hshown
    · rw [adapterId_of_snapshotFor hshown, (h.visit d s).1.sameId]
      exact hmine
  · rcases Option.bind_eq_some_iff.mp hkept with ⟨before, hbefore, hkeeps⟩
    rw [adapterId_of_visitKeeps hkeeps]
    exact howned equipmentId before hbefore

theorem Keeps.rows_visit {k : String} {a : adapter} (h : z.Keeps k a) (d : device)
    {s : Shared} (howned : z.Owned s.1) {equipmentId : String}
    (hid : equipmentId ∉ z.names k) :
    (pollAdapterLocked d a s).2.1.find? equipmentId = s.1.find? equipmentId := by
  rw [find?_pollAdapterLocked]
  unfold visitRow
  cases hshown : visitShows a (pollAdapterLocked d a s).1 equipmentId with
  | some row => exact absurd ((h.visit d s).1.names_of_visitShows hshown) hid
  | none =>
      rw [Option.none_or]
      cases hrow : s.1.find? equipmentId with
      | none => rfl
      | some row =>
          refine visitKeeps_of_ne (fun howner => hid ?_)
          rw [h.sameId] at howner
          rw [← howner]
          exact howned equipmentId row hrow

/-- What a poll cycle changes besides the adapters looks alike. -/
def AlikeShared (z : Zones adapter) (key : String) (s t : Shared) : Prop :=
  z.AlikeCaches key s.1 t.1 ∧ AgreeOn (z.elsewhere key) s.2 t.2

theorem alike_visit {key k : String} {v w : adapter} {s t : Shared}
    (h : z.Same key k v w) (hst : z.AlikeShared key s t) {d d' : device}
    (hd : k ≠ key -> d = d') :
    z.Same key k (pollAdapterLocked d v s).1 (pollAdapterLocked d' w t).1 ∧
      z.AlikeShared key (pollAdapterLocked d v s).2 (pollAdapterLocked d' w t).2 := by
  have hv := h.1.visit d s
  have hw := h.2.1.visit d' t
  have howned := h.1.owned_visit d hst.1.owned
  have howned' := h.2.1.owned_visit d' hst.1.owned'
  by_cases hk : k = key
  · subst hk
    refine ⟨⟨hv.1, hw.1, fun hne => absurd rfl hne⟩, ⟨fun id hid => ?_, howned, howned'⟩,
      (hv.2.trans hst.2).trans hw.2.symm⟩
    rw [h.1.rows_visit d hst.1.owned hid, h.2.1.rows_visit d' hst.1.owned' hid,
      hst.1.rows id hid]
  · cases h.2.2 hk
    cases hd hk
    have hsame : (pollAdapterLocked d v s).1 = (pollAdapterLocked d v t).1 ∧
        AgreeOn (z.elsewhere key) (pollAdapterLocked d v s).2.2
          (pollAdapterLocked d v t).2.2 := by
      unfold pollAdapterLocked
      cases connectionState v with
      | disconnected => exact ⟨rfl, hst.2⟩
      | faulted => exact ⟨rfl, hst.2⟩
      | connected => exact (h.1.agreeing hk ⟨.poll, d⟩ hst.2).2
    refine ⟨⟨hv.1, hw.1, fun _ => hsame.1⟩, ⟨fun id hid => ?_, howned, howned'⟩, hsame.2⟩
    rw [find?_pollAdapterLocked, find?_pollAdapterLocked, hsame.1, hst.1.rows id hid]

theorem Alike.step_pollOnce {key : String} {s t : Runtime adapter}
    (h : z.Alike key s t) {devices devices' : String -> device}
    (hdevices : forall k, k ≠ key -> devices k = devices' k) :
    z.Alike key (Runtime.step ⟨.pollOnce, devices⟩ s).2
      (Runtime.step ⟨.pollOnce, devices'⟩ t).2 := by
  have hshared : z.AlikeShared key (s.cache, s.clientIds) (t.cache, t.clientIds) :=
    ⟨h.caches, h.claims⟩
  have hvisit := Table.Related.visit h.tables (z.AlikeShared key)
    (f := fun _ a s => pollAdapterLocked (devices (adapterId a)) a s)
    (g := fun _ a s => pollAdapterLocked (devices' (adapterId a)) a s)
    (by
      intro k v w s t hsame hst
      refine alike_visit hsame hst (fun hk => ?_)
      rw [hsame.1.sameId, hsame.2.1.sameId, hdevices k hk]) hshared
  exact ⟨hvisit.1, hvisit.2.2, hvisit.2.1⟩

/-!
# Unwinding
-/

/-- Events that are the same for all adapters but one: the operation is the same, and
so are the other devices. -/
def SameElsewhere (key : String) (event event' : Event adapter device stimulus) :
    Prop :=
  event.operation = event'.operation ∧
    forall k, k ≠ key -> event.devices k = event'.devices k

/-- Whether an event only happens at the device of an adapter. -/
def atDevice (key : String) (event : Event adapter device stimulus) : Bool :=
  match event.operation with
  | .stimulate k _ => k == key
  | _ => false

theorem inZone_of_atDevice {key : String} {event : Event adapter device stimulus}
    (h : atDevice key event = true) : z.InZone key event.operation := by
  unfold atDevice at h
  split at h
  · rename_i k s hoperation
    rw [hoperation, eq_of_beq h]
    exact InZone.stimulate
  · cases h

/-- Every adapter that is added keeps to the zone of its identifier. -/
abbrev AddsKeeping (z : Zones adapter) (event : Event adapter device stimulus) : Prop :=
  Runtime.Adds (fun a => z.Keeps (adapterId a) a) event

theorem Alike.step_outside {key : String} {s t : Runtime adapter}
    (h : z.Alike key s t) {event event' : Event adapter device stimulus}
    (hadds : z.AddsKeeping event) (hsame : SameElsewhere key event event')
    (hzone : ¬ z.InZone key event.operation) :
    (Runtime.step event s).1 = (Runtime.step event' t).1 ∧
      z.Alike key (Runtime.step event s).2 (Runtime.step event' t).2 := by
  rcases event with ⟨operation, devices⟩
  rcases event' with ⟨operation', devices'⟩
  rcases hsame with ⟨hoperation, hdevices⟩
  have hop : operation = operation' := hoperation
  subst hop
  cases operation with
  | addAdapter newAdapter =>
      exact h.step_addAdapter (fun a ha => hadds a (by rw [ha])) hdevices
  | removeAdapter k => exact h.step_removeAdapter hdevices
  | connectAdapter k =>
      have hk : k ≠ key := fun hk => hzone (hk ▸ InZone.connectAdapter)
      exact h.step_connectAdapter hk (hdevices k hk)
  | disconnectAdapter k =>
      have hk : k ≠ key := fun hk => hzone (hk ▸ InZone.disconnectAdapter)
      exact h.step_disconnectAdapter hk (hdevices k hk)
  | disconnectAll => exact ⟨rfl, h.step_disconnectAll hdevices⟩
  | pollOnce => exact ⟨rfl, h.step_pollOnce hdevices⟩
  | execute equipmentId command parameter =>
      have hid : equipmentId ∉ z.names key := fun hid => hzone (InZone.execute hid)
      exact h.step_execute hid command parameter hdevices
  | stimulate k st =>
      have hk : k ≠ key := fun hk => hzone (hk ▸ InZone.stimulate)
      exact ⟨rfl, h.modify_both hk (id_stimulate st) (id_stimulate st)
        (fun b hb => ⟨stable_keeps k ⟨.stimulate st, devices k⟩ b s.clientIds hb, rfl⟩)
        h.claims⟩
  | rehash order => exact ⟨rfl, h.step_rehash order⟩

/-- Runs unwind in everything but the zone of one adapter. -/
theorem unwinds (z : Zones adapter) (key : String) :
    (runtime adapter).Unwinds z.AddsKeeping (atDevice key) (SameElsewhere key)
      (seeElsewhere key) (z.Alike key) where
  left event s t _ hdevice h := h.step_left (inZone_of_atDevice hdevice)
  right event s t _ hdevice h := (h.symm.step_left (inZone_of_atDevice hdevice)).symm
  both event event' s t hadds _ hsame h := by
    by_cases hzone : z.InZone key event.operation
    · have hzone' : z.InZone key event'.operation := hsame.1 ▸ hzone
      have hleft := h.step_left hzone
      have hboth := (hleft.symm.step_left hzone').symm
      have hanswer := h.answer_elsewhere hzone
      have hanswer' := h.symm.answer_elsewhere hzone'
      exact ⟨hboth.see_eq (hanswer.trans hanswer'.symm), hboth⟩
    · rcases h.step_outside hadds hsame hzone with ⟨hanswer, halike⟩
      exact ⟨halike.see_eq (congrArg _ hanswer), halike⟩

end Zones

end Icp
end VirtualFactory
