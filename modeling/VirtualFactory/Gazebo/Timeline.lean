import VirtualFactory.Gazebo.ConveyorSystem

/-!
# The timeline of the conveyor

The plugin is a state machine over the updates of the simulation.  Its conveyor depends on
nothing but their number, and its product is the first one that was ever seen.
-/

namespace VirtualFactory

open Foundation

open EntityComponentManager LawfulEntityComponentManager

namespace ConveyorSystem

variable {store : Type} [EntityComponentManager store]

/-!
# A plugin without a belt
-/

/-- A plugin that found no belt does nothing. -/
def Inert (start : store × ConveyorSystem) : Prop :=
  forall es e,
    let s := simulation.run es start
    simulation.step e s = ([], e.others s.1, s.2)

theorem answerAll_of_none {s : ConveyorSystem} (calls : List ConveyorCall)
    (h : s.equipment = none) : s.answerAll calls = ([], s) := by
  induction calls with
  | nil => rfl
  | cons call calls ih =>
      have hanswer : s.answer call = ([], s) := by
        cases call with
        | start => simp only [answer, start, h]
        | stop => simp only [answer, stop, h]
        | setSpeed speed => simp only [answer, setSpeed, h]
      unfold answerAll
      rw [hanswer]
      dsimp only
      rw [ih]
      rfl

theorem step_of_none {s : ConveyorSystem} (e : SimulationStep store) (w : store)
    (h : s.equipment = none) : simulation.step e (w, s) = ([], e.others w, s) := by
  have hidle : s.preUpdate e.info w = ([], w, s) := by
    unfold preUpdate
    split
    · rfl
    · rw [if_pos (by rw [h]; rfl)]
  show ((s.answerAll e.calls).1 ++ ((s.answerAll e.calls).2.preUpdate e.info w).1,
    e.others ((s.answerAll e.calls).2.preUpdate e.info w).2.1,
    ((s.answerAll e.calls).2.preUpdate e.info w).2.2) = ([], e.others w, s)
  rw [answerAll_of_none e.calls h]
  dsimp only
  rw [hidle]
  rfl

theorem inert_of_none {s : ConveyorSystem} {w : store} (h : s.equipment = none) :
    Inert (w, s) := by
  have hrun : forall (es : List (SimulationStep store)) (w : store),
      (simulation.run es (w, s)).2 = s := by
    intro es
    induction es with
    | nil =>
        intro w
        rfl
    | cons e es ih =>
        intro w
        rw [Machine.run_cons, step_of_none e w h]
        exact ih _
  intro es e
  dsimp only
  have hsame := hrun es w
  generalize simulation.run es (w, s) = t at hsame
  rcases t with ⟨w', s'⟩
  cases hsame
  exact step_of_none e w' h

theorem configure_of_none {entity : Entity} {w : store}
    (h : linkByName w entity "belt" = kNullEntity) :
    (configure entity w {}).2.equipment = none := by
  unfold configure
  dsimp only
  rw [if_pos h]

/-!
# One update
-/

def tick (count : UInt64) (c : Conveyor) : Conveyor :=
  let c := if count = 1000 then c.start else c
  if count = 5000 then c.stop else c

/-- The first entity with the name of the product. -/
def productIn (ecm : store) : Option Entity :=
  ((names ecm).find? (fun entry => entry.2 = "PRODUCT-001")).map Prod.fst

def spotted (ecm : store) (product : Entity) : Entity :=
  if product = kNullEntity then (productIn ecm).getD kNullEntity else product

def timerMessages (count : UInt64) (id : String) : List ConveyorMessage :=
  (if count = 1000 then [.startAccepted id] else []) ++
    (if count = 5000 then [.stopAccepted id] else [])

theorem driveBelt_eq (c : Conveyor) (belt : Entity) (w : store) :
    driveBelt c belt w =
      setLinearVelocity belt
        ⟨if c.running then c.speed else Double.zero, Double.zero, Double.zero⟩ w := by
  unfold driveBelt
  split <;> rfl

theorem moveProduct_cases (c : Conveyor) (dt : Double) (product : Entity) (w : store) :
    (exists pose, (c.running = true ∧ product ≠ kNullEntity) ∧
        poseOf w product = some pose ∧
        moveProduct c dt product w =
          setPose product
            { pose with
              pos :=
                { pose.pos with
                  x := BinaryFloat.add pose.pos.x (BinaryFloat.mul c.speed dt) } } w) ∨
      (moveProduct c dt product w = w ∧
        (c.running = true -> product ≠ kNullEntity -> poseOf w product = none)) := by
  unfold moveProduct
  split
  · rename_i hmoves
    cases hpose : poseOf w product with
    | none => exact Or.inr ⟨rfl, fun _ _ => rfl⟩
    | some pose => exact Or.inl ⟨pose, hmoves, rfl, rfl⟩
  · rename_i hrests
    exact Or.inr ⟨rfl, fun hrunning hproduct => absurd ⟨hrunning, hproduct⟩ hrests⟩

theorem preUpdate_of_paused {info : UpdateInfo} (hpaused : info.paused = true)
    (ecm : store) (s : ConveyorSystem) :
    s.preUpdate info ecm = ([], ecm, s) :=
  if_pos hpaused

theorem visitNames_spotProduct (entries : List (Entity × String)) (s : ConveyorSystem) :
    visitNames spotProduct entries ([], s) =
      ((entries.find? (fun entry => entry.2 = "PRODUCT-001")).map Prod.fst).elim ([], s)
        (fun entity => ([.productFound entity], { s with productEntity := entity })) := by
  induction entries with
  | nil => rfl
  | cons entry entries ih =>
      unfold visitNames spotProduct
      by_cases hname : entry.2 = "PRODUCT-001"
      · rw [if_pos hname, List.find?_cons_of_pos (by rw [decide_eq_true hname])]
        rfl
      · rw [if_neg hname, List.find?_cons_of_neg (by rw [decide_eq_false hname]; decide)]
        exact ih

variable [LawfulEntityComponentManager store]

theorem findProduct_eq (w : store) (s : ConveyorSystem) :
    findProduct w s =
      if s.productEntity = kNullEntity then
        (productIn w).elim ([], s)
          (fun entity => ([.productFound entity], { s with productEntity := entity }))
      else ([], s) := by
  unfold findProduct
  rw [eachName_eq, visitNames_spotProduct]
  rfl

theorem findProduct_snd (w : store) (s : ConveyorSystem) :
    (findProduct w s).2 = { s with productEntity := spotted w s.productEntity } := by
  rw [findProduct_eq]
  unfold spotted
  split
  · rename_i hnull
    cases productIn w with
    | none =>
        show s = { s with productEntity := kNullEntity }
        rw [← hnull]
    | some entity => rfl
  · rfl

theorem findProduct_fst {w : store} {s : ConveyorSystem} {message : ConveyorMessage}
    (h : message ∈ (findProduct w s).1) : exists entity, message = .productFound entity := by
  rw [findProduct_eq] at h
  split at h
  · cases hseen : productIn w with
    | none =>
        rw [hseen] at h
        cases h
    | some entity =>
        rw [hseen] at h
        exact ⟨entity, List.mem_singleton.mp h⟩
  · cases h

theorem runTimers_eq {s : ConveyorSystem} {c : Conveyor} (h : s.equipment = some c) :
    s.runTimers =
      (timerMessages s.updateCount c.id,
        { s with equipment := some (tick s.updateCount c) }) := by
  unfold runTimers timerMessages tick start stop
  by_cases hstart : s.updateCount = 1000
  · have hstop : s.updateCount ≠ 5000 := by
      rw [hstart]
      decide
    simp [hstart, h]
  · by_cases hstop : s.updateCount = 5000
    · simp [hstop, h]
    · simp [hstart, hstop, ← h]

def updated (ecm : store) (c : Conveyor) (s : ConveyorSystem) :
    ConveyorSystem :=
  { s with
    updateCount := s.updateCount + 1
    productEntity := spotted ecm s.productEntity
    equipment := some (tick (s.updateCount + 1) c) }

def drive (c : Conveyor) (dt : Double) (s : ConveyorSystem)
    (ecm : store) : store :=
  driveBelt c s.beltEntity (moveProduct c dt s.productEntity ecm)

theorem preUpdate_eq {s : ConveyorSystem} {c : Conveyor} (h : s.equipment = some c)
    {info : UpdateInfo} (hpaused : info.paused = false) (ecm : store) :
    let t := updated ecm c s
    let c' := tick (s.updateCount + 1) c
    s.preUpdate info ecm =
      ((findProduct ecm { s with updateCount := s.updateCount + 1 }).1 ++
          (timerMessages (s.updateCount + 1) c.id ++
            heartbeat c' info.seconds (drive c' info.seconds t ecm) t),
        drive c' info.seconds t ecm, t) := by
  have hfound := findProduct_snd ecm { s with updateCount := s.updateCount + 1 }
  have htimers := runTimers_eq
    (s := { s with
      updateCount := s.updateCount + 1
      productEntity := spotted ecm s.productEntity }) h
  unfold preUpdate
  rw [if_neg (by rw [hpaused]; decide), if_neg (by rw [h]; simp)]
  dsimp only at hfound htimers ⊢
  rw [hfound, htimers]
  rfl

/-!
# What an update writes
-/

/-- The belt gets the speed of a running conveyor, and the product moves with it. -/
structure Drives (belt product : Entity) (c : Conveyor) (dt : Double)
    (w w' : store) : Prop where
  driven : velocityCmdOf w' belt =
    some ⟨if c.running then c.speed else Double.zero, Double.zero, Double.zero⟩
  otherLinks : forall entity, entity ≠ belt ->
    velocityCmdOf w' entity = velocityCmdOf w entity
  carried : c.running = true -> product ≠ kNullEntity ->
    forall pose, poseOf w product = some pose ->
      poseOf w' product = some
        { pose with
          pos :=
            { pose.pos with
              x := BinaryFloat.add pose.pos.x (BinaryFloat.mul c.speed dt) } }
  still : forall entity,
    ¬ (c.running = true ∧ product ≠ kNullEntity ∧ entity = product) ->
      poseOf w' entity = poseOf w entity
  absent : forall entity, poseOf w entity = none -> poseOf w' entity = none
  sameNames : names w' = names w
  sameLinks : linkByName w' = linkByName w

theorem drives_drive (c : Conveyor) (dt : Double) (s : ConveyorSystem) (w : store) :
    Drives s.beltEntity s.productEntity c dt w (drive c dt s w) := by
  unfold drive
  rw [driveBelt_eq]
  constructor
  case driven => exact velocityCmdOf_setLinearVelocity _ _ _
  case otherLinks =>
    intro entity hentity
    rw [velocityCmdOf_setLinearVelocity_of_ne _ _ hentity]
    rcases moveProduct_cases c dt s.productEntity w with
      ⟨pose, _, _, hmoved⟩ | ⟨hkept, _⟩
    · rw [hmoved, velocityCmdOf_setPose]
    · rw [hkept]
  case carried =>
    intro hrunning hproduct old hold
    rw [poseOf_setLinearVelocity]
    rcases moveProduct_cases c dt s.productEntity w with
      ⟨pose, _, hpose, hmoved⟩ | ⟨_, hnone⟩
    · rw [hold] at hpose
      cases hpose
      rw [hmoved]
      exact poseOf_setPose _ hold
    · rw [hnone hrunning hproduct] at hold
      cases hold
  case still =>
    intro entity hstill
    rw [poseOf_setLinearVelocity]
    rcases moveProduct_cases c dt s.productEntity w with
      ⟨pose, hmoves, _, hmoved⟩ | ⟨hkept, _⟩
    · rw [hmoved]
      exact poseOf_setPose_of_ne _ _ (fun hsame => hstill ⟨hmoves.1, hmoves.2, hsame⟩)
    · rw [hkept]
  case absent =>
    intro entity hnone
    rw [poseOf_setLinearVelocity]
    rcases moveProduct_cases c dt s.productEntity w with
      ⟨pose, _, hpose, hmoved⟩ | ⟨hkept, _⟩
    · have hother : entity ≠ s.productEntity := by
        rintro rfl
        rw [hnone] at hpose
        cases hpose
      rw [hmoved, poseOf_setPose_of_ne _ _ hother, hnone]
    · rw [hkept, hnone]
  case sameNames =>
    rw [names_setLinearVelocity]
    rcases moveProduct_cases c dt s.productEntity w with
      ⟨pose, _, _, hmoved⟩ | ⟨hkept, _⟩
    · rw [hmoved, names_setPose]
    · rw [hkept]
  case sameLinks =>
    rw [linkByName_setLinearVelocity]
    rcases moveProduct_cases c dt s.productEntity w with
      ⟨pose, _, _, hmoved⟩ | ⟨hkept, _⟩
    · rw [hmoved, linkByName_setPose]
    · rw [hkept]

/-!
# The schedule
-/

/-- Whether the conveyor runs after a number of updates.  The counter of the updates has
64 bits. -/
def Runs (n : Nat) : Prop :=
  1000 ≤ n % 2 ^ 64 ∧ n % 2 ^ 64 < 5000

instance (n : Nat) : Decidable (Runs n) :=
  inferInstanceAs (Decidable (_ ∧ _))

/-- The conveyor after a number of updates. -/
def scheduled (id : String) (n : Nat) : Conveyor :=
  if Runs n then
    { id := id
      operationalState := .running
      speed := Conveyor.kDefaultSpeedMetersPerSecond }
  else { id := id }

theorem id_scheduled (id : String) (n : Nat) : (scheduled id n).id = id := by
  unfold scheduled
  split <;> rfl

theorem running_scheduled (id : String) (n : Nat) :
    (scheduled id n).running = decide (Runs n) := by
  unfold scheduled
  split
  · rename_i hruns
    rw [decide_eq_true hruns]
    rfl
  · rename_i hruns
    rw [decide_eq_false hruns]
    rfl

/-- The updates that are not paused. -/
def updates (es : List (SimulationStep store)) : Nat :=
  es.countP (fun e => !e.info.paused)

theorem tick_scheduled (id : String) {count : UInt64} {n : Nat}
    (hcount : count.toNat = (n + 1) % 2 ^ 64) :
    tick count (scheduled id n) = scheduled id (n + 1) := by
  have hiff : forall m : UInt64, count = m <-> (n + 1) % 2 ^ 64 = m.toNat := by
    intro m
    rw [← hcount]
    exact UInt64.toNat_inj.symm
  have hstart : count = 1000 <-> (n + 1) % 2 ^ 64 = 1000 := hiff 1000
  have hstop : count = 5000 <-> (n + 1) % 2 ^ 64 = 5000 := hiff 5000
  unfold tick scheduled
  by_cases hfirst : (n + 1) % 2 ^ 64 = 1000
  · have hbefore : ¬ Runs n := by
      unfold Runs
      omega
    have hafter : Runs (n + 1) := by
      unfold Runs
      omega
    rw [if_pos (hstart.mpr hfirst), if_neg (fun h => by have := hstop.mp h; omega),
      if_neg hbefore, if_pos hafter]
    rfl
  · rw [if_neg (fun h => hfirst (hstart.mp h))]
    by_cases hlast : (n + 1) % 2 ^ 64 = 5000
    · have hbefore : Runs n := by
        unfold Runs
        omega
      have hafter : ¬ Runs (n + 1) := by
        unfold Runs
        omega
      rw [if_pos (hstop.mpr hlast), if_pos hbefore, if_neg hafter]
      rfl
    · have hsame : Runs n <-> Runs (n + 1) := by
        unfold Runs
        omega
      rw [if_neg (fun h => hlast (hstop.mp h))]
      simp only [hsame]

/-- The plugin is where the number of its updates says. -/
structure OnSchedule (belt : Entity) (id : String) (n : Nat) (s : ConveyorSystem) : Prop
    where
  equipment : s.equipment = some (scheduled id n)
  count : s.updateCount.toNat = n % 2 ^ 64
  sameBelt : s.beltEntity = belt

variable {belt : Entity} {id : String} {n : Nat} {s : ConveyorSystem}

theorem OnSchedule.next_count (h : OnSchedule belt id n s) :
    (s.updateCount + 1).toNat = (n + 1) % 2 ^ 64 := by
  rw [UInt64.toNat_add, h.count]
  show (n % 2 ^ 64 + 1) % 2 ^ 64 = (n + 1) % 2 ^ 64
  omega

theorem OnSchedule.next_iff (h : OnSchedule belt id n s) (m : UInt64) :
    s.updateCount + 1 = m <-> (n + 1) % 2 ^ 64 = m.toNat := by
  rw [← h.next_count]
  exact UInt64.toNat_inj.symm

theorem OnSchedule.update (h : OnSchedule belt id n s) {info : UpdateInfo}
    (hpaused : info.paused = false) (w : store) :
    OnSchedule belt id (n + 1) (s.preUpdate info w).2.2 := by
  rw [preUpdate_eq h.equipment hpaused]
  exact ⟨congrArg some (tick_scheduled id h.next_count), h.next_count, h.sameBelt⟩

theorem OnSchedule.run {es : List (SimulationStep store)}
    (hcalls : forall e, e ∈ es -> e.calls = [])
    (h : OnSchedule belt id n s) (w : store) :
    OnSchedule belt id (n + updates es) (simulation.run es (w, s)).2 := by
  induction es generalizing n s w with
  | nil => exact h
  | cons e es ih =>
      have hnone := hcalls e List.mem_cons_self
      have hrest := fun d hd => hcalls d (List.mem_cons_of_mem e hd)
      rw [Machine.run_cons]
      have hstep : (simulation.step e (w, s)).2.2 = (s.preUpdate e.info w).2.2 := by
        show ((answerAll e.calls s).2.preUpdate e.info w).2.2 = _
        rw [hnone]
        rfl
      cases hpaused : e.info.paused with
      | true =>
          have hidle : OnSchedule belt id n (simulation.step e (w, s)).2.2 := by
            rw [hstep, preUpdate_of_paused hpaused]
            exact h
          have hcount : updates (e :: es) = updates es :=
            List.countP_cons_of_neg (by simp [hpaused])
          rw [hcount]
          exact ih hrest hidle _
      | false =>
          have hnext : OnSchedule belt id (n + 1) (simulation.step e (w, s)).2.2 := by
            rw [hstep]
            exact h.update hpaused w
          have hcount : updates (e :: es) = updates es + 1 :=
            List.countP_cons_of_pos (by simp [hpaused])
          rw [hcount, Nat.add_comm (updates es), ← Nat.add_assoc]
          exact ih hrest hnext _

/-!
# Any run

Whatever is called from outside, the speed is never negative and the product that was found
first stays the product.
-/

/-- A configured plugin. -/
structure Sound (belt : Entity) (id : String) (s : ConveyorSystem) : Prop where
  sameBelt : s.beltEntity = belt
  equipped : exists c, s.equipment = some c ∧ c.id = id ∧ c.fault = false ∧
    BinaryFloat.lt c.speed Double.zero = false

theorem sound_answer (call : ConveyorCall) (h : Sound belt id s) :
    Sound belt id (s.answer call).2 ∧
      (s.answer call).2.productEntity = s.productEntity := by
  rcases h with ⟨hbelt, c, hc, hid, hfault, hspeed⟩
  cases call with
  | start =>
      have hresult : s.start.2 = { s with equipment := some c.start } := by
        unfold start
        rw [hc]
      show Sound belt id s.start.2 ∧ s.start.2.productEntity = s.productEntity
      rw [hresult]
      exact ⟨⟨hbelt, c.start, rfl, hid, hfault, Conveyor.speed_execute hspeed _ _⟩, rfl⟩
  | stop =>
      have hresult : s.stop.2 = { s with equipment := some c.stop } := by
        unfold stop
        rw [hc]
      show Sound belt id s.stop.2 ∧ s.stop.2.productEntity = s.productEntity
      rw [hresult]
      exact ⟨⟨hbelt, c.stop, rfl, hid, hfault, Conveyor.speed_execute hspeed _ _⟩, rfl⟩
  | setSpeed speed =>
      have hresult : (s.setSpeed speed).2 =
          { s with equipment := some (c.setSpeed speed).2 } := by
        unfold setSpeed
        rw [hc]
        dsimp only
        split <;> rename_i hset <;> rw [hset]
      show Sound belt id (s.setSpeed speed).2 ∧
        (s.setSpeed speed).2.productEntity = s.productEntity
      rw [hresult]
      rcases c.setSpeed_cases speed with ⟨_, hset⟩ | ⟨hvalid, hset⟩
      · rw [hset]
        exact ⟨⟨hbelt, c, rfl, hid, hfault, hspeed⟩, rfl⟩
      · rw [hset]
        exact ⟨⟨hbelt, _, rfl, hid, hfault, hvalid⟩, rfl⟩

theorem sound_answerAll (calls : List ConveyorCall) (h : Sound belt id s) :
    Sound belt id (s.answerAll calls).2 ∧
      (s.answerAll calls).2.productEntity = s.productEntity := by
  induction calls generalizing s with
  | nil => exact ⟨h, rfl⟩
  | cons call calls ih =>
      rcases sound_answer call h with ⟨hsound, hproduct⟩
      rcases ih hsound with ⟨hrest, hsame⟩
      exact ⟨hrest, hsame.trans hproduct⟩

theorem tick_sound (count : UInt64) {c : Conveyor}
    (hspeed : BinaryFloat.lt c.speed Double.zero = false) :
    (tick count c).id = c.id ∧ (tick count c).fault = c.fault ∧
      BinaryFloat.lt (tick count c).speed Double.zero = false := by
  have hstart : BinaryFloat.lt c.start.speed Double.zero = false :=
    Conveyor.speed_execute hspeed _ _
  have hstop : forall d : Conveyor, BinaryFloat.lt d.speed Double.zero = false ->
      BinaryFloat.lt d.stop.speed Double.zero = false :=
    fun d hd => Conveyor.speed_execute hd _ _
  unfold tick
  dsimp only
  split
  · split
    · exact ⟨rfl, rfl, hstop _ hstart⟩
    · exact ⟨rfl, rfl, hstop _ hspeed⟩
  · split
    · exact ⟨rfl, rfl, hstart⟩
    · exact ⟨rfl, rfl, hspeed⟩

theorem sound_preUpdate (info : UpdateInfo) (w : store)
    (h : Sound belt id s) : Sound belt id (s.preUpdate info w).2.2 := by
  cases hpaused : info.paused with
  | true =>
      rw [preUpdate_of_paused hpaused]
      exact h
  | false =>
      rcases h with ⟨hbelt, c, hc, hid, hfault, hspeed⟩
      rcases tick_sound (s.updateCount + 1) hspeed with ⟨hsame, hkept, hnonnegative⟩
      rw [preUpdate_eq hc hpaused]
      exact ⟨hbelt, _, rfl, hsame.trans hid, hkept.trans hfault, hnonnegative⟩

theorem sound_step (e : SimulationStep store) (w : store)
    (h : Sound belt id s) : Sound belt id (simulation.step e (w, s)).2.2 :=
  sound_preUpdate e.info w (sound_answerAll e.calls h).1

theorem sound_run (es : List (SimulationStep store)) (w : store)
    (h : Sound belt id s) : Sound belt id (simulation.run es (w, s)).2 := by
  induction es generalizing s w with
  | nil => exact h
  | cons e es ih => exact ih _ (sound_step e w h)

theorem product_step (e : SimulationStep store) (w : store)
    (h : Sound belt id s) :
    (simulation.step e (w, s)).2.2.productEntity =
      if e.info.paused then s.productEntity else spotted w s.productEntity := by
  rcases sound_answerAll e.calls h with ⟨⟨_, c, hc, _⟩, hproduct⟩
  show ((answerAll e.calls s).2.preUpdate e.info w).2.2.productEntity = _
  cases hpaused : e.info.paused with
  | true =>
      rw [preUpdate_of_paused hpaused, if_pos rfl]
      exact hproduct
  | false =>
      rw [preUpdate_eq hc hpaused, if_neg (by decide)]
      show spotted w (answerAll e.calls s).2.productEntity = _
      rw [hproduct]

theorem product_run (es : List (SimulationStep store)) (w : store)
    (h : Sound belt id s) (hproduct : s.productEntity ≠ kNullEntity) :
    (simulation.run es (w, s)).2.productEntity = s.productEntity := by
  induction es generalizing s w with
  | nil => rfl
  | cons e es ih =>
      have hstep : (simulation.step e (w, s)).2.2.productEntity = s.productEntity := by
        rw [product_step e w h]
        unfold spotted
        rw [if_neg hproduct, ite_self]
      rw [Machine.run_cons]
      exact (ih _ (sound_step e w h) (by rw [hstep]; exact hproduct)).trans hstep

/-- A product was found by an update, in what the simulation was then. -/
theorem product_found (es : List (SimulationStep store)) (w : store)
    (h : Sound belt id s) (hnone : s.productEntity = kNullEntity)
    (hproduct : (simulation.run es (w, s)).2.productEntity ≠ kNullEntity) :
    exists before e after, es = before ++ e :: after ∧ e.info.paused = false ∧
      (simulation.run before (w, s)).2.productEntity = kNullEntity ∧
      productIn (simulation.run before (w, s)).1 =
        some (simulation.run es (w, s)).2.productEntity := by
  induction es generalizing s w with
  | nil => exact absurd hnone hproduct
  | cons e es ih =>
      have hstep := product_step e w h
      by_cases hfirst : (simulation.step e (w, s)).2.2.productEntity = kNullEntity
      · rcases ih _ (sound_step e w h) hfirst hproduct with
          ⟨before, d, after, hes, hpaused, hbefore, hfound⟩
        exact ⟨e :: before, d, after, by rw [hes, List.cons_append], hpaused, hbefore,
          hfound⟩
      · have hkept : (simulation.run (e :: es) (w, s)).2.productEntity =
            (simulation.step e (w, s)).2.2.productEntity :=
          product_run es _ (sound_step e w h) hfirst
        cases hpaused : e.info.paused with
        | true =>
            rw [hstep, if_pos hpaused] at hfirst
            exact absurd hnone hfirst
        | false =>
            have hspotted : (simulation.step e (w, s)).2.2.productEntity =
                (productIn w).getD kNullEntity := by
              rw [hstep, if_neg (by rw [hpaused]; decide)]
              exact if_pos hnone
            refine ⟨[], e, es, rfl, hpaused, hnone, ?_⟩
            rw [hkept, hspotted]
            show productIn w = some ((productIn w).getD kNullEntity)
            cases hseen : productIn w with
            | none =>
                rw [hspotted, hseen] at hfirst
                exact absurd rfl hfirst
            | some entity => rfl

/-!
# The log
-/

/-- The heartbeat after a number of updates. -/
def beat (id : String) (n : Nat) (dt : Double) (productX : Option Double) :
    ConveyorHeartbeat where
  equipment := id
  type := Conveyor.type
  updates := UInt64.ofNat n
  running := decide (Runs n)
  fault := false
  dt := dt
  telemetry := [⟨"speed", (scheduled id n).speed, "m/s"⟩]
  productX := productX

/-- What the update that goes to a number of updates writes to the log.  The position of
the product is the one to which the update has moved it. -/
structure Logs (id : String) (n : Nat) (dt : Double) (product : Entity)
    (w : store) (messages : List ConveyorMessage) : Prop where
  started : forall other, .startAccepted other ∈ messages <->
    other = id ∧ n % 2 ^ 64 = 1000
  stopped : forall other, .stopAccepted other ∈ messages <->
    other = id ∧ n % 2 ^ 64 = 5000
  beats : forall line, .heartbeat line ∈ messages <->
    n % 2 ^ 64 % 100 = 0 ∧
      line = beat id n dt
        (if product ≠ kNullEntity then (poseOf w product).map (fun pose => pose.pos.x)
        else none)

omit [LawfulEntityComponentManager store] in
theorem heartbeat_eq (h : OnSchedule belt id n s) (dt : Double)
    (w : store) :
    heartbeat (scheduled id n) dt w s =
      if n % 2 ^ 64 % 100 = 0 then
        [.heartbeat (beat id n dt
          (if s.productEntity ≠ kNullEntity then
            (poseOf w s.productEntity).map (fun pose => pose.pos.x)
          else none))]
      else [] := by
  have hcount : s.updateCount = UInt64.ofNat n := by
    apply UInt64.toNat_inj.mp
    rw [h.count, UInt64.toNat_ofNat']
  have hhundred : s.updateCount % 100 = 0 <-> n % 2 ^ 64 % 100 = 0 := by
    rw [← UInt64.toNat_inj, UInt64.toNat_mod, h.count]
    exact Iff.rfl
  have hfault : (scheduled id n).fault = false := by
    unfold scheduled
    split <;> rfl
  unfold heartbeat
  simp only [hhundred]
  split
  · unfold beat
    simp only [Conveyor.view, Conveyor.telemetry, id_scheduled, running_scheduled, hfault,
      hcount]
  · rfl

theorem OnSchedule.logs (h : OnSchedule belt id n s) {info : UpdateInfo}
    (hpaused : info.paused = false) (w : store) :
    Logs id (n + 1) info.seconds (s.preUpdate info w).2.2.productEntity
      (s.preUpdate info w).2.1 (s.preUpdate info w).1 := by
  have hnext := h.update hpaused w
  have hstart : s.updateCount + 1 = 1000 <-> (n + 1) % 2 ^ 64 = 1000 := h.next_iff 1000
  have hstop : s.updateCount + 1 = 5000 <-> (n + 1) % 2 ^ 64 = 5000 := h.next_iff 5000
  rw [preUpdate_eq h.equipment hpaused] at hnext ⊢
  have hlookup : forall message,
      message ∈ (findProduct w { s with updateCount := s.updateCount + 1 }).1 ->
        exists entity, message = .productFound entity := fun _ => findProduct_fst
  have hbeat := heartbeat_eq hnext info.seconds
    (drive (scheduled id (n + 1)) info.seconds (updated w (scheduled id n) s) w)
  rw [tick_scheduled id h.next_count, id_scheduled]
  dsimp only
  rw [hbeat]
  unfold timerMessages
  simp only [hstart, hstop]
  generalize (findProduct w { s with updateCount := s.updateCount + 1 }).1 = found at hlookup
  constructor
  case started =>
    intro other
    have hother : .startAccepted other ∉ found := by
      intro hmem
      rcases hlookup _ hmem with ⟨entity, hentity⟩
      cases hentity
    simp only [List.mem_append, hother, false_or]
    split <;> split <;> split <;> simp_all
  case stopped =>
    intro other
    have hother : .stopAccepted other ∉ found := by
      intro hmem
      rcases hlookup _ hmem with ⟨entity, hentity⟩
      cases hentity
    simp only [List.mem_append, hother, false_or]
    split <;> split <;> split <;> simp_all
  case beats =>
    intro line
    have hother : .heartbeat line ∉ found := by
      intro hmem
      rcases hlookup _ hmem with ⟨entity, hentity⟩
      cases hentity
    simp only [List.mem_append, hother, false_or]
    split <;> split <;> split <;> simp_all

/-!
# The plugin in the simulation
-/

def Uncalled (es : List (SimulationStep store)) : Prop :=
  forall e, e ∈ es -> e.calls = []

/-- What the plugin of a conveyor does in every run of the simulation. -/
structure FollowsSchedule (belt : Entity) (id : String)
    (start : store × ConveyorSystem) : Prop where
  sound : forall es, Sound belt id (simulation.run es start).2
  latched : forall es more,
    (simulation.run es start).2.productEntity ≠ kNullEntity ->
      (simulation.run (es ++ more) start).2.productEntity =
        (simulation.run es start).2.productEntity
  found : forall es,
    (simulation.run es start).2.productEntity ≠ kNullEntity ->
      exists before e after, es = before ++ e :: after ∧ e.info.paused = false ∧
        (simulation.run before start).2.productEntity = kNullEntity ∧
        productIn (simulation.run before start).1 =
          some (simulation.run es start).2.productEntity
  drives : forall es (e : SimulationStep store), e.info.paused = false ->
    let s := simulation.run es start
    let r := (s.2.answerAll e.calls).2.preUpdate e.info s.1
    exists c, r.2.2.equipment = some c ∧
      Drives belt r.2.2.productEntity c e.info.seconds s.1 r.2.1
  paused : forall es (e : SimulationStep store), e.info.paused = true ->
    let s := simulation.run es start
    let called := s.2.answerAll e.calls
    simulation.step e s = (called.1, e.others s.1, called.2)
  schedule : forall es, Uncalled es ->
    (simulation.run es start).2.equipment = some (scheduled id (updates es))
  logs : forall es info, Uncalled es -> info.paused = false ->
    let s := simulation.run es start
    let r := s.2.preUpdate info s.1
    Logs id (updates es + 1) info.seconds r.2.2.productEntity r.2.1 r.1

omit [LawfulEntityComponentManager store] in
theorem configure_of_belt {entity : Entity} {w : store}
    (h : linkByName w entity "belt" ≠ kNullEntity) :
    OnSchedule (linkByName w entity "belt") (modelName w entity) 0
        (configure entity w {}).2 ∧
      Sound (linkByName w entity "belt") (modelName w entity) (configure entity w {}).2 ∧
      (configure entity w {}).2.productEntity = kNullEntity := by
  unfold configure
  dsimp only
  rw [if_neg h]
  have hstill : BinaryFloat.lt Double.zero Double.zero = false := by decide
  exact ⟨⟨rfl, rfl, rfl⟩, ⟨rfl, _, rfl, rfl, rfl, hstill⟩, rfl⟩

theorem drives_preUpdate (h : Sound belt id s) {info : UpdateInfo}
    (hpaused : info.paused = false) (w : store) :
    exists c, (s.preUpdate info w).2.2.equipment = some c ∧
      Drives belt (s.preUpdate info w).2.2.productEntity c info.seconds w
        (s.preUpdate info w).2.1 := by
  rcases h with ⟨hbelt, c, hc, _⟩
  rw [preUpdate_eq hc hpaused]
  have hdrives := drives_drive (tick (s.updateCount + 1) c) info.seconds (updated w c s) w
  have hsame : (updated w c s).beltEntity = belt := hbelt
  rw [hsame] at hdrives
  exact ⟨_, rfl, hdrives⟩

/-- In every run of the simulation, whatever the rest of it makes of the components, a
plugin that found its belt follows the schedule, and one that did not does nothing. -/
theorem conveyor_follows_schedule (entity : Entity) (w : store) :
    (linkByName w entity "belt" ≠ kNullEntity ->
        FollowsSchedule (linkByName w entity "belt") (modelName w entity)
          (w, (configure entity w {}).2)) ∧
      (linkByName w entity "belt" = kNullEntity ->
        Inert (w, (configure entity w {}).2)) := by
  constructor
  · intro hbelt
    rcases configure_of_belt hbelt with ⟨hschedule, hsound, hnone⟩
    have hrun := fun es => sound_run es w hsound
    constructor
    case sound => exact hrun
    case latched =>
      intro es more hproduct
      rw [Machine.run_append]
      exact product_run more _ (hrun es) hproduct
    case found =>
      intro es hproduct
      exact product_found es w hsound hnone hproduct
    case drives =>
      intro es e hpaused
      exact drives_preUpdate (sound_answerAll e.calls (hrun es)).1 hpaused _
    case paused =>
      intro es e hpaused s called
      have hidle := preUpdate_of_paused hpaused s.1 called.2
      show (called.1 ++ (called.2.preUpdate e.info s.1).1,
        e.others (called.2.preUpdate e.info s.1).2.1,
        (called.2.preUpdate e.info s.1).2.2) = _
      rw [hidle, List.append_nil]
    case schedule =>
      intro es hcalls
      have hreached := hschedule.run hcalls w
      rw [Nat.zero_add] at hreached
      exact hreached.equipment
    case logs =>
      intro es info hcalls hpaused
      have hreached := hschedule.run hcalls w
      rw [Nat.zero_add] at hreached
      exact hreached.logs hpaused _
  · intro hbelt
    exact inert_of_none (configure_of_none hbelt)

def startPose : Pose3d where
  pos := ⟨BinaryFloat.round binary64 true 3 (-1), Double.zero,
    BinaryFloat.round binary64 false 5 (-2)⟩
  rot := ⟨Double.one, Double.zero, Double.zero, Double.zero⟩

def factory : WorldComponents where
  names := [(1, "CV-001"), (2, "PRODUCT-001")]
  linkByName _ _ := 3
  pose entity := if entity = 2 then some startPose else none
  velocityCmd _ := none

theorem conveyor_follows_schedule_factory :
    (linkByName factory 1 "belt" = 3 ∧ modelName factory 1 = "CV-001") ∧
      FollowsSchedule 3 "CV-001" (factory, (configure 1 factory {}).2) :=
  ⟨by decide, (conveyor_follows_schedule 1 factory).1 (by decide)⟩

end ConveyorSystem

end VirtualFactory
