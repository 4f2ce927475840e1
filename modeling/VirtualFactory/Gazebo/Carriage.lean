import VirtualFactory.Gazebo.Timeline

/-!
# The way of the product

The product is moved by sums of rounded products.  While nothing else moves it, it is where
the speed of the conveyor and the simulated time say, but for the roundings.
-/

namespace VirtualFactory

open Foundation

namespace UpdateInfo

/-- The way of one update at the speed of the development test. -/
def travel (dt : Int) : Double :=
  BinaryFloat.mul Conveyor.kDefaultSpeedMetersPerSecond (seconds { dt := dt })

end UpdateInfo

namespace ConveyorSystem

open UpdateInfo (travel)
open EntityComponentManager

variable {store : Type} [EntityComponentManager store]

/-!
# The updates that move the product
-/

/-- The lengths of the updates in which the conveyor runs, after a number of updates. -/
def moving : Nat -> List (SimulationStep store) -> List Int
  | _, [] => []
  | n, e :: es =>
      if e.info.paused then moving n es
      else if Runs (n + 1) then e.info.dt :: moving (n + 1) es
      else moving (n + 1) es

/-- The rest of the simulation leaves an entity where it is. -/
def LeavesAlone (product : Entity) (es : List (SimulationStep store)) : Prop :=
  forall e, e ∈ es -> forall w, poseOf (e.others w) product = poseOf w product

variable [LawfulEntityComponentManager store]

variable {belt product : Entity} {id : String} {n : Nat} {s : ConveyorSystem}
  {w : store} {pose : Pose3d}

def along (pose : Pose3d) (x : Double) : Pose3d :=
  { pose with pos := { pose.pos with x := x } }

theorem pose_preUpdate (h : OnSchedule belt id n s) (hproduct : s.productEntity = product)
    (hnull : product ≠ kNullEntity) {info : UpdateInfo} (hpaused : info.paused = false)
    (hpose : poseOf w product = some pose) :
    poseOf (s.preUpdate info w).2.1 product =
      some (if Runs (n + 1) then along pose (BinaryFloat.add pose.pos.x (travel info.dt))
        else pose) := by
  have hkept : spotted w s.productEntity = product := by
    unfold spotted
    rw [hproduct, if_neg hnull]
  rw [preUpdate_eq h.equipment hpaused, tick_scheduled id h.next_count]
  have hdrives := drives_drive (scheduled id (n + 1)) info.seconds
    (updated w (scheduled id n) s) w
  have hsame : (updated w (scheduled id n) s).productEntity = product := hkept
  rw [hsame] at hdrives
  dsimp only
  split
  · rename_i hruns
    have hrunning : (scheduled id (n + 1)).running = true := by
      rw [running_scheduled, decide_eq_true hruns]
    have hspeed : (scheduled id (n + 1)).speed = Conveyor.kDefaultSpeedMetersPerSecond := by
      unfold scheduled
      rw [if_pos hruns]
    rw [hdrives.carried hrunning hnull pose hpose, hspeed]
    rfl
  · rename_i hruns
    rw [hdrives.still product, hpose]
    intro hmoves
    rw [running_scheduled, decide_eq_false hruns] at hmoves
    cases hmoves.1

/-- The product goes the ways of the updates in which the conveyor runs. -/
theorem pose_run {es : List (SimulationStep store)} (h : OnSchedule belt id n s)
    (hsound : Sound belt id s) (hproduct : s.productEntity = product)
    (hnull : product ≠ kNullEntity) (hcalls : Uncalled es)
    (hothers : LeavesAlone product es) (hpose : poseOf w product = some pose) :
    poseOf (simulation.run es (w, s)).1 product =
      some (along pose
        (((moving n es).map travel).foldl BinaryFloat.add pose.pos.x)) := by
  induction es generalizing n s w pose with
  | nil => exact hpose
  | cons e es ih =>
      have hnone := hcalls e List.mem_cons_self
      have hrest : Uncalled es := fun d hd => hcalls d (List.mem_cons_of_mem e hd)
      have hothers' : LeavesAlone product es :=
        fun d hd => hothers d (List.mem_cons_of_mem e hd)
      have hstep : simulation.step e (w, s) =
          ((s.preUpdate e.info w).1, e.others (s.preUpdate e.info w).2.1,
            (s.preUpdate e.info w).2.2) := by
        show ((s.answerAll e.calls).1 ++ ((s.answerAll e.calls).2.preUpdate e.info w).1, _,
          _) = _
        rw [hnone]
        rfl
      have hsound' := sound_step e w hsound
      have hproduct' : (simulation.step e (w, s)).2.2.productEntity = product :=
        (product_run [e] w hsound (by rw [hproduct]; exact hnull)).trans hproduct
      have halone := hothers e List.mem_cons_self (s.preUpdate e.info w).2.1
      rw [Machine.run_cons]
      rw [hstep] at hsound' hproduct' ⊢
      cases hpaused : e.info.paused with
      | true =>
          have hidle := preUpdate_of_paused hpaused w s
          have hmoving : moving n (e :: es) = moving n es := if_pos hpaused
          rw [hmoving]
          rw [hidle] at halone hsound' hproduct' ⊢
          exact ih h hsound' hproduct' hrest hothers' (halone.trans hpose)
      | false =>
          have hmoved := pose_preUpdate h hproduct hnull hpaused hpose
          have hnext := h.update hpaused w
          have hmoving : moving n (e :: es) =
              if Runs (n + 1) then e.info.dt :: moving (n + 1) es
              else moving (n + 1) es := if_neg (by rw [hpaused]; decide)
          rw [hmoving]
          have hcarried := ih hnext hsound' hproduct' hrest hothers' (halone.trans hmoved)
          dsimp only
          rw [hcarried]
          split
          · rfl
          · rfl

/-!
# The roundings
-/

/-- The way of an update without roundings. -/
def way (dt : Int) : Rat :=
  dt / 2000000000

/-- The roundings of the way of an update that takes a second at most. -/
def travelError : Rat :=
  1 / 2 ^ 53

theorem value_defaultSpeed :
    Conveyor.kDefaultSpeedMetersPerSecond.value = some (1 / 2) := by
  have hfinite : Conveyor.kDefaultSpeedMetersPerSecond =
      .finite false (2 ^ 52) (-53) (by decide) := by decide +kernel
  rw [hfinite]
  show some (BinaryFloat.ratOf false (2 ^ 52) (-53)) = some (1 / 2)
  norm_num [BinaryFloat.ratOf]

/-- An update that takes a second at most moves the product by its way. -/
theorem travel_close {dt : Int} (hpast : 0 ≤ dt) (hsecond : dt ≤ 1000000000) :
    exists m, (travel dt).value = some m ∧ |m - way dt| ≤ travelError ∧ 0 ≤ m := by
  have hprecision : 0 < binary64.precision := by decide
  have hrange : binary64.emin ≤ binary64.emax := by decide
  have hlength : (Double.ofInt dt).value = some (dt : Rat) :=
    BinaryFloat.value_ofInt (by decide) (by decide) (by
      show dt.natAbs < 2 ^ 53
      omega)
  have hunit : (Double.ofInt 1000000000).value = some ((1000000000 : Int) : Rat) :=
    BinaryFloat.value_ofInt (by decide) (by decide) (by decide)
  have hpast' : (0 : Rat) ≤ dt := by exact_mod_cast hpast
  have hsecond' : (dt : Rat) ≤ 1000000000 := by exact_mod_cast hsecond
  -- the seconds
  rcases BinaryFloat.div_eq_ofRat hlength hunit (by norm_num) with ⟨a, hdiv⟩
  push_cast at hdiv
  have hquotient : (0 : Rat) ≤ dt / 1000000000 := div_nonneg hpast' (by norm_num)
  have hquotient' : (dt : Rat) / 1000000000 ≤ 1 := by
    rw [div_le_one (by norm_num)]
    exact hsecond'
  have hbelow : |(dt : Rat) / 1000000000| < 2 ^ (1 : Int) := by
    rw [abs_of_nonneg hquotient]
    norm_num
    linarith
  rcases BinaryFloat.ofRat_error hprecision hrange (by decide) a hbelow with
    ⟨t, ht, hseconds⟩
  have hnonneg := BinaryFloat.ofRat_nonneg hprecision hrange hquotient ht
  rw [← hdiv] at ht
  have hplace : BinaryFloat.halfPlace binary64 1 = 1 / 2 ^ 53 := by
    norm_num [BinaryFloat.halfPlace, binary64]
  rw [hplace] at hseconds
  rcases abs_le.mp hseconds with ⟨hlow, hhigh⟩
  -- the meters
  rcases BinaryFloat.mul_eq_ofRat value_defaultSpeed ht with ⟨b, hmul⟩
  have hhalf : |1 / 2 * t| < 2 ^ (0 : Int) := by
    rw [abs_of_nonneg (by linarith)]
    norm_num at hhigh ⊢
    linarith
  rcases BinaryFloat.ofRat_error hprecision hrange (by decide) b hhalf with
    ⟨m, hm, hmeters⟩
  have hforward := BinaryFloat.ofRat_nonneg hprecision hrange
    (by linarith : (0 : Rat) ≤ 1 / 2 * t) hm
  rw [← hmul] at hm
  have hplace' : BinaryFloat.halfPlace binary64 0 = 1 / 2 ^ 54 := by
    norm_num [BinaryFloat.halfPlace, binary64]
  rw [hplace'] at hmeters
  rcases abs_le.mp hmeters with ⟨hlow', hhigh'⟩
  refine ⟨m, hm, ?_, hforward⟩
  have hway : way dt = 1 / 2 * (dt / 1000000000) := by
    unfold way
    ring
  unfold travelError
  rw [hway, abs_le]
  norm_num at hlow hhigh hlow' hhigh' ⊢
  constructor <;> linarith

/-- The roundings of a number of updates, for positions below a power of two. -/
def positionError (k : Int) (updates : Nat) : Rat :=
  updates * (travelError + BinaryFloat.halfPlace binary64 k)

theorem sum_way (ds : List Int) : (ds.map way).sum = way ds.sum := by
  induction ds with
  | nil => simp [way]
  | cons d ds ih =>
      rw [List.map_cons, List.sum_cons, ih, List.sum_cons]
      unfold way
      push_cast
      ring

theorem travel_sum {ds : List Int}
    (hsteps : forall dt, dt ∈ ds -> 0 ≤ dt ∧ dt ≤ 1000000000) {x : Double} {r : Rat}
    (hx : x.value = some r) {k : Int} (hk : k ≤ 1023)
    (hroom : |r| + way ds.sum + positionError k ds.length < 2 ^ k) :
    exists r', ((ds.map travel).foldl BinaryFloat.add x).value = some r' ∧ r ≤ r' ∧
      |r' - (r + way ds.sum)| ≤ positionError k ds.length := by
  have hprecision : 0 < binary64.precision := by decide
  have hrange : binary64.emin ≤ binary64.emax := by decide
  have hk' : k + 1 ≤ binary64.emax + binary64.precision := by
    show k + 1 ≤ 971 + (53 : Nat)
    omega
  have hclose : List.Forall₂ (BinaryFloat.Approximates travelError) (ds.map travel)
      (ds.map way) := by
    rw [List.forall₂_map_left_iff, List.forall₂_map_right_iff, List.forall₂_same]
    intro dt hdt
    rcases travel_close (hsteps dt hdt).1 (hsteps dt hdt).2 with ⟨m, hm, hnear, _⟩
    exact ⟨m, hm, hnear⟩
  have hforward : forall y, y ∈ ds.map travel -> exists m, y.value = some m ∧ 0 ≤ m := by
    intro y hy
    rcases List.mem_map.mp hy with ⟨dt, hdt, rfl⟩
    rcases travel_close (hsteps dt hdt).1 (hsteps dt hdt).2 with ⟨m, hm, _, hnonneg⟩
    exact ⟨m, hm, hnonneg⟩
  have habs : (ds.map way).map abs = ds.map way := by
    rw [List.map_map]
    apply List.map_congr_left
    intro dt hdt
    have hpast : (0 : Rat) ≤ dt := by exact_mod_cast (hsteps dt hdt).1
    exact abs_of_nonneg (div_nonneg hpast (by norm_num))
  have herror : (0 : Rat) ≤ travelError := by norm_num [travelError]
  have hlength : (ds.map way).length = ds.length := List.length_map _
  have hsum := BinaryFloat.foldl_add_error hprecision hrange hk' herror hclose hx
    (by rw [habs, sum_way, hlength]; exact hroom)
  rw [sum_way, hlength] at hsum
  rcases hsum with ⟨r', hr', hnear⟩
  exact ⟨r', hr', BinaryFloat.le_foldl_add hprecision hforward hx hr', hnear⟩

/-!
# The position of the product
-/

/-- From the update that found it on, a product that nothing else moves keeps its height,
its side and its rotation, never moves backward, and has gone the speed of the conveyor
times the simulated time in which it ran. -/
theorem product_position {entity : Entity} {w : store}
    (hbelt : linkByName w entity "belt" ≠ kNullEntity) {before es : List (SimulationStep store)}
    (hcalls : Uncalled (before ++ es))
    (hproduct : (simulation.run before (w, (configure entity w {}).2)).2.productEntity =
      product) (hnull : product ≠ kNullEntity) (hothers : LeavesAlone product es)
    (hpose : poseOf (simulation.run before (w, (configure entity w {}).2)).1 product =
      some pose)
    {r : Rat} (hx : pose.pos.x.value = some r)
    (hsteps : forall dt, dt ∈ moving (updates before) es -> 0 ≤ dt ∧ dt ≤ 1000000000)
    {k : Int} (hk : k ≤ 1023)
    (hroom : |r| + way (moving (updates before) es).sum +
      positionError k (moving (updates before) es).length < 2 ^ k) :
    exists x r',
      poseOf (simulation.run (before ++ es) (w, (configure entity w {}).2)).1 product =
          some (along pose x) ∧
        x.value = some r' ∧ r ≤ r' ∧
        |r' - (r + way (moving (updates before) es).sum)| ≤
          positionError k (moving (updates before) es).length := by
  rcases configure_of_belt hbelt with ⟨hschedule, hsound, _⟩
  have hreached := hschedule.run
    (fun e he => hcalls e (List.mem_append_left es he)) w
  rw [Nat.zero_add] at hreached
  have hsame := sound_run before w hsound
  rw [Machine.run_append]
  generalize simulation.run before (w, (configure entity w {}).2) = t at hreached hsame hpose hproduct ⊢
  rcases t with ⟨w', s'⟩
  rcases travel_sum hsteps hx hk hroom with ⟨r', hr', hforward, hnear⟩
  exact ⟨_, r',
    pose_run hreached hsame hproduct hnull
      (fun e he => hcalls e (List.mem_append_right before he)) hothers hpose,
    hr', hforward, hnear⟩

def millisecond : SimulationStep WorldComponents where
  info := { dt := 1000000 }
  others := fun w => w

theorem moving_milliseconds (m n : Nat) (h : n + m < 2 ^ 64) :
    moving n (List.replicate m millisecond) =
      List.replicate (min (n + m) 4999 - max n 999) 1000000 := by
  induction m generalizing n with
  | zero =>
      have hnone : min (n + 0) 4999 - max n 999 = 0 := by omega
      rw [hnone]
      rfl
  | succ m ih =>
      have hrest := ih (n + 1) (by omega)
      have hmoving : moving n (List.replicate (m + 1) millisecond) =
          if Runs (n + 1) then 1000000 :: moving (n + 1) (List.replicate m millisecond)
          else moving (n + 1) (List.replicate m millisecond) := rfl
      have hruns : Runs (n + 1) <-> 999 ≤ n ∧ n < 4999 := by
        unfold Runs
        omega
      rw [hmoving, hrest]
      split
      · rename_i hrunning
        have hwindow := hruns.mp hrunning
        rw [← List.replicate_succ]
        congr 1
        omega
      · rename_i hstopped
        have hwindow : ¬ (999 ≤ n ∧ n < 4999) := fun h => hstopped (hruns.mpr h)
        congr 1
        omega

theorem value_startX : startPose.pos.x.value = some (-3 / 2) := by
  have hfinite : startPose.pos.x = .finite true (3 * 2 ^ 51) (-52) (by decide) := by
    decide +kernel
  rw [hfinite]
  show some (BinaryFloat.ratOf true (3 * 2 ^ 51) (-52)) = some (-3 / 2)
  norm_num [BinaryFloat.ratOf]

/-- Six seconds later the product lies at the other end of the conveyor. -/
theorem product_position_factory :
    exists x r',
      poseOf (simulation.run ([millisecond] ++ List.replicate 5999 millisecond)
          (factory, (configure 1 factory {}).2)).1 2 = some (along startPose x) ∧
        x.value = some r' ∧ -3 / 2 ≤ r' ∧ |r' - 1 / 2| ≤ 1 / 10 ^ 11 := by
  have hmoving : moving (updates [millisecond]) (List.replicate 5999 millisecond) =
      List.replicate 4000 1000000 := moving_milliseconds 5999 1 (by decide)
  have hplace : BinaryFloat.halfPlace binary64 2 = 1 / 2 ^ 52 := by
    norm_num [BinaryFloat.halfPlace, binary64]
  have hcalls : Uncalled ([millisecond] ++ List.replicate 5999 millisecond) := by
    intro e he
    rcases List.mem_append.mp he with hfirst | hrest
    · rw [List.mem_singleton.mp hfirst]
      rfl
    · rw [List.eq_of_mem_replicate hrest]
      rfl
  have hothers : LeavesAlone 2 (List.replicate 5999 millisecond) := by
    intro e he w
    rw [List.eq_of_mem_replicate he]
    rfl
  have hsteps : forall dt,
      dt ∈ moving (updates [millisecond]) (List.replicate 5999 millisecond) ->
        0 ≤ dt ∧ dt ≤ 1000000000 := by
    intro dt hdt
    rw [hmoving] at hdt
    rw [List.eq_of_mem_replicate hdt]
    decide
  have hroom : |(-3 / 2 : Rat)| +
        way (moving (updates [millisecond]) (List.replicate 5999 millisecond)).sum +
        positionError 2
          (moving (updates [millisecond]) (List.replicate 5999 millisecond)).length <
      2 ^ (2 : Int) := by
    rw [hmoving, List.sum_replicate, List.length_replicate]
    unfold positionError way travelError
    rw [hplace]
    norm_num [abs_of_neg]
  have hposition := @product_position _ _ _ 2 startPose 1 factory (by decide) [millisecond]
    (List.replicate 5999 millisecond) hcalls (by decide) (by decide) hothers
    (by decide +kernel) (-3 / 2) value_startX hsteps 2 (by decide) hroom
  rcases hposition with ⟨x, r', hpose, hx, hforward, hnear⟩
  refine ⟨x, r', hpose, hx, hforward, ?_⟩
  rw [hmoving, List.sum_replicate, List.length_replicate] at hnear
  unfold positionError way travelError at hnear
  rw [hplace] at hnear
  norm_num at hnear ⊢
  exact hnear.trans (by norm_num)

end ConveyorSystem

end VirtualFactory
