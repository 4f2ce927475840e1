import VirtualFactory.Equipment.Conveyor
import VirtualFactory.Foundation.FloatArithmetic
import VirtualFactory.Foundation.Machine
import Mathlib.Logic.Function.Basic

/-!
# The conveyor in the simulation

The plugin of a conveyor model.  It owns the conveyor, and before every update of the
simulation it moves the product and drives the belt.
-/

namespace VirtualFactory

open Foundation

/-!
# Entities and their components
-/

abbrev Entity := UInt64

def kNullEntity : Entity := 0

structure Vector3d where
  x : Double
  y : Double
  z : Double
  deriving DecidableEq

structure Quaterniond where
  w : Double
  x : Double
  y : Double
  z : Double
  deriving DecidableEq

structure Pose3d where
  pos : Vector3d
  rot : Quaterniond
  deriving DecidableEq

/-- The store of the components, as far as the plugin uses it. -/
class EntityComponentManager (store : Type) where
  modelName : store -> Entity -> String
  linkByName : store -> Entity -> String -> Entity
  /-- `Each<Name>`, with a callback that says whether to go on. -/
  eachName : forall {state : Type}, store ->
    (Entity -> String -> state -> Bool × state) -> state -> state
  poseOf : store -> Entity -> Option Pose3d
  setPose : Entity -> Pose3d -> store -> store
  setLinearVelocity : Entity -> Vector3d -> store -> store
  /-- The named entities in the order in which they are visited. -/
  names : store -> List (Entity × String)
  /-- The velocity that a link was last told to have. -/
  velocityCmdOf : store -> Entity -> Option Vector3d

namespace EntityComponentManager

variable {state : Type}

/-- A visit of entities until the callback says to stop. -/
def visitNames (visit : Entity -> String -> state -> Bool × state) :
    List (Entity × String) -> state -> state
  | [], s => s
  | entry :: rest, s =>
      match visit entry.1 entry.2 s with
      | (true, s) => visitNames visit rest s
      | (false, s) => s

end EntityComponentManager

open EntityComponentManager

/-- What the plugin relies on: the names are visited in their order, a pose that was set is
the one that is read, and setting a component changes nothing else. -/
class LawfulEntityComponentManager (store : Type) [EntityComponentManager store] : Prop where
  eachName_eq : forall {state : Type} (w : store)
    (visit : Entity -> String -> state -> Bool × state) (s : state),
      eachName w visit s = visitNames visit (names w) s
  poseOf_setPose : forall {w : store} {entity : Entity} {old : Pose3d} (pose : Pose3d),
    poseOf w entity = some old -> poseOf (setPose entity pose w) entity = some pose
  poseOf_setPose_of_ne : forall {entity other : Entity} (pose : Pose3d) (w : store),
    other ≠ entity -> poseOf (setPose entity pose w) other = poseOf w other
  velocityCmdOf_setPose : forall (entity : Entity) (pose : Pose3d) (w : store),
    velocityCmdOf (setPose entity pose w) = velocityCmdOf w
  names_setPose : forall (entity : Entity) (pose : Pose3d) (w : store),
    names (setPose entity pose w) = names w
  linkByName_setPose : forall (entity : Entity) (pose : Pose3d) (w : store),
    linkByName (setPose entity pose w) = linkByName w
  velocityCmdOf_setLinearVelocity : forall (entity : Entity) (velocity : Vector3d)
    (w : store), velocityCmdOf (setLinearVelocity entity velocity w) entity = some velocity
  velocityCmdOf_setLinearVelocity_of_ne : forall {entity other : Entity}
    (velocity : Vector3d) (w : store), other ≠ entity ->
      velocityCmdOf (setLinearVelocity entity velocity w) other = velocityCmdOf w other
  poseOf_setLinearVelocity : forall (entity : Entity) (velocity : Vector3d) (w : store),
    poseOf (setLinearVelocity entity velocity w) = poseOf w
  names_setLinearVelocity : forall (entity : Entity) (velocity : Vector3d) (w : store),
    names (setLinearVelocity entity velocity w) = names w
  linkByName_setLinearVelocity : forall (entity : Entity) (velocity : Vector3d)
    (w : store), linkByName (setLinearVelocity entity velocity w) = linkByName w

/-- A store that keeps every component in a table of its own. -/
structure WorldComponents where
  names : List (Entity × String)
  linkByName : Entity -> String -> Entity
  pose : Entity -> Option Pose3d
  velocityCmd : Entity -> Option Vector3d

namespace WorldComponents

instance : EntityComponentManager WorldComponents where
  modelName w entity :=
    ((w.names.find? (fun entry => entry.1 = entity)).map Prod.snd).getD ""
  linkByName w := w.linkByName
  eachName w visit := visitNames visit w.names
  poseOf w := w.pose
  setPose entity pose w := { w with pose := Function.update w.pose entity (some pose) }
  setLinearVelocity entity velocity w :=
    { w with velocityCmd := Function.update w.velocityCmd entity (some velocity) }
  names w := w.names
  velocityCmdOf w := w.velocityCmd

instance : LawfulEntityComponentManager WorldComponents where
  eachName_eq _ _ _ := rfl
  poseOf_setPose _ _ := Function.update_self _ _ _
  poseOf_setPose_of_ne _ _ hother := Function.update_of_ne hother _ _
  velocityCmdOf_setPose _ _ _ := rfl
  names_setPose _ _ _ := rfl
  linkByName_setPose _ _ _ := rfl
  velocityCmdOf_setLinearVelocity _ _ _ := Function.update_self _ _ _
  velocityCmdOf_setLinearVelocity_of_ne _ _ hother := Function.update_of_ne hother _ _
  poseOf_setLinearVelocity _ _ _ := rfl
  names_setLinearVelocity _ _ _ := rfl
  linkByName_setLinearVelocity _ _ _ := rfl

end WorldComponents

/-- One update of the simulation, with its length in nanoseconds. -/
structure UpdateInfo where
  paused : Bool := false
  dt : Int

namespace UpdateInfo

def seconds (info : UpdateInfo) : Double :=
  BinaryFloat.div (Double.ofInt info.dt) (Double.ofInt 1000000000)

end UpdateInfo

namespace Conveyor

def start (c : Conveyor) : Conveyor :=
  (c.execute "start" Double.zero).2

def stop (c : Conveyor) : Conveyor :=
  (c.execute "stop" Double.zero).2

def running (c : Conveyor) : Bool :=
  decide (c.operationalState = .running)

end Conveyor

/-!
# The plugin
-/

structure ConveyorHeartbeat where
  equipment : String
  type : String
  updates : UInt64
  running : Bool
  fault : Bool
  dt : Double
  telemetry : List TelemetryPoint
  productX : Option Double
  deriving DecidableEq

inductive ConveyorMessage where
  | beltNotFound
  | configured (belt : Entity) (id : String) (speed : Double)
  | startAccepted (id : String)
  | stopAccepted (id : String)
  | speedInvalid (speed : Double)
  | speedSet (speed : Double)
  | productFound (entity : Entity)
  | heartbeat (line : ConveyorHeartbeat)
  deriving DecidableEq

structure ConveyorSystem where
  entity : Entity := kNullEntity
  beltEntity : Entity := kNullEntity
  productEntity : Entity := kNullEntity
  equipment : Option Conveyor := none
  updateCount : UInt64 := 0

namespace ConveyorSystem

variable {store : Type} [EntityComponentManager store]

def start (s : ConveyorSystem) : List ConveyorMessage × ConveyorSystem :=
  match s.equipment with
  | none => ([], s)
  | some c => ([.startAccepted c.id], { s with equipment := some c.start })

def stop (s : ConveyorSystem) : List ConveyorMessage × ConveyorSystem :=
  match s.equipment with
  | none => ([], s)
  | some c => ([.stopAccepted c.id], { s with equipment := some c.stop })

def setSpeed (speed : Double) (s : ConveyorSystem) :
    List ConveyorMessage × ConveyorSystem :=
  match s.equipment with
  | none => ([], s)
  | some c =>
      match c.setSpeed speed with
      | (false, c) => ([.speedInvalid speed], { s with equipment := some c })
      | (true, c) => ([.speedSet c.speed], { s with equipment := some c })

def configure (entity : Entity) (ecm : store) (s : ConveyorSystem) :
    List ConveyorMessage × ConveyorSystem :=
  let s :=
    { s with entity := entity, beltEntity := linkByName ecm entity "belt" }
  if s.beltEntity = kNullEntity then ([.beltNotFound], s)
  else
    let c : Conveyor := { id := modelName ecm entity }
    ([.configured s.beltEntity c.id c.speed], { s with equipment := some c })

def spotProduct (entity : Entity) (name : String)
    (s : List ConveyorMessage × ConveyorSystem) :
    Bool × List ConveyorMessage × ConveyorSystem :=
  if name = "PRODUCT-001" then
    (false, s.1 ++ [.productFound entity], { s.2 with productEntity := entity })
  else (true, s)

def findProduct (ecm : store) (s : ConveyorSystem) :
    List ConveyorMessage × ConveyorSystem :=
  if s.productEntity = kNullEntity then eachName ecm spotProduct ([], s) else ([], s)

/-- The start and the stop of the development test. -/
def runTimers (s : ConveyorSystem) : List ConveyorMessage × ConveyorSystem :=
  let started := if s.updateCount = 1000 then s.start else ([], s)
  let stopped :=
    if started.2.updateCount = 5000 then started.2.stop else ([], started.2)
  (started.1 ++ stopped.1, stopped.2)

def moveProduct (c : Conveyor) (dt : Double) (product : Entity)
    (ecm : store) : store :=
  if c.running ∧ product ≠ kNullEntity then
    match poseOf ecm product with
    | none => ecm
    | some pose =>
        setPose product
          { pose with
            pos :=
              { pose.pos with
                x := BinaryFloat.add pose.pos.x (BinaryFloat.mul c.speed dt) } }
          ecm
  else ecm

def driveBelt (c : Conveyor) (belt : Entity) (ecm : store) : store :=
  if c.running then
    setLinearVelocity belt ⟨c.speed, Double.zero, Double.zero⟩ ecm
  else setLinearVelocity belt ⟨Double.zero, Double.zero, Double.zero⟩ ecm

def heartbeat (c : Conveyor) (dt : Double) (ecm : store)
    (s : ConveyorSystem) : List ConveyorMessage :=
  if s.updateCount % 100 = 0 then
    [.heartbeat
      { equipment := c.view.id
        type := c.view.type
        updates := s.updateCount
        running := c.running
        fault := c.view.fault
        dt := dt
        telemetry := c.telemetry
        productX :=
          if s.productEntity ≠ kNullEntity then
            (poseOf ecm s.productEntity).map (fun pose => pose.pos.x)
          else none }]
  else []

def preUpdate (info : UpdateInfo) (ecm : store) (s : ConveyorSystem) :
    List ConveyorMessage × store × ConveyorSystem :=
  if info.paused then ([], ecm, s)
  else if s.equipment.isNone then ([], ecm, s)
  else
    let found :=
      findProduct ecm { s with updateCount := s.updateCount + 1 }
    let timed := found.2.runTimers
    match timed.2.equipment with
    | none => (found.1 ++ timed.1, ecm, timed.2)
    | some c =>
        let ecm := moveProduct c info.seconds timed.2.productEntity ecm
        let ecm := driveBelt c timed.2.beltEntity ecm
        (found.1 ++ (timed.1 ++ heartbeat c info.seconds ecm timed.2), ecm, timed.2)

end ConveyorSystem

/-!
# The simulation

Between the updates of the plugin the rest of the simulation runs.
-/

inductive ConveyorCall where
  | start
  | stop
  | setSpeed (speed : Double)

namespace ConveyorSystem

def answer (call : ConveyorCall) (s : ConveyorSystem) :
    List ConveyorMessage × ConveyorSystem :=
  match call with
  | .start => s.start
  | .stop => s.stop
  | .setSpeed speed => s.setSpeed speed

def answerAll : List ConveyorCall -> ConveyorSystem ->
    List ConveyorMessage × ConveyorSystem
  | [], s => ([], s)
  | call :: calls, s =>
      let first := s.answer call
      let rest := answerAll calls first.2
      (first.1 ++ rest.1, rest.2)

end ConveyorSystem

/-- One update, the calls before it, and what the rest of the simulation makes of the
components after it. -/
structure SimulationStep (store : Type) where
  info : UpdateInfo
  calls : List ConveyorCall := []
  others : store -> store

/-- The plugin in the simulation. -/
def simulation {store : Type} [EntityComponentManager store] :
    Machine (store × ConveyorSystem) (SimulationStep store) (List ConveyorMessage) where
  step e s :=
    let called := s.2.answerAll e.calls
    let updated := called.2.preUpdate e.info s.1
    (called.1 ++ updated.1, e.others updated.2.1, updated.2.2)

end VirtualFactory
