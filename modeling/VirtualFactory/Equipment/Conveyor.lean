import VirtualFactory.Equipment.Equipment

/-!
# The conveyor

The specialized machine beside the generic one.  It knows its own capabilities and
commands, and shows its speed as telemetry.
-/

namespace VirtualFactory

open Foundation

structure Conveyor where
  id : String
  operationalState : OperationalState := .stopped
  speed : Double := Double.zero
  fault : Bool := false
  deriving DecidableEq

namespace Conveyor

def kDefaultSpeedMetersPerSecond : Double :=
  BinaryFloat.round binary64 false 1 (-1)

def type : String :=
  "belt_conveyor"

def capabilities : List String :=
  ["start", "stop", "speed_control"]

def commands : List String :=
  ["start", "stop", "set_speed"]

def setSpeed (c : Conveyor) (speedMetersPerSecond : Double) : Bool × Conveyor :=
  if BinaryFloat.lt speedMetersPerSecond Double.zero then (false, c)
  else (true, { c with speed := speedMetersPerSecond })

def setFault (c : Conveyor) (fault : Bool) : Conveyor :=
  { c with fault := fault }

def execute (c : Conveyor) (command : String) (parameter : Double) :
    CommandResult × Conveyor :=
  if command = "start" then
    (⟨true, "started"⟩,
      { c with
        operationalState := .running
        speed :=
          if BinaryFloat.lt c.speed Double.zero || c.speed.isZero then
            kDefaultSpeedMetersPerSecond
          else c.speed })
  else if command = "stop" then
    (⟨true, "stopped"⟩, { c with operationalState := .stopped, speed := Double.zero })
  else if command = "set_speed" then
    match c.setSpeed parameter with
    | (false, c) => (⟨false, "invalid speed"⟩, c)
    | (true, c) => (⟨true, "speed set"⟩, c)
  else (⟨false, "unknown command"⟩, c)

def telemetry (c : Conveyor) : List TelemetryPoint :=
  [⟨"speed", c.speed, "m/s"⟩]

def view (c : Conveyor) : EquipmentView where
  id := c.id
  type := type
  operationalState := c.operationalState
  fault := c.fault
  capabilities := capabilities
  commands := commands
  telemetry := c.telemetry

theorem setSpeed_cases (c : Conveyor) (speed : Double) :
    (BinaryFloat.lt speed Double.zero = true ∧ c.setSpeed speed = (false, c)) ∨
      (BinaryFloat.lt speed Double.zero = false ∧
        c.setSpeed speed = (true, { c with speed := speed })) := by
  unfold setSpeed
  cases BinaryFloat.lt speed Double.zero with
  | true => exact Or.inl ⟨rfl, rfl⟩
  | false => exact Or.inr ⟨rfl, rfl⟩

theorem execute_of_rejected {c : Conveyor} {command : String} {parameter : Double}
    (h : (c.execute command parameter).1.accepted = false) :
    (c.execute command parameter).2 = c := by
  unfold execute at h ⊢
  by_cases hstart : command = "start"
  · rw [if_pos hstart] at h
    cases h
  · rw [if_neg hstart] at h ⊢
    by_cases hstop : command = "stop"
    · rw [if_pos hstop] at h
      cases h
    · rw [if_neg hstop] at h ⊢
      split
      · rename_i hspeed
        rcases c.setSpeed_cases parameter with ⟨_, hset⟩ | ⟨_, hset⟩
        · rw [hset]
        · rw [if_pos hspeed, hset] at h
          cases h
      · rfl

theorem speed_execute {c : Conveyor} (h : BinaryFloat.lt c.speed Double.zero = false)
    (command : String) (parameter : Double) :
    BinaryFloat.lt (c.execute command parameter).2.speed Double.zero = false := by
  have hdefault : BinaryFloat.lt kDefaultSpeedMetersPerSecond Double.zero = false := by
    decide +kernel
  unfold execute
  split
  · dsimp only
    split
    · exact hdefault
    · exact h
  · split
    · exact (by decide : BinaryFloat.lt Double.zero Double.zero = false)
    · split
      · rcases c.setSpeed_cases parameter with ⟨_, hset⟩ | ⟨hspeed, hset⟩
        · rw [hset]
          exact h
        · rw [hset]
          exact hspeed
      · exact h

end Conveyor

end VirtualFactory
