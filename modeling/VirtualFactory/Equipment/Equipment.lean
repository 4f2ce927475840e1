import VirtualFactory.Foundation.BinaryFloat
import VirtualFactory.Foundation.OrderedMap
import Mathlib.Data.String.Basic

/-!
# The normalized equipment model

Every machine is seen through the same interface: identity, operating mode, machine
fault, capabilities, named commands and named telemetry points.  The generic
implementation keeps all of it as plain data.
-/

namespace VirtualFactory

open Foundation

def binary64 : FloatFormat where
  precision := 53
  emin := -1074
  emax := 971

def binary32 : FloatFormat where
  precision := 24
  emin := -149
  emax := 104

abbrev Double := BinaryFloat binary64

abbrev Single := BinaryFloat binary32

namespace Double

def zero : Double := BinaryFloat.ofInt binary64 0

def one : Double := BinaryFloat.ofInt binary64 1

def ofBool (b : Bool) : Double :=
  if b then one else zero

def ofInt (n : Int) : Double :=
  BinaryFloat.ofInt binary64 n

def ofSingle (x : Single) : Double :=
  x.convert binary64

/-- `std::min`: the first argument unless the second is smaller. -/
def stdMin (x y : Double) : Double :=
  if BinaryFloat.lt y x then y else x

/-- `std::max`: the first argument unless it is smaller than the second. -/
def stdMax (x y : Double) : Double :=
  if BinaryFloat.lt x y then y else x

/-- `std::lround` on a target with a 64-bit `long`: an argument without a nearest
`long` gives the smallest one. -/
def lround : Double -> Int
  | .nan => -2 ^ 63
  | .infinite _ => -2 ^ 63
  | .finite negative m e _ =>
      let nearest :=
        BinaryFloat.roundAway binary64 (BinaryFloat.scaled negative m binary64 e)
      if -2 ^ 63 ≤ nearest ∧ nearest < 2 ^ 63 then nearest else -2 ^ 63

end Double

namespace Single

def ofDouble (x : Double) : Single :=
  x.convert binary32

def ofInt (n : Int) : Single :=
  BinaryFloat.ofInt binary32 n

/-- The conversion to a 32-bit integer: an argument out of range gives the smallest
one. -/
def toInt32 : Single -> Int
  | .nan => -2 ^ 31
  | .infinite _ => -2 ^ 31
  | .finite negative m e _ =>
      let whole :=
        BinaryFloat.truncate binary32 (BinaryFloat.scaled negative m binary32 e)
      if -2 ^ 31 ≤ whole ∧ whole < 2 ^ 31 then whole else -2 ^ 31

end Single

inductive OperationalState where
  | stopped
  | running
  deriving DecidableEq

def OperationalState.ofRunning (running : Bool) : OperationalState :=
  if running then .running else .stopped

structure TelemetryPoint where
  name : String
  value : Double
  unit : String
  deriving DecidableEq

structure CommandResult where
  accepted : Bool
  message : String
  deriving DecidableEq

/-- What the `Equipment` interface of one machine answers when it is read. -/
structure EquipmentView where
  id : String
  type : String
  operationalState : OperationalState
  fault : Bool
  capabilities : List String
  commands : List String
  telemetry : List TelemetryPoint
  deriving DecidableEq

/-!
# Telemetry maps

The points of a machine are stored under their own names.
-/

structure TelemetryMap where
  points : OrderedMap String TelemetryPoint
  named : forall e, e ∈ points.entries -> e.2.name = e.1
  deriving DecidableEq

namespace TelemetryMap

def empty : TelemetryMap where
  points := OrderedMap.empty
  named := by
    intro e he
    cases he

def set (m : TelemetryMap) (point : TelemetryPoint) : TelemetryMap where
  points := m.points.insert point.name point
  named := by
    intro e he
    have hfind := (OrderedMap.mem_entries_iff _ e.1 e.2).mp he
    rw [OrderedMap.find?_insert] at hfind
    by_cases hname : e.1 = point.name
    · rw [if_pos hname] at hfind
      rw [← Option.some.inj hfind, hname]
    · rw [if_neg hname] at hfind
      exact m.named e ((OrderedMap.mem_entries_iff _ e.1 e.2).mpr hfind)

def toList (m : TelemetryMap) : List TelemetryPoint :=
  m.points.entries.map Prod.snd

theorem find?_toList (m : TelemetryMap) (name : String) :
    m.toList.find? (fun p => p.name = name) = m.points.find? name := by
  cases m with
  | mk points named =>
      show (points.entries.map Prod.snd).find? _ = points.entries.lookup name
      generalize points.entries = es at named
      induction es with
      | nil => rfl
      | cons e rest ih =>
          have he := named e List.mem_cons_self
          have hrest := ih (fun d hd => named d (List.mem_cons_of_mem e hd))
          rw [List.map_cons, Association.lookup_cons_eq_ite]
          by_cases hname : name = e.1
          · rw [if_pos hname, List.find?_cons_of_pos]
            simp [he, hname]
          · rw [if_neg hname, List.find?_cons_of_neg, hrest]
            simp [he, Ne.symm hname]

end TelemetryMap

/-!
# Generic equipment
-/

structure GenericEquipment where
  id : String
  type : String
  operationalState : OperationalState := .stopped
  fault : Bool := false
  capabilities : List String := []
  telemetryMap : TelemetryMap := TelemetryMap.empty
  deriving DecidableEq

namespace GenericEquipment

/-- Generic equipment offers every capability as a command. -/
def commands (e : GenericEquipment) : List String :=
  e.capabilities

def hasCapability (e : GenericEquipment) (name : String) : Bool :=
  e.capabilities.contains name

def telemetry (e : GenericEquipment) : List TelemetryPoint :=
  e.telemetryMap.toList

def execute (e : GenericEquipment) (command : String) (_parameter : Double) :
    CommandResult × GenericEquipment :=
  if command = "start" then
    if e.hasCapability "start" then
      (⟨true, "started"⟩, { e with operationalState := .running })
    else (⟨false, "capability start not present"⟩, e)
  else if command = "stop" then
    if e.hasCapability "stop" then
      (⟨true, "stopped"⟩, { e with operationalState := .stopped })
    else (⟨false, "capability stop not present"⟩, e)
  else if e.hasCapability command then (⟨true, "accepted"⟩, e)
  else (⟨false, "unknown command"⟩, e)

def addCapability (e : GenericEquipment) (name : String) : GenericEquipment :=
  if e.hasCapability name then e
  else { e with capabilities := e.capabilities ++ [name] }

def setTelemetry (e : GenericEquipment) (name : String) (value : Double)
    (unit : String) : GenericEquipment :=
  { e with telemetryMap := e.telemetryMap.set ⟨name, value, unit⟩ }

def setFault (e : GenericEquipment) (fault : Bool) : GenericEquipment :=
  { e with fault := fault }

def setOperationalState (e : GenericEquipment) (s : OperationalState) :
    GenericEquipment :=
  { e with operationalState := s }

def view (e : GenericEquipment) : EquipmentView where
  id := e.id
  type := e.type
  operationalState := e.operationalState
  fault := e.fault
  capabilities := e.capabilities
  commands := e.commands
  telemetry := e.telemetry

/-- A newly bound machine: stopped, healthy, without telemetry, with the listed
capabilities and the names of the mapped commands. -/
def bind (id type : String) (capabilities commands : List String) :
    GenericEquipment :=
  (capabilities ++ commands).foldl addCapability { id := id, type := type }

theorem foldl_addCapability (names : List String) (e : GenericEquipment) :
    exists caps : List String,
      names.foldl addCapability e = { e with capabilities := caps } := by
  induction names generalizing e with
  | nil => exact ⟨e.capabilities, rfl⟩
  | cons name rest ih =>
      rw [List.foldl_cons]
      unfold addCapability
      split
      · exact ih e
      · rcases ih { e with capabilities := e.capabilities ++ [name] } with
          ⟨caps, hcaps⟩
        exact ⟨caps, hcaps⟩

theorem bind_eq (id type : String) (capabilities commands : List String) :
    exists caps : List String,
      bind id type capabilities commands =
        { id := id, type := type, capabilities := caps } :=
  foldl_addCapability (capabilities ++ commands) { id := id, type := type }

@[simp] theorem bind_id (id type : String) (capabilities commands : List String) :
    (bind id type capabilities commands).id = id := by
  rcases bind_eq id type capabilities commands with ⟨caps, hcaps⟩
  rw [hcaps]

end GenericEquipment

/-!
# Readings

A successful read of a mapped signal updates one observable of the machine.  The
value a machine shows for a signal is the last reading applied for it.
-/

/-- An observable of a machine that a source can be mapped to. -/
inductive Signal where
  | telemetry (name : String)
  | state
  | fault
  deriving DecidableEq

/-- A value read for a signal. -/
inductive Reading where
  | telemetry (name : String) (value : Double) (unit : String)
  | state (running : Bool)
  | fault (active : Bool)
  deriving DecidableEq

def Reading.signal : Reading -> Signal
  | telemetry name _ _ => .telemetry name
  | state _ => .state
  | fault _ => .fault

def lastReading (signal : Signal) : List Reading -> Option Reading
  | [] => none
  | r :: rest =>
      (lastReading signal rest).or (if r.signal = signal then some r else none)

theorem lastReading_append (signal : Signal) (rs qs : List Reading) :
    lastReading signal (rs ++ qs) =
      (lastReading signal qs).or (lastReading signal rs) := by
  induction rs with
  | nil => simp [lastReading]
  | cons r rest ih =>
      rw [List.cons_append, lastReading, ih, lastReading, Option.or_assoc]

theorem lastReading_eq_none {signal : Signal} {rs : List Reading}
    (h : forall r, r ∈ rs -> r.signal ≠ signal) : lastReading signal rs = none := by
  induction rs with
  | nil => rfl
  | cons r rest ih =>
      have hr := h r List.mem_cons_self
      rw [lastReading, ih (fun q hq => h q (List.mem_cons_of_mem r hq)), if_neg hr]
      rfl

theorem lastReading_flatMap {item : Type} (signal : Signal)
    (readings : item -> List Reading) (xs : List item) :
    lastReading signal (xs.flatMap readings) =
      (xs.filterMap (fun x => lastReading signal (readings x))).getLast? := by
  induction xs with
  | nil => rfl
  | cons x rest ih =>
      rw [List.flatMap_cons, lastReading_append, ih]
      cases hx : lastReading signal (readings x) with
      | none => simp only [List.filterMap_cons, hx, Option.or_none]
      | some r =>
          simp only [List.filterMap_cons, hx, List.getLast?_cons]
          cases (rest.filterMap fun x => lastReading signal (readings x)).getLast? <;>
            rfl

theorem lastReading_mem {signal : Signal} {rs : List Reading} {r : Reading}
    (h : lastReading signal rs = some r) : r ∈ rs := by
  induction rs with
  | nil => cases h
  | cons q rest ih =>
      unfold lastReading at h
      cases hrest : lastReading signal rest with
      | some p =>
          rw [hrest] at h ih
          exact List.mem_cons_of_mem q (ih h)
      | none =>
          rw [hrest, Option.none_or] at h
          split at h
          · cases h
            exact List.mem_cons_self
          · cases h

namespace GenericEquipment

def applyReading (e : GenericEquipment) : Reading -> GenericEquipment
  | .telemetry name value unit => e.setTelemetry name value unit
  | .state running => e.setOperationalState (OperationalState.ofRunning running)
  | .fault active => e.setFault active

/-- The value a machine shows for a signal. -/
def shown (e : GenericEquipment) : Signal -> Option Reading
  | .telemetry name =>
      (e.telemetryMap.points.find? name).map
        (fun p => Reading.telemetry name p.value p.unit)
  | .state => some (.state (decide (e.operationalState = .running)))
  | .fault => some (.fault e.fault)

theorem shown_of_mem_telemetry {e : GenericEquipment} {p : TelemetryPoint}
    (h : p ∈ e.telemetry) :
    e.shown (.telemetry p.name) = some (.telemetry p.name p.value p.unit) := by
  rcases List.mem_map.mp h with ⟨x, hx, rfl⟩
  have hname := e.telemetryMap.named x hx
  have hfind := (OrderedMap.mem_entries_iff e.telemetryMap.points x.1 x.2).mp hx
  show (e.telemetryMap.points.find? x.2.name).map _ = some _
  rw [hname, hfind]
  rfl

@[simp] theorem applyReading_id (e : GenericEquipment) (r : Reading) :
    (e.applyReading r).id = e.id := by
  cases r <;> rfl

@[simp] theorem applyReading_capabilities (e : GenericEquipment) (r : Reading) :
    (e.applyReading r).capabilities = e.capabilities := by
  cases r <;> rfl

theorem shown_applyReading (e : GenericEquipment) (r : Reading)
    (signal : Signal) :
    (e.applyReading r).shown signal =
      if r.signal = signal then some r else e.shown signal := by
  cases r with
  | telemetry name value unit =>
      cases signal with
      | telemetry other =>
          have hfind :=
            OrderedMap.find?_insert e.telemetryMap.points name
              (⟨name, value, unit⟩ : TelemetryPoint) other
          by_cases hname : name = other
          · subst hname
            simp [shown, applyReading, setTelemetry, TelemetryMap.set,
              Reading.signal, hfind]
          · have hother : other ≠ name := Ne.symm hname
            simp [shown, applyReading, setTelemetry, TelemetryMap.set,
              Reading.signal, hfind, hname, hother]
      | state => rfl
      | fault => rfl
  | state running =>
      cases signal with
      | telemetry other => rfl
      | state => cases running <;> rfl
      | fault => rfl
  | fault active =>
      cases signal with
      | telemetry other => rfl
      | state => rfl
      | fault => rfl

/-- A machine that stored a history of readings shows the last one of each signal,
and what it showed before for the others. -/
theorem shown_foldl_applyReading (rs : List Reading) (e : GenericEquipment)
    (signal : Signal) :
    (rs.foldl applyReading e).shown signal =
      (lastReading signal rs).or (e.shown signal) := by
  induction rs generalizing e with
  | nil => rfl
  | cons r rest ih =>
      rw [List.foldl_cons, ih, shown_applyReading, lastReading, Option.or_assoc]
      split <;> rfl

theorem foldl_applyReading_id (rs : List Reading) (e : GenericEquipment) :
    (rs.foldl applyReading e).id = e.id := by
  induction rs generalizing e with
  | nil => rfl
  | cons r rest ih => rw [List.foldl_cons, ih, applyReading_id]

theorem foldl_applyReading_capabilities (rs : List Reading) (e : GenericEquipment) :
    (rs.foldl applyReading e).capabilities = e.capabilities := by
  induction rs generalizing e with
  | nil => rfl
  | cons r rest ih => rw [List.foldl_cons, ih, applyReading_capabilities]

theorem shown_bind (id type : String) (capabilities commands : List String)
    (signal : Signal) :
    (bind id type capabilities commands).shown signal =
      ({ id := id, type := type } : GenericEquipment).shown signal := by
  rcases bind_eq id type capabilities commands with ⟨caps, hcaps⟩
  rw [hcaps]
  cases signal <;> rfl

end GenericEquipment

end VirtualFactory
