import VirtualFactory.Industrial.ProtocolDriver

/-!
# What the library answers to a poll

A poll extends the calls of its session.  A driver says which of these calls read a
mapped signal, and which value the library has answered there.
-/

namespace VirtualFactory

open Foundation

/-!
# Mapped signals
-/

/-- A mapped signal as its mapping describes it, without the value. -/
inductive SignalEntry where
  | telemetry (name unit : String)
  | state
  | fault
  deriving DecidableEq

def SignalEntry.signal : SignalEntry -> Signal
  | telemetry name _ => .telemetry name
  | .state => .state
  | fault => .fault

/-- The reading of a signal, from its source as a number and as a truth value. -/
def SignalEntry.reading (number : Option Double) (truth : Option Bool) :
    SignalEntry -> Option Reading
  | telemetry name unit => number.map (fun value => .telemetry name value unit)
  | .state => truth.map .state
  | fault => truth.map .fault

/-- The mapped signal that a reading is a value of. -/
def Reading.entry : Reading -> SignalEntry
  | telemetry name _ unit => .telemetry name unit
  | state _ => .state
  | fault _ => .fault

theorem Reading.signal_entry (r : Reading) : r.entry.signal = r.signal := by
  cases r <;> rfl

/-!
# Stretches of a history
-/

/-- Some calls made between two histories are as they are said to be. -/
def During {call : Type} (earlier later : List call)
    (said : List call -> List call -> Prop) : Prop :=
  exists before after, earlier <:+ before ∧ before <:+ after ∧ after <:+ later ∧
    said before after

theorem During.widen {call : Type} {first earlier later last : List call}
    {said : List call -> List call -> Prop} (h : During earlier later said)
    (hfirst : first <:+ earlier) (hlast : later <:+ last) : During first last said := by
  rcases h with ⟨before, after, hbefore, hmade, hafter, hsaid⟩
  exact ⟨before, after, hfirst.trans hbefore, hmade, hafter.trans hlast, hsaid⟩

/-- The value of a step is what was answered since the start of its refresh, once the
calls before the step have been made. -/
def ReadStep.Answered {state call : Type} (log : state -> List call)
    (kept : state -> Prop) (answers : Option Reading -> List call -> List call -> Prop)
    (start reached : List call) (step : ReadStep state) : Prop :=
  forall s, kept s -> reached <:+ log s ->
    kept (step.perform s).2 ∧ log s <:+ log (step.perform s).2 ∧
      During start (log (step.perform s).2) (answers (step.perform s).1)

/-- The signals of a plan are answered by position; a plan that fails before its reads
are known fails at the first of them. -/
def ReadPlan.Answered {state call : Type} (log : state -> List call)
    (kept : state -> Prop)
    (answers : Nat -> Option Reading -> List call -> List call -> Prop)
    (plan : ReadPlan state) : Prop :=
  forall s, kept s ->
    kept (plan s).2 ∧ log s <:+ log (plan s).2 ∧
      ((plan s).1 = none -> During (log s) (log (plan s).2) (answers 0 none)) ∧
      forall (steps : List (ReadStep state)) (n : Nat) (step : ReadStep state),
        (plan s).1 = some steps -> steps[n]? = some step ->
          step.Answered log kept (answers n) (log s) (log (plan s).2)

theorem ReadPlan.answered_fixed {state call source : Type} {log : state -> List call}
    {kept : state -> Prop}
    {answers : Nat -> Option Reading -> List call -> List call -> Prop}
    {sources : List source} {read : source -> ReadStep state}
    (hread : forall n p s, sources[n]? = some p -> kept s ->
      kept ((read p).perform s).2 ∧ log s <:+ log ((read p).perform s).2 ∧
        answers n ((read p).perform s).1 (log s) (log ((read p).perform s).2)) :
    (fixed (sources.map read)).Answered log kept answers := by
  intro s hs
  refine ⟨hs, List.suffix_refl _, ?_, ?_⟩
  · intro hnone
    cases hnone
  · intro steps n step hsteps hstep t ht hstart
    cases hsteps
    rw [List.getElem?_map] at hstep
    rcases Option.map_eq_some_iff.mp hstep with ⟨p, hp, rfl⟩
    rcases hread n p t hp ht with ⟨hkept, hmade, hanswer⟩
    exact ⟨hkept, hmade, _, _, hstart, hmade, List.suffix_refl _, hanswer⟩

/-- How a driver reads the mapped signals of a machine: by which calls the signal at a
position is read, and which reading the answer of the library is, if it is one. -/
class SignalAnswers (config mapping session : Type) {library : outParam Type}
    [EquipmentMapping mapping] [ProtocolDriver config mapping session library]
    (call : outParam Type) where
  calls : session -> List call
  Answers : library -> session -> mapping -> Nat -> Option Reading ->
    List call -> List call -> Prop
  Serves : session -> session -> Prop
  serves_prepare : forall (cfg : config) (s : session),
    ProtocolDriver.isOpen config mapping s ->
      Serves s (ProtocolDriver.prepare mapping cfg s)
  calls_prepare : forall (cfg : config) (s : session),
    calls (ProtocolDriver.prepare mapping cfg s) = calls s
  calls_fail : forall link : Link session,
    calls (ProtocolDriver.fail config mapping link).session = calls link.session
  plan_answered : forall (lib : library) (s : session) (m : mapping),
    (ProtocolDriver.plan config lib m).Answered (fun link => calls link.session)
      (fun link => Serves s link.session) (Answers lib s m)

end VirtualFactory
