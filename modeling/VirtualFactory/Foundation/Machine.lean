import Mathlib.Data.List.Basic

/-!
# Event-driven machines

A machine consumes one event at a time, produces an output and moves to a new
state.  This module has its runs and the rule that carries an invariant along a run.
-/

namespace VirtualFactory
namespace Foundation

variable {state event output : Type}

/-- A deterministic machine: what an event does in a state. -/
structure Machine (state event output : Type) where
  step : event -> state -> output × state

namespace Machine

def run (m : Machine state event output) : List event -> state -> state
  | [], s => s
  | e :: rest, s => m.run rest (m.step e s).2

@[simp] theorem run_nil (m : Machine state event output) (s : state) :
    m.run [] s = s := rfl

@[simp] theorem run_cons (m : Machine state event output) (e : event)
    (es : List event) (s : state) :
    m.run (e :: es) s = m.run es (m.step e s).2 := rfl

theorem run_append (m : Machine state event output) (es ds : List event)
    (s : state) : m.run (es ++ ds) s = m.run ds (m.run es s) := by
  induction es generalizing s with
  | nil => rfl
  | cons e es ih => exact ih (m.step e s).2

def trace (m : Machine state event output) : List event -> state -> List output
  | [], _ => []
  | e :: rest, s => (m.step e s).1 :: m.trace rest (m.step e s).2

@[simp] theorem trace_nil (m : Machine state event output) (s : state) :
    m.trace [] s = [] := rfl

@[simp] theorem trace_cons (m : Machine state event output) (e : event)
    (es : List event) (s : state) :
    m.trace (e :: es) s = (m.step e s).1 :: m.trace es (m.step e s).2 := rfl

theorem trace_append (m : Machine state event output) (es ds : List event) (s : state) :
    m.trace (es ++ ds) s = m.trace es s ++ m.trace ds (m.run es s) := by
  induction es generalizing s with
  | nil => rfl
  | cons e es ih =>
      rw [List.cons_append, trace_cons, ih]
      rfl

/-- Every event of the list is allowed in the state in which it is consumed. -/
def Admissible (m : Machine state event output)
    (allowed : event -> state -> Prop) : List event -> state -> Prop
  | [], _ => True
  | e :: rest, s => allowed e s ∧ m.Admissible allowed rest (m.step e s).2

theorem admissible_append {m : Machine state event output}
    {allowed : event -> state -> Prop} {es ds : List event} {s : state} :
    m.Admissible allowed (es ++ ds) s <->
      m.Admissible allowed es s ∧ m.Admissible allowed ds (m.run es s) := by
  induction es generalizing s with
  | nil => simp [Admissible]
  | cons e es ih => simp [Admissible, ih, and_assoc]

theorem admissible_true (m : Machine state event output) (es : List event)
    (s : state) : m.Admissible (fun _ _ => True) es s := by
  induction es generalizing s with
  | nil => exact trivial
  | cons e es ih => exact ⟨trivial, ih _⟩

theorem admissible_of_forall {m : Machine state event output}
    {allowed : event -> Prop} {es : List event} (s : state)
    (h : forall e, e ∈ es -> allowed e) :
    m.Admissible (fun e _ => allowed e) es s := by
  induction es generalizing s with
  | nil => exact trivial
  | cons e es ih =>
      exact ⟨h e List.mem_cons_self,
        ih _ (fun d hd => h d (List.mem_cons_of_mem e hd))⟩

theorem run_invariant {m : Machine state event output}
    {allowed : event -> state -> Prop} {invariant : state -> Prop}
    (hstep : forall e s, allowed e s -> invariant s -> invariant (m.step e s).2)
    {es : List event} {s : state} (hs : invariant s)
    (hes : m.Admissible allowed es s) : invariant (m.run es s) := by
  induction es generalizing s with
  | nil => exact hs
  | cons e es ih => exact ih (hstep e s hes.1 hs) hes.2

end Machine

end Foundation
end VirtualFactory
