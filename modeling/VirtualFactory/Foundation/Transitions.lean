import VirtualFactory.Foundation.Machine

/-!
# Labelled transitions

What a component may do, as a relation between states with a label on every step.  A
machine refines such a relation when its states keep representing the states of a
path, and the labels of the path are then what the machine puts out.
-/

namespace VirtualFactory
namespace Foundation

variable {state abstract label event : Type}

abbrev Transitions (state label : Type) := state -> label -> state -> Prop

/-- A path with the labels of its steps. -/
inductive Path (t : Transitions state label) :
    state -> List label -> state -> Prop
  | nil (s : state) : Path t s [] s
  | cons {s s' last : state} {l : label} {ls : List label} (hstep : t s l s')
      (hrest : Path t s' ls last) : Path t s (l :: ls) last

namespace Path

theorem invariant {t : Transitions state label} {inv : state -> Prop}
    {s last : state} {ls : List label} (h : Path t s ls last)
    (hstep : forall s l s', t s l s' -> inv s -> inv s') (hs : inv s) :
    inv last := by
  induction h with
  | nil s => exact hs
  | cons h _ ih => exact ih (hstep _ _ _ h hs)

theorem append {t : Transitions state label} {s mid last : state}
    {ls ms : List label} (h : Path t s ls mid) (h' : Path t mid ms last) :
    Path t s (ls ++ ms) last := by
  induction h with
  | nil s => exact h'
  | cons hstep _ ih => exact Path.cons hstep (ih h')

theorem invariant_labels {t : Transitions state label}
    {inv : List label -> state -> Prop}
    (hstep : forall history s l s', t s l s' -> inv history s -> inv (history ++ [l]) s')
    {s last : state} {ls history : List label} (h : Path t s ls last)
    (hs : inv history s) : inv (history ++ ls) last := by
  induction h generalizing history with
  | nil s =>
      rw [List.append_nil]
      exact hs
  | @cons s s' last l ls h _ ih =>
      have hrest := ih (hstep history s l s' h hs)
      rw [List.append_assoc] at hrest
      exact hrest

theorem of_append {t : Transitions state label} {s last : state}
    {ls ms : List label} (h : Path t s (ls ++ ms) last) :
    exists mid, Path t s ls mid ∧ Path t mid ms last := by
  induction ls generalizing s with
  | nil => exact ⟨s, Path.nil s, h⟩
  | cons l ls ih =>
      cases h with
      | cons hstep hrest =>
          rcases ih hrest with ⟨mid, hleft, hright⟩
          exact ⟨mid, Path.cons hstep hleft, hright⟩

theorem foldl_labels {value : Type} {t : Transitions state label}
    {inv : state -> Prop} {view : state -> value} {next : value -> label -> value}
    {s last : state} {ls : List label} (h : Path t s ls last)
    (hinv : forall s l s', t s l s' -> inv s -> inv s')
    (hstep : forall s l s', t s l s' -> inv s -> view s' = next (view s) l)
    (hs : inv s) : view last = ls.foldl next (view s) := by
  induction h with
  | nil s => rfl
  | cons h _ ih => rw [List.foldl_cons, ← hstep _ _ _ h hs, ih (hinv _ _ _ h hs)]

end Path

/-- Steps with allowed labels can lead to a state of some kind. -/
def Attains (t : Transitions state label) (allowed : label -> Prop) (s : state)
    (goal : state -> Prop) : Prop :=
  exists ls last, Path t s ls last ∧ (forall l, l ∈ ls -> allowed l) ∧ goal last

namespace Attains

variable {t : Transitions state label} {allowed : label -> Prop} {s s' : state}
  {goal mid : state -> Prop}

theorem here (h : goal s) : Attains t allowed s goal :=
  ⟨[], s, Path.nil s, fun _ hl => (by cases hl), h⟩

theorem step {l : label} (hstep : t s l s') (hl : allowed l)
    (h : Attains t allowed s' goal) : Attains t allowed s goal := by
  rcases h with ⟨ls, last, hpath, hls, hgoal⟩
  refine ⟨l :: ls, last, Path.cons hstep hpath, ?_, hgoal⟩
  intro k hk
  rcases List.mem_cons.mp hk with rfl | hk
  · exact hl
  · exact hls k hk

theorem bind {inv : state -> Prop}
    (hinv : forall s l s', t s l s' -> inv s -> inv s') (hs : inv s)
    (h : Attains t allowed s mid)
    (hnext : forall s', inv s' -> mid s' -> Attains t allowed s' goal) :
    Attains t allowed s goal := by
  rcases h with ⟨ls, last, hpath, hls, hmid⟩
  rcases hnext last (hpath.invariant hinv hs) hmid with ⟨ms, final, hrest, hms, hgoal⟩
  refine ⟨ls ++ ms, final, hpath.append hrest, ?_, hgoal⟩
  intro k hk
  rcases List.mem_append.mp hk with hk | hk
  · exact hls k hk
  · exact hms k hk

theorem mono (h : Attains t allowed s mid) (hgoal : forall s', mid s' -> goal s') :
    Attains t allowed s goal := by
  rcases h with ⟨ls, last, hpath, hls, hmid⟩
  exact ⟨ls, last, hpath, hls, hgoal last hmid⟩

end Attains

/-- Every step of the machine is a transition between the states it represents. -/
def Machine.Refines (m : Machine state event label)
    (t : Transitions abstract label) (represents : state -> abstract -> Prop) :
    Prop :=
  forall e s x, represents s x ->
    exists y, t x (m.step e s).1 y ∧ represents (m.step e s).2 y

/-- Every run of a refining machine is a path. -/
theorem Machine.Refines.run {m : Machine state event label}
    {t : Transitions abstract label} {represents : state -> abstract -> Prop}
    (h : m.Refines t represents) (es : List event) {s : state} {x : abstract}
    (hs : represents s x) :
    exists y, Path t x (m.trace es s) y ∧ represents (m.run es s) y := by
  induction es generalizing s x with
  | nil => exact ⟨x, Path.nil x, hs⟩
  | cons e es ih =>
      rcases h e s x hs with ⟨y, hstep, hy⟩
      rcases ih hy with ⟨z, hpath, hz⟩
      exact ⟨z, Path.cons hstep hpath, hz⟩

end Foundation
end VirtualFactory
