import VirtualFactory.Foundation.Machine
import Mathlib.Data.List.Forall2

/-!
# Two runs seen from outside

An observer sees a part of what a machine does, and some events not at all.  Two runs
look the same to him when every step keeps their states alike in what he can see.
-/

namespace VirtualFactory
namespace Foundation
namespace Machine

variable {state event output view : Type}

/-- What an observer sees after each event that is not hidden from him. -/
def observed (m : Machine state event output) (hidden : event -> Bool)
    (see : output -> state -> view) : List event -> state -> List view
  | [], _ => []
  | e :: rest, s =>
      let r := m.step e s
      if hidden e then m.observed hidden see rest r.2
      else see r.1 r.2 :: m.observed hidden see rest r.2

/-- What a step has to do so that two runs look the same: hidden events keep the
states alike, and events that are the same to the observer also show him the same. -/
structure Unwinds (m : Machine state event output) (allowed : event -> Prop)
    (hidden : event -> Bool) (same : event -> event -> Prop)
    (see : output -> state -> view) (alike : state -> state -> Prop) : Prop where
  left : forall e s t, allowed e -> hidden e = true -> alike s t ->
    alike (m.step e s).2 t
  right : forall e s t, allowed e -> hidden e = true -> alike s t ->
    alike s (m.step e t).2
  both : forall e d s t, allowed e -> allowed d -> same e d -> alike s t ->
    see (m.step e s).1 (m.step e s).2 = see (m.step d t).1 (m.step d t).2 ∧
      alike (m.step e s).2 (m.step d t).2

section

variable {m : Machine state event output} {allowed : event -> Prop}
  {hidden : event -> Bool} {same : event -> event -> Prop}
  {see : output -> state -> view} {alike : state -> state -> Prop}

theorem observed_of_hidden {e : event} (h : hidden e = true) (es : List event)
    (s : state) :
    m.observed hidden see (e :: es) s = m.observed hidden see es (m.step e s).2 :=
  if_pos h

theorem observed_of_not_hidden {e : event} (h : hidden e = false) (es : List event)
    (s : state) :
    m.observed hidden see (e :: es) s =
      see (m.step e s).1 (m.step e s).2 ::
        m.observed hidden see es (m.step e s).2 :=
  if_neg (by simp [h])

/-- Runs that differ in hidden events only, up to what is the same to the observer,
look the same to him. -/
theorem Unwinds.observed_eq (h : m.Unwinds allowed hidden same see alike)
    {es ds : List event}
    (hsame : List.Forall₂ same (es.filter (fun e => !hidden e))
      (ds.filter (fun d => !hidden d)))
    (hes : forall e, e ∈ es -> allowed e) (hds : forall d, d ∈ ds -> allowed d)
    {s t : state} (hst : alike s t) :
    m.observed hidden see es s = m.observed hidden see ds t := by
  induction es generalizing ds s t with
  | nil =>
      induction ds generalizing t with
      | nil => rfl
      | cons d ds ihd =>
          cases hd : hidden d with
          | true =>
              rw [observed_of_hidden hd]
              refine ihd ?_ (fun x hx => hds x (List.mem_cons_of_mem d hx))
                (h.right d s t (hds d List.mem_cons_self) hd hst)
              simpa [hd] using hsame
          | false => simp [hd] at hsame
  | cons e es ih =>
      have hrest : forall x, x ∈ es -> allowed x := fun x hx =>
        hes x (List.mem_cons_of_mem e hx)
      cases he : hidden e with
      | true =>
          rw [observed_of_hidden he]
          refine ih ?_ hrest hds (h.left e s t (hes e List.mem_cons_self) he hst)
          simpa [he] using hsame
      | false =>
          -- the partner of the event is behind the hidden events of the other run
          induction ds generalizing t with
          | nil => simp [he] at hsame
          | cons d ds ihd =>
              have hlater : forall x, x ∈ ds -> allowed x := fun x hx =>
                hds x (List.mem_cons_of_mem d hx)
              cases hd : hidden d with
              | true =>
                  rw [observed_of_hidden hd]
                  refine ihd ?_ hlater
                    (h.right d s t (hds d List.mem_cons_self) hd hst)
                  simpa [hd] using hsame
              | false =>
                  rw [List.filter_cons_of_pos (by simp [he]),
                    List.filter_cons_of_pos (by simp [hd])] at hsame
                  rcases List.forall₂_cons.mp hsame with ⟨hed, htail⟩
                  rcases h.both e d s t (hes e List.mem_cons_self)
                    (hds d List.mem_cons_self) hed hst with ⟨hsee, halike⟩
                  rw [observed_of_not_hidden he, observed_of_not_hidden hd, hsee,
                    ih htail hrest hlater halike]

end

end Machine

end Foundation
end VirtualFactory
