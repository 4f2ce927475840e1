import VirtualFactory.Foundation.Loops
import VirtualFactory.Foundation.Machine

/-!
# Scripts

What an action adds to a log while it works off a script: a beginning of the script, and
the whole of it when the action succeeds.
-/

namespace VirtualFactory
namespace Foundation

variable {item state entry : Type} {log : state -> List entry}

/-- Between two states a beginning of the script is added to the log, and on success all
of it. -/
def Follows (log : state -> List entry) (script : List entry) (ok : Bool)
    (before after : state) : Prop :=
  exists said, log after = log before ++ said ∧ said <+: script ∧
    (ok = true -> said = script)

theorem follows_nil {before after : state} (h : log after = log before) (ok : Bool) :
    Follows log [] ok before after :=
  ⟨[], by rw [h, List.append_nil], List.prefix_refl [], fun _ => rfl⟩

theorem follows_failed {before after : state} (h : log after = log before)
    (script : List entry) : Follows log script false before after :=
  ⟨[], by rw [h, List.append_nil], List.nil_prefix, fun hok => Bool.noConfusion hok⟩

theorem follows_whole {before after : state} {script : List entry}
    (h : log after = log before ++ script) (ok : Bool) :
    Follows log script ok before after :=
  ⟨script, h, List.prefix_refl script, fun _ => rfl⟩

namespace Follows

variable {script more : List entry} {ok : Bool} {a b c : state}

theorem trans (hab : Follows log script true a b) (hbc : Follows log more ok b c) :
    Follows log (script ++ more) ok a c := by
  rcases hab with ⟨said, hsaid, _, hwhole⟩
  rcases hbc with ⟨next, hnext, hbegin, hall⟩
  rw [hwhole rfl] at hsaid
  refine ⟨script ++ next, ?_, List.prefix_append_right_inj script |>.mpr hbegin, ?_⟩
  · rw [hnext, hsaid, List.append_assoc]
  · intro hok
    rw [hall hok]

theorem stopped (h : Follows log script false a b) (more : List entry) :
    Follows log (script ++ more) false a b := by
  rcases h with ⟨said, hsaid, hbegin, _⟩
  exact ⟨said, hsaid, hbegin.trans (List.prefix_append script more),
    fun hok => Bool.noConfusion hok⟩

theorem congr {before after : state} (h : Follows log script ok a b)
    (hbefore : log before = log a) (hafter : log after = log b) :
    Follows log script ok before after := by
  unfold Follows
  rw [hbefore, hafter]
  exact h

theorem weaken {seen : Bool} (h : Follows log script ok a b)
    (hseen : seen = true -> ok = true) : Follows log script seen a b := by
  rcases h with ⟨said, hsaid, hbegin, hall⟩
  exact ⟨said, hsaid, hbegin, fun h => hall (hseen h)⟩

theorem filter (h : Follows log script ok a b) (part : entry -> Bool) :
    Follows (fun s => (log s).filter part) (script.filter part) ok a b := by
  rcases h with ⟨said, hsaid, hbegin, hall⟩
  refine ⟨said.filter part, ?_, hbegin.filter part, ?_⟩
  · show (log b).filter part = _
    rw [hsaid, List.filter_append]
  · intro hok
    rw [hall hok]

theorem map {other : Type} {state' : Type} {log' : state' -> List other}
    (h : Follows log script ok a b) (f : entry -> other) {a' b' : state'}
    (ha : log' a' = (log a).map f) (hb : log' b' = (log b).map f) :
    Follows log' (script.map f) ok a' b' := by
  rcases h with ⟨said, hsaid, hbegin, hall⟩
  refine ⟨said.map f, ?_, hbegin.map f, ?_⟩
  · rw [hb, hsaid, List.map_append, ha]
  · intro hok
    rw [hall hok]

theorem same (h : Follows log [] ok a b) : log b = log a := by
  rcases h with ⟨said, hsaid, hbegin, _⟩
  rw [hsaid, List.prefix_nil.mp hbegin, List.append_nil]

end Follows

/-!
# Chronicles
-/

/-- The entries of a log that is kept with the newest call first, the oldest entry
first. -/
def chronicle {call : Type} (read : call -> Option entry) (calls : List call) :
    List entry :=
  calls.reverse.filterMap read

@[simp] theorem chronicle_cons {call : Type} (read : call -> Option entry) (c : call)
    (calls : List call) :
    chronicle read (c :: calls) = chronicle read calls ++ (read c).toList := by
  unfold chronicle
  rw [List.reverse_cons, List.filterMap_append]
  cases hread : read c <;> simp [hread]

/-- A loop whose bodies work off their scripts works off the scripts of its items, one
after the other. -/
theorem updateUntilFailure_follows {body : item -> state -> Bool × item × state}
    {kept : state -> Prop} {script : item -> List entry} {xs : List item}
    (hbody : forall x, x ∈ xs -> forall s, kept s -> kept (body x s).2.2 ∧
      Follows log (script x) (body x s).1 s (body x s).2.2)
    {s : state} (hs : kept s) :
    kept (updateUntilFailure body xs s).2.2 ∧
      Follows log (xs.flatMap script) (updateUntilFailure body xs s).1 s
        (updateUntilFailure body xs s).2.2 := by
  induction xs generalizing s with
  | nil => exact ⟨hs, follows_nil rfl true⟩
  | cons x rest ih =>
      have hx := hbody x List.mem_cons_self s hs
      have hrest := fun y hy => hbody y (List.mem_cons_of_mem x hy)
      rw [List.flatMap_cons]
      unfold updateUntilFailure
      split
      · rename_i x' s' heq
        rw [heq] at hx
        have hafter := ih hrest hx.left
        exact ⟨hafter.left, hx.right.trans hafter.right⟩
      · rename_i x' s' heq
        rw [heq] at hx
        exact ⟨hx.left, hx.right.stopped (rest.flatMap script)⟩

/-!
# Runs
-/

/-- A log that has been made of beginnings of the scripts, one after the other, and of
the whole of every script that succeeded. -/
inductive Scripted : List (List entry × Bool) -> List entry -> Prop
  | nil : Scripted [] []
  | cons {script piece said : List entry} {ok : Bool} {rest : List (List entry × Bool)}
      (hbegin : piece <+: script) (hall : ok = true -> piece = script)
      (hrest : Scripted rest said) : Scripted ((script, ok) :: rest) (piece ++ said)

namespace Machine

variable {event output value : Type}

/-- What a function makes of the events of a run and the states in which they come. -/
def along (m : Machine state event output) (f : event -> state -> value) :
    List event -> state -> List value
  | [], _ => []
  | e :: rest, s => f e s :: m.along f rest (m.step e s).2

/-- A machine whose steps work off scripts works off the scripts of its run. -/
theorem run_scripted {m : Machine state event output} {inv : state -> Prop}
    {script : event -> state -> List entry} {ok : event -> state -> Bool}
    (hstep : forall e s, inv s -> inv (m.step e s).2 ∧
      Follows log (script e s) (ok e s) s (m.step e s).2)
    (es : List event) {s : state} (hs : inv s) :
    exists said, log (m.run es s) = log s ++ said ∧
      Scripted (m.along (fun e s => (script e s, ok e s)) es s) said := by
  induction es generalizing s with
  | nil => exact ⟨[], (List.append_nil _).symm, Scripted.nil⟩
  | cons e es ih =>
      rcases hstep e s hs with ⟨hafter, piece, hpiece, hbegin, hall⟩
      rcases ih hafter with ⟨said, hsaid, hscripted⟩
      refine ⟨piece ++ said, ?_, Scripted.cons hbegin hall hscripted⟩
      rw [run_cons, hsaid, hpiece, List.append_assoc]

end Machine

end Foundation
end VirtualFactory
