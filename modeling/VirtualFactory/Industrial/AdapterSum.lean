import VirtualFactory.Industrial.Operations

/-!
# Adapters of two kinds

An adapter of one of two kinds is an adapter again.  Its device has one part for each
kind, and a stimulus of the other kind does not reach it.
-/

namespace VirtualFactory

open Foundation

variable {left right device device' stimulus stimulus' : Type}
  [IndustrialAdapter left device stimulus] [IndustrialAdapter right device' stimulus']

instance : IndustrialAdapter (left ⊕ right) (device × device')
    (stimulus ⊕ stimulus') where
  adapterId := Sum.elim IndustrialAdapter.adapterId IndustrialAdapter.adapterId
  protocol := Sum.elim IndustrialAdapter.protocol IndustrialAdapter.protocol
  connectionState :=
    Sum.elim IndustrialAdapter.connectionState IndustrialAdapter.connectionState
  lastError := Sum.elim IndustrialAdapter.lastError IndustrialAdapter.lastError
  connect d a ids :=
    match a with
    | .inl a =>
        let r := IndustrialAdapter.connect d.1 a ids
        (r.1, .inl r.2.1, r.2.2)
    | .inr a =>
        let r := IndustrialAdapter.connect d.2 a ids
        (r.1, .inr r.2.1, r.2.2)
  disconnect d a ids :=
    match a with
    | .inl a =>
        let r := IndustrialAdapter.disconnect d.1 a ids
        (.inl r.1, r.2)
    | .inr a =>
        let r := IndustrialAdapter.disconnect d.2 a ids
        (.inr r.1, r.2)
  equipment := Sum.elim IndustrialAdapter.equipment IndustrialAdapter.equipment
  equipmentById :=
    Sum.elim IndustrialAdapter.equipmentById IndustrialAdapter.equipmentById
  poll d a ids :=
    match a with
    | .inl a =>
        let r := IndustrialAdapter.poll d.1 a ids
        (.inl r.1, r.2)
    | .inr a =>
        let r := IndustrialAdapter.poll d.2 a ids
        (.inr r.1, r.2)
  execute d a equipmentId command parameter ids :=
    match a with
    | .inl a =>
        (IndustrialAdapter.execute d.1 a equipmentId command parameter ids).map
          (fun r => (r.1, .inl r.2.1, r.2.2))
    | .inr a =>
        (IndustrialAdapter.execute d.2 a equipmentId command parameter ids).map
          (fun r => (r.1, .inr r.2.1, r.2.2))
  stimulate s a :=
    match s, a with
    | .inl s, .inl a => .inl (IndustrialAdapter.stimulate s a)
    | .inr s, .inr a => .inr (IndustrialAdapter.stimulate s a)
    | _, a => a
  id_connect d a ids := by
    cases a with
    | inl a => exact IndustrialAdapter.id_connect d.1 a ids
    | inr a => exact IndustrialAdapter.id_connect d.2 a ids
  id_disconnect d a ids := by
    cases a with
    | inl a => exact IndustrialAdapter.id_disconnect d.1 a ids
    | inr a => exact IndustrialAdapter.id_disconnect d.2 a ids
  id_poll d a ids := by
    cases a with
    | inl a => exact IndustrialAdapter.id_poll d.1 a ids
    | inr a => exact IndustrialAdapter.id_poll d.2 a ids
  id_execute := by
    intro d a equipmentId command parameter ids result h
    cases a with
    | inl a =>
        rcases Option.map_eq_some_iff.mp h with ⟨r, hr, rfl⟩
        exact IndustrialAdapter.id_execute d.1 a equipmentId command parameter ids r hr
    | inr a =>
        rcases Option.map_eq_some_iff.mp h with ⟨r, hr, rfl⟩
        exact IndustrialAdapter.id_execute d.2 a equipmentId command parameter ids r hr
  id_stimulate s a := by
    cases s with
    | inl s =>
        cases a with
        | inl a => exact IndustrialAdapter.id_stimulate s a
        | inr a => rfl
    | inr s =>
        cases a with
        | inl a => rfl
        | inr a => exact IndustrialAdapter.id_stimulate s a

instance [LawfulPoll left] [LawfulPoll right] : LawfulPoll (left ⊕ right) where
  poll_exposedIds d a ids h := by
    cases a with
    | inl a => exact LawfulPoll.poll_exposedIds d.1 a ids h
    | inr a => exact LawfulPoll.poll_exposedIds d.2 a ids h
  poll_connectionState d a ids h := by
    cases a with
    | inl a => exact LawfulPoll.poll_connectionState d.1 a ids h
    | inr a => exact LawfulPoll.poll_connectionState d.2 a ids h
  poll_local d a h := by
    cases a with
    | inl a =>
        rcases LawfulPoll.poll_local d.1 a h with ⟨b, dropped, hpoll⟩
        refine ⟨.inl b, dropped, fun ids => ?_⟩
        show (Sum.inl (IndustrialAdapter.poll d.1 a ids).1, _) = _
        rw [hpoll]
    | inr a =>
        rcases LawfulPoll.poll_local d.2 a h with ⟨b, dropped, hpoll⟩
        refine ⟨.inr b, dropped, fun ids => ?_⟩
        show (Sum.inr (IndustrialAdapter.poll d.2 a ids).1, _) = _
        rw [hpoll]

namespace IndustrialAdapter

variable (right) in
theorem operate_inl (event : AdapterEvent (device × device') (stimulus ⊕ stimulus'))
    (a : left) :
    (forall ids, operate event ((Sum.inl a : left ⊕ right), ids) =
        (.stimulated, Sum.inl a, ids)) ∨
      exists own : AdapterEvent device stimulus, forall ids,
        operate event ((Sum.inl a : left ⊕ right), ids) =
          ((operate own (a, ids)).1, Sum.inl (operate own (a, ids)).2.1,
            (operate own (a, ids)).2.2) := by
  rcases event with ⟨operation, d⟩
  cases operation with
  | connect => exact Or.inr ⟨⟨.connect, d.1⟩, fun _ => rfl⟩
  | disconnect => exact Or.inr ⟨⟨.disconnect, d.1⟩, fun _ => rfl⟩
  | poll => exact Or.inr ⟨⟨.poll, d.1⟩, fun _ => rfl⟩
  | execute equipmentId command parameter =>
      right
      refine ⟨⟨.execute equipmentId command parameter, d.1⟩, fun ids => ?_⟩
      have hexecute : execute d (Sum.inl a : left ⊕ right) equipmentId command
          parameter ids =
            (execute d.1 a equipmentId command parameter ids).map
              (fun r => (r.1, .inl r.2.1, r.2.2)) := rfl
      cases hr : execute d.1 a equipmentId command parameter ids with
      | none =>
          rw [operate_execute_of_none (by rw [hexecute, hr, Option.map_none]),
            operate_execute_of_none hr]
      | some r =>
          rw [operate_execute_of_some (by rw [hexecute, hr, Option.map_some]),
            operate_execute_of_some hr]
  | stimulate s =>
      cases s with
      | inl s => exact Or.inr ⟨⟨.stimulate s, d.1⟩, fun _ => rfl⟩
      | inr s => exact Or.inl (fun _ => rfl)

variable (left) in
theorem operate_inr (event : AdapterEvent (device × device') (stimulus ⊕ stimulus'))
    (a : right) :
    (forall ids, operate event ((Sum.inr a : left ⊕ right), ids) =
        (.stimulated, Sum.inr a, ids)) ∨
      exists own : AdapterEvent device' stimulus', forall ids,
        operate event ((Sum.inr a : left ⊕ right), ids) =
          ((operate own (a, ids)).1, Sum.inr (operate own (a, ids)).2.1,
            (operate own (a, ids)).2.2) := by
  rcases event with ⟨operation, d⟩
  cases operation with
  | connect => exact Or.inr ⟨⟨.connect, d.2⟩, fun _ => rfl⟩
  | disconnect => exact Or.inr ⟨⟨.disconnect, d.2⟩, fun _ => rfl⟩
  | poll => exact Or.inr ⟨⟨.poll, d.2⟩, fun _ => rfl⟩
  | execute equipmentId command parameter =>
      right
      refine ⟨⟨.execute equipmentId command parameter, d.2⟩, fun ids => ?_⟩
      have hexecute : execute d (Sum.inr a : left ⊕ right) equipmentId command
          parameter ids =
            (execute d.2 a equipmentId command parameter ids).map
              (fun r => (r.1, .inr r.2.1, r.2.2)) := rfl
      cases hr : execute d.2 a equipmentId command parameter ids with
      | none =>
          rw [operate_execute_of_none (by rw [hexecute, hr, Option.map_none]),
            operate_execute_of_none hr]
      | some r =>
          rw [operate_execute_of_some (by rw [hexecute, hr, Option.map_some]),
            operate_execute_of_some hr]
  | stimulate s =>
      cases s with
      | inl s => exact Or.inl (fun _ => rfl)
      | inr s => exact Or.inr ⟨⟨.stimulate s, d.2⟩, fun _ => rfl⟩

theorem stable_elim {kept : left -> Prop} {kept' : right -> Prop}
    (h : Stable kept) (h' : Stable kept') :
    Stable (Sum.elim kept kept' : left ⊕ right -> Prop) := by
  intro event a ids ha
  cases a with
  | inl a =>
      rcases operate_inl right event a with hsame | ⟨own, hinl⟩
      · rw [hsame]
        exact ha
      · rw [hinl]
        exact h own a ids ha
  | inr a =>
      rcases operate_inr left event a with hsame | ⟨own, hinr⟩
      · rw [hsame]
        exact ha
      · rw [hinr]
        exact h' own a ids ha

end IndustrialAdapter

end VirtualFactory
