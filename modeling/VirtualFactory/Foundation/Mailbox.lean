import Mathlib.Data.List.Basic
import Mathlib.Algebra.GroupWithZero.Nat
import Mathlib.Algebra.NeZero

/-!
# Bounded mailboxes

A bounded queue that drops its oldest item when a new one arrives and it is full.
The mailbox also remembers what became of every item that left it, so that the
history of arrivals can be stated.
-/

namespace VirtualFactory
namespace Foundation

variable {item : Type} {capacity : Nat}

/-- How an item leaves a mailbox. -/
inductive Fate where
  | received
  | evicted
  | discarded
  deriving DecidableEq

/-- The items that have left, oldest first, and the items that wait.  An item is
evicted only when as many items as the mailbox holds have arrived behind it. -/
structure Mailbox (item : Type) (capacity : Nat) where
  removed : List (Fate × item)
  queue : List item
  bounded : queue.length ≤ capacity
  evicted_behind : forall i x, removed[i]? = some (.evicted, x) ->
    i + capacity < removed.length + queue.length

namespace Mailbox

def empty : Mailbox item capacity where
  removed := []
  queue := []
  bounded := Nat.zero_le capacity
  evicted_behind := by
    intro i x h
    cases h

def arrivals (m : Mailbox item capacity) : List item :=
  m.removed.map Prod.snd ++ m.queue

def withFate (fate : Fate) (gone : List (Fate × item)) : List item :=
  (gone.filter (fun e => e.1 = fate)).map Prod.snd

def received (m : Mailbox item capacity) : List item :=
  withFate .received m.removed

/-- Append an item, dropping the oldest one when the mailbox is full. -/
def arrive [NeZero capacity] (m : Mailbox item capacity) (x : item) :
    Mailbox item capacity :=
  if hfull : capacity ≤ m.queue.length then
    { removed := m.removed ++ (m.queue.take 1).map (fun y => (.evicted, y))
      queue := m.queue.drop 1 ++ [x]
      bounded := by
        have hpos := Nat.pos_of_ne_zero (NeZero.ne capacity)
        have hbounded := m.bounded
        simp only [List.length_append, List.length_drop, List.length_singleton]
        omega
      evicted_behind := by
        intro i y h
        have hpos := Nat.pos_of_ne_zero (NeZero.ne capacity)
        have hlength : (m.queue.take 1).length = 1 := by
          rw [List.length_take]
          omega
        simp only [List.length_append, List.length_map, List.length_drop,
          List.length_singleton, hlength]
        cases Nat.lt_or_ge i m.removed.length with
        | inl hold =>
            rw [List.getElem?_append_left hold] at h
            have hbehind := m.evicted_behind i y h
            omega
        | inr hnew =>
            have hi : i < (m.removed ++ (m.queue.take 1).map
                (fun y => (Fate.evicted, y))).length :=
              (List.getElem?_eq_some_iff.mp h).1
            rw [List.length_append, List.length_map, hlength] at hi
            omega }
  else
    { removed := m.removed
      queue := m.queue ++ [x]
      bounded := by
        rw [List.length_append, List.length_singleton]
        omega
      evicted_behind := by
        intro i y h
        have hbehind := m.evicted_behind i y h
        rw [List.length_append, List.length_singleton]
        omega }

/-- Hand out the oldest item. -/
def take (m : Mailbox item capacity) : Option item × Mailbox item capacity :=
  match hqueue : m.queue with
  | [] => (none, m)
  | x :: rest =>
      (some x,
        { removed := m.removed ++ [(.received, x)]
          queue := rest
          bounded := by
            have hbounded := m.bounded
            rw [hqueue, List.length_cons] at hbounded
            omega
          evicted_behind := by
            intro i y h
            have hold : i < m.removed.length := by
              by_contra hnew
              rw [List.getElem?_append_right (Nat.le_of_not_lt hnew)] at h
              cases hi : i - m.removed.length with
              | zero => rw [hi] at h; cases h
              | succ j => rw [hi] at h; cases h
            rw [List.getElem?_append_left hold] at h
            have hbehind := m.evicted_behind i y h
            rw [hqueue, List.length_cons] at hbehind
            rw [List.length_append, List.length_singleton]
            omega })

def discardAll (m : Mailbox item capacity) : Mailbox item capacity where
  removed := m.removed ++ m.queue.map (fun x => (.discarded, x))
  queue := []
  bounded := Nat.zero_le capacity
  evicted_behind := by
    intro i y h
    rw [List.length_append, List.length_map, List.length_nil]
    cases Nat.lt_or_ge i m.removed.length with
    | inl hold =>
        rw [List.getElem?_append_left hold] at h
        have hbehind := m.evicted_behind i y h
        omega
    | inr hnew =>
        rw [List.getElem?_append_right hnew, List.getElem?_map] at h
        cases hx : m.queue[i - m.removed.length]? with
        | none => rw [hx] at h; cases h
        | some x => rw [hx] at h; cases h

/-!
# What the operations do to the history
-/

theorem withFate_append (fate : Fate) (gone more : List (Fate × item)) :
    withFate fate (gone ++ more) = withFate fate gone ++ withFate fate more := by
  simp [withFate]

theorem withFate_map_of_ne {fate other : Fate} (h : other ≠ fate)
    (xs : List item) : withFate fate (xs.map (fun x => (other, x))) = [] := by
  simp [withFate, List.filter_map, Function.comp_def, h]

@[simp] theorem arrivals_arrive [NeZero capacity] (m : Mailbox item capacity)
    (x : item) : (m.arrive x).arrivals = m.arrivals ++ [x] := by
  unfold arrive
  split
  · have hqueue := List.take_append_drop 1 m.queue
    simp only [arrivals, List.map_append, List.map_map, Function.comp_def,
      List.map_id', List.append_assoc]
    rw [← List.append_assoc (m.queue.take 1), hqueue]
  · simp [arrivals]

theorem queue_arrive [NeZero capacity] (m : Mailbox item capacity) (x : item) :
    (m.arrive x).queue =
      (m.queue ++ [x]).drop ((m.queue ++ [x]).length - capacity) := by
  have hbounded := m.bounded
  unfold arrive
  split
  · rename_i hfull
    have hone : (m.queue ++ [x]).length - capacity = 1 := by
      rw [List.length_append, List.length_singleton]
      omega
    have hpos := Nat.pos_of_ne_zero (NeZero.ne capacity)
    rw [hone, List.drop_append_of_le_length (by omega)]
  · have hzero : (m.queue ++ [x]).length - capacity = 0 := by
      rw [List.length_append, List.length_singleton]
      omega
    rw [hzero, List.drop_zero]

def arriveAll [NeZero capacity] (m : Mailbox item capacity) (xs : List item) :
    Mailbox item capacity :=
  xs.foldl arrive m

theorem arriveAll_append [NeZero capacity] (m : Mailbox item capacity)
    (xs ys : List item) : m.arriveAll (xs ++ ys) = (m.arriveAll xs).arriveAll ys :=
  List.foldl_append

theorem arrivals_arriveAll [NeZero capacity] (m : Mailbox item capacity)
    (xs : List item) : (m.arriveAll xs).arrivals = m.arrivals ++ xs := by
  induction xs generalizing m with
  | nil => exact (List.append_nil m.arrivals).symm
  | cons x rest ih =>
      show ((m.arrive x).arriveAll rest).arrivals = _
      rw [ih, arrivals_arrive, List.append_assoc]
      rfl

theorem removed_arriveAll [NeZero capacity] (m : Mailbox item capacity)
    (xs : List item) : exists gone : List item,
      (m.arriveAll xs).removed = m.removed ++ gone.map (fun x => (.evicted, x)) := by
  induction xs generalizing m with
  | nil => exact ⟨[], (List.append_nil m.removed).symm⟩
  | cons x rest ih =>
      have hone : exists gone : List item,
          (m.arrive x).removed = m.removed ++ gone.map (fun x => (.evicted, x)) := by
        unfold arrive
        split
        · exact ⟨m.queue.take 1, rfl⟩
        · exact ⟨[], (List.append_nil m.removed).symm⟩
      rcases hone with ⟨first, hfirst⟩
      rcases ih (m.arrive x) with ⟨gone, hgone⟩
      refine ⟨first ++ gone, ?_⟩
      rw [List.map_append, ← List.append_assoc, ← hfirst]
      exact hgone

theorem received_arriveAll [NeZero capacity] (m : Mailbox item capacity)
    (xs : List item) : (m.arriveAll xs).received = m.received := by
  rcases m.removed_arriveAll xs with ⟨gone, hgone⟩
  rw [received, hgone, withFate_append, withFate_map_of_ne (by decide),
    List.append_nil]
  rfl

theorem queue_arriveAll [NeZero capacity] (m : Mailbox item capacity)
    (xs : List item) :
    (m.arriveAll xs).queue =
      (m.queue ++ xs).drop ((m.queue ++ xs).length - capacity) := by
  induction xs generalizing m with
  | nil =>
      have hbounded := m.bounded
      rw [List.append_nil, Nat.sub_eq_zero_of_le hbounded, List.drop_zero]
      rfl
  | cons x rest ih =>
      have hpos := Nat.pos_of_ne_zero (NeZero.ne capacity)
      show ((m.arrive x).arriveAll rest).queue = _
      rw [ih, queue_arrive]
      -- what the first item drops is dropped in the end as well
      generalize hwaiting : m.queue ++ [x] = waiting
      have hsplit : m.queue ++ x :: rest = waiting ++ rest := by
        rw [← hwaiting, List.append_assoc]
        rfl
      have hdrop : waiting.drop (waiting.length - capacity) ++ rest =
          (waiting ++ rest).drop (waiting.length - capacity) :=
        (List.drop_append_of_le_length (Nat.sub_le _ _)).symm
      rw [hsplit, hdrop, List.drop_drop]
      congr 1
      simp only [List.length_drop, List.length_append]
      omega

/-- An item is evicted when as many items as the mailbox holds arrive behind it. -/
theorem queue_arriveAll_cons [NeZero capacity] {m : Mailbox item capacity}
    (hempty : m.queue = []) (x : item) {xs : List item} (h : xs.length = capacity) :
    (m.arriveAll (x :: xs)).queue = xs := by
  rw [queue_arriveAll, hempty, List.nil_append, List.length_cons, h,
    Nat.add_sub_cancel_left]
  rfl

theorem take_cases (m : Mailbox item capacity) :
    (m.queue = [] ∧ m.take = (none, m)) ∨
      exists x : item, m.queue = x :: m.take.2.queue ∧ m.take.1 = some x ∧
        m.take.2.removed = m.removed ++ [(.received, x)] := by
  unfold take
  split
  · rename_i hqueue
    exact Or.inl ⟨hqueue, rfl⟩
  · rename_i x rest hqueue
    exact Or.inr ⟨x, hqueue, rfl, rfl⟩

@[simp] theorem arrivals_take (m : Mailbox item capacity) :
    m.take.2.arrivals = m.arrivals := by
  rcases m.take_cases with ⟨_, htake⟩ | ⟨x, hqueue, _, hremoved⟩
  · rw [htake]
  · rw [arrivals, hremoved, arrivals, hqueue]
    simp

theorem received_take (m : Mailbox item capacity) :
    m.take.2.received = m.received ++ m.take.1.toList := by
  rcases m.take_cases with ⟨_, htake⟩ | ⟨x, _, hsome, hremoved⟩
  · rw [htake, Option.toList_none, List.append_nil]
  · rw [received, hremoved, withFate_append, hsome]
    rfl

@[simp] theorem arrivals_discardAll (m : Mailbox item capacity) :
    m.discardAll.arrivals = m.arrivals := by
  simp [discardAll, arrivals, Function.comp_def]

@[simp] theorem received_discardAll (m : Mailbox item capacity) :
    m.discardAll.received = m.received := by
  rw [received, discardAll, withFate_append, withFate_map_of_ne (by decide),
    List.append_nil]
  rfl

@[simp] theorem queue_discardAll (m : Mailbox item capacity) :
    m.discardAll.queue = [] := rfl

/-!
# How soon items leave
-/

/-- A mailbox goes on to another one in which some more of the items that had arrived
have left, as far as there were so many. -/
structure Served (m : Mailbox item capacity) (n : Nat) (m' : Mailbox item capacity) :
    Prop where
  arrivals : m.arrivals <+: m'.arrivals
  removed : m.removed <+: m'.removed
  progress : min m.arrivals.length (m.removed.length + n) ≤ m'.removed.length

theorem served_refl (m : Mailbox item capacity) : m.Served 0 m :=
  ⟨List.prefix_rfl, List.prefix_rfl, Nat.min_le_right _ _⟩

theorem served_of_empty {m : Mailbox item capacity} (h : m.queue = []) (n : Nat) :
    m.Served n m := by
  refine ⟨List.prefix_rfl, List.prefix_rfl, ?_⟩
  have hall : m.arrivals.length = m.removed.length := by
    rw [Mailbox.arrivals, h, List.append_nil, List.length_map]
  rw [hall]
  exact Nat.min_le_left _ _

theorem Served.trans {m m' m'' : Mailbox item capacity} {n k : Nat}
    (h : m.Served n m') (h' : m'.Served k m'') : m.Served (n + k) m'' := by
  refine ⟨h.arrivals.trans h'.arrivals, h.removed.trans h'.removed, ?_⟩
  have hfirst := h.progress
  have hsecond := h'.progress
  have hmore := h.arrivals.length_le
  have hkept := h'.removed.length_le
  omega

theorem served_arriveAll [NeZero capacity] (m : Mailbox item capacity)
    (xs : List item) : m.Served 0 (m.arriveAll xs) := by
  rcases m.removed_arriveAll xs with ⟨gone, hgone⟩
  refine ⟨⟨xs, (m.arrivals_arriveAll xs).symm⟩, ⟨_, hgone.symm⟩, ?_⟩
  rw [hgone, List.length_append]
  omega

theorem served_take (m : Mailbox item capacity) : m.Served 1 m.take.2 := by
  rcases m.take_cases with ⟨hempty, htake⟩ | ⟨x, _, _, hremoved⟩
  · rw [htake]
    exact served_of_empty hempty 1
  · refine ⟨⟨[], by rw [List.append_nil, arrivals_take]⟩, ⟨_, hremoved.symm⟩, ?_⟩
    rw [hremoved, List.length_append, List.length_singleton]
    exact Nat.min_le_right _ _

/-- As many receives as the mailbox holds are enough for everything that waits. -/
theorem Served.everything {m m' : Mailbox item capacity} {n : Nat} (h : m.Served n m')
    (hn : capacity ≤ n) : m.arrivals.length ≤ m'.removed.length := by
  have hprogress := h.progress
  have hbounded := m.bounded
  rw [Mailbox.arrivals, List.length_append, List.length_map] at hprogress ⊢
  omega

end Mailbox

end Foundation
end VirtualFactory
