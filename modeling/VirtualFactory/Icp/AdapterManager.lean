import VirtualFactory.Foundation.Table
import VirtualFactory.Industrial.IndustrialAdapter

/-!
# The adapter manager

The manager owns the adapters of the runtime, each under its own identifier.  The
order in which it visits them is arbitrary.
-/

namespace VirtualFactory
namespace Icp

open Foundation IndustrialAdapter

structure AdapterManagerResult where
  ok : Bool
  message : String
  deriving DecidableEq

variable {adapter device stimulus state : Type}
  [IndustrialAdapter adapter device stimulus]

/-- The registered adapters, each under its own identifier. -/
structure AdapterManager (adapter : Type) {device stimulus : Type}
    [IndustrialAdapter adapter device stimulus] where
  adapters : Table String adapter
  keyed : forall e, e ∈ adapters.entries -> adapterId e.2 = e.1

namespace AdapterManager

def empty : AdapterManager adapter where
  adapters := Table.empty
  keyed := by
    intro e he
    cases he

def find? (m : AdapterManager adapter) (key : String) : Option adapter :=
  m.adapters.find? key

theorem adapterId_of_find? {m : AdapterManager adapter} {key : String} {a : adapter}
    (h : m.find? key = some a) : adapterId a = key :=
  m.keyed (key, a) ((m.adapters.mem_entries_iff key a).mpr h)

def registered (m : AdapterManager adapter) : List adapter :=
  m.adapters.entries.map Prod.snd

theorem map_adapterId_registered (m : AdapterManager adapter) :
    m.registered.map adapterId = m.adapters.keys := by
  unfold registered Table.keys
  rw [List.map_map]
  exact List.map_congr_left m.keyed

theorem nodup_registered (m : AdapterManager adapter) :
    (m.registered.map adapterId).Nodup := by
  rw [map_adapterId_registered]
  exact m.adapters.nodupKeys

theorem mem_registered_iff (m : AdapterManager adapter) (a : adapter) :
    a ∈ m.registered <-> m.find? (adapterId a) = some a := by
  unfold registered find?
  rw [← Table.mem_entries_iff]
  constructor
  · intro h
    rcases List.mem_map.mp h with ⟨e, he, rfl⟩
    rw [m.keyed e he]
    exact he
  · intro h
    exact List.mem_map_of_mem (f := Prod.snd) h

def modify (m : AdapterManager adapter) (key : String) (f : adapter -> adapter)
    (hf : forall a, adapterId (f a) = adapterId a) : AdapterManager adapter where
  adapters := m.adapters.modify key f
  keyed := by
    intro e he
    rcases List.mem_map.mp he with ⟨d, hd, rfl⟩
    dsimp only
    split
    · rw [hf, m.keyed d hd]
    · exact m.keyed d hd

def visit (m : AdapterManager adapter) (f : adapter -> state -> adapter × state)
    (hf : forall a s, adapterId (f a s).1 = adapterId a) (s : state) :
    AdapterManager adapter × state :=
  ({ adapters := (m.adapters.visit (fun _ => f) s).1
     keyed := by
       intro e he
       rcases Table.mem_visitEntries he with ⟨a, s', ha, hresult⟩
       rw [hresult, hf]
       exact m.keyed (e.1, a) ha },
    (m.adapters.visit (fun _ => f) s).2)

/-- Visit the adapters in another order from now on. -/
def rehash (m : AdapterManager adapter) (order : List String) :
    AdapterManager adapter where
  adapters := m.adapters.reorder order
  keyed := fun e he => m.keyed e ((m.adapters.reorder_perm order).mem_iff.mp he)

theorem find?_modify (m : AdapterManager adapter) (key : String)
    (f : adapter -> adapter) (hf : forall a, adapterId (f a) = adapterId a)
    (k : String) :
    (m.modify key f hf).find? k =
      if k = key then (m.find? k).map f else m.find? k := by
  refine (m.adapters.find?_modify key f k).trans ?_
  by_cases hk : k = key
  · rw [if_pos hk, if_pos hk, hk]
    rfl
  · rw [if_neg hk, if_neg hk]
    rfl

theorem find?_rehash (m : AdapterManager adapter) (order : List String)
    (k : String) : (m.rehash order).find? k = m.find? k :=
  m.adapters.find?_reorder order k

/-!
# Lookups
-/

/-- The first machine that an adapter answers for an identifier, with that
adapter. -/
def locate (m : AdapterManager adapter) (equipmentId : String) :
    Option (String × EquipmentView) :=
  m.adapters.entries.findSome? fun entry =>
    (IndustrialAdapter.equipmentById entry.2 equipmentId).map
      (fun e => (entry.1, e))

def equipmentById (m : AdapterManager adapter) (equipmentId : String) :
    Option EquipmentView :=
  (m.locate equipmentId).map Prod.snd

def allEquipment (m : AdapterManager adapter) : List EquipmentView :=
  m.adapters.entries.flatMap (fun entry => exposed entry.2)

/-- Whether another adapter answers for an identifier. -/
def checkEquipmentIdCollisions (m : AdapterManager adapter) (key : String)
    (candidate : adapter) : AdapterManagerResult :=
  let collision :=
    (exposed candidate).findSome? fun e =>
      m.adapters.entries.findSome? fun entry =>
        if entry.1 = key then none
        else
          (IndustrialAdapter.equipmentById entry.2 e.id).map
            (fun _ => (e.id, adapterId entry.2))
  match collision with
  | some (equipmentId, other) =>
      ⟨false, "equipment id collision: " ++ equipmentId ++ " also on adapter " ++ other⟩
  | none => ⟨true, "ok"⟩

/-!
# Operations
-/

/-- The destructor of an adapter disconnects it. -/
def destroy (d : device) (a : adapter) (ids : ClientIds) : ClientIds :=
  (disconnect d a ids).2

def addAdapter (d : device) (newAdapter : Option adapter)
    (m : AdapterManager adapter) (ids : ClientIds) :
    AdapterManagerResult × AdapterManager adapter × ClientIds :=
  match newAdapter with
  | none => (⟨false, "adapter is null"⟩, m, ids)
  | some a =>
      if adapterId a = "" then
        (⟨false, "adapter id is empty"⟩, m, destroy d a ids)
      else if h : m.adapters.find? (adapterId a) = none then
        (⟨true, "added"⟩,
          { adapters := m.adapters.emplace (adapterId a) a h
            keyed := by
              intro e he
              rcases List.mem_append.mp he with hold | hnew
              · exact m.keyed e hold
              · rw [List.mem_singleton.mp hnew] },
          ids)
      else
        (⟨false, "duplicate adapter id: " ++ adapterId a⟩, m, destroy d a ids)

def removeAdapter (d : device) (key : String) (m : AdapterManager adapter)
    (ids : ClientIds) : AdapterManagerResult × AdapterManager adapter × ClientIds :=
  match m.find? key with
  | none => (⟨false, "adapter not found: " ++ key⟩, m, ids)
  | some doomed =>
      let left :=
        if connectionState doomed ≠ .disconnected then disconnect d doomed ids
        else (doomed, ids)
      (⟨true, "removed"⟩,
        { adapters := m.adapters.erase key
          keyed := fun e he => m.keyed e (List.mem_filter.mp he).1 },
        destroy d left.1 left.2)

/-- What a connect through the manager makes of an adapter: it is disconnected again
when one of its machines collides with another adapter. -/
def connectChecked (d : device) (key : String) (m : AdapterManager adapter)
    (a : adapter) (ids : ClientIds) :
    AdapterManagerResult × adapter × ClientIds :=
  if connectionState a = .connected then (⟨true, "already connected"⟩, a, ids)
  else
    match connect d a ids with
    | (false, a, ids) =>
        (⟨false, if lastError a = "" then "connect failed" else lastError a⟩, a, ids)
    | (true, a, ids) =>
        let collision := m.checkEquipmentIdCollisions key a
        if !collision.ok then (collision, disconnect d a ids)
        else (⟨true, "connected"⟩, a, ids)

theorem connectChecked_of_connected {d : device} {key : String}
    {m : AdapterManager adapter} {a : adapter} {ids : ClientIds}
    (h : connectionState a = .connected) :
    connectChecked d key m a ids = (⟨true, "already connected"⟩, a, ids) :=
  if_pos h

/-- The four ways a connect through the manager can go. -/
inductive Checked (d : device) (key : String) (m : AdapterManager adapter)
    (a : adapter) (ids : ClientIds) :
    AdapterManagerResult × adapter × ClientIds -> Prop
  | already (hstate : connectionState a = .connected) :
      Checked d key m a ids (⟨true, "already connected"⟩, a, ids)
  | refused {b : adapter} {left : ClientIds}
      (hstate : connectionState a ≠ .connected)
      (hconnect : connect d a ids = (false, b, left)) :
      Checked d key m a ids
        (⟨false, if lastError b = "" then "connect failed" else lastError b⟩, b, left)
  | collided {b : adapter} {left : ClientIds}
      (hstate : connectionState a ≠ .connected)
      (hconnect : connect d a ids = (true, b, left))
      (hcheck : (m.checkEquipmentIdCollisions key b).ok = false) :
      Checked d key m a ids
        (m.checkEquipmentIdCollisions key b, disconnect d b left)
  | connected {b : adapter} {left : ClientIds}
      (hstate : connectionState a ≠ .connected)
      (hconnect : connect d a ids = (true, b, left))
      (hcheck : (m.checkEquipmentIdCollisions key b).ok = true) :
      Checked d key m a ids (⟨true, "connected"⟩, b, left)

theorem checked_connectChecked (d : device) (key : String)
    (m : AdapterManager adapter) (a : adapter) (ids : ClientIds) :
    Checked d key m a ids (connectChecked d key m a ids) := by
  unfold connectChecked
  by_cases hstate : connectionState a = .connected
  · rw [if_pos hstate]
    exact Checked.already hstate
  · rw [if_neg hstate]
    rcases hconnect : connect d a ids with ⟨ok, b, left⟩
    cases ok with
    | false => exact Checked.refused hstate hconnect
    | true =>
        dsimp only
        cases hcheck : (m.checkEquipmentIdCollisions key b).ok with
        | false => exact Checked.collided hstate hconnect hcheck
        | true => exact Checked.connected hstate hconnect hcheck

theorem adapterId_connectChecked (d : device) (key : String)
    (m : AdapterManager adapter) (a : adapter) (ids : ClientIds) :
    adapterId (connectChecked d key m a ids).2.1 = adapterId a := by
  have hid := id_connect d a ids
  have hchecked := checked_connectChecked d key m a ids
  generalize connectChecked d key m a ids = result at hchecked ⊢
  cases hchecked with
  | already => rfl
  | refused _ hconnect =>
      rw [hconnect] at hid
      exact hid
  | collided _ hconnect =>
      rw [hconnect] at hid
      exact (id_disconnect d _ _).trans hid
  | connected _ hconnect =>
      rw [hconnect] at hid
      exact hid

def connectAdapter (d : device) (key : String) (m : AdapterManager adapter)
    (ids : ClientIds) : AdapterManagerResult × AdapterManager adapter × ClientIds :=
  match m.find? key with
  | none => (⟨false, "adapter not found: " ++ key⟩, m, ids)
  | some a =>
      let r := connectChecked d key m a ids
      (r.1,
        m.modify key (fun a => (connectChecked d key m a ids).2.1)
          (fun a => adapterId_connectChecked d key m a ids),
        r.2.2)

def disconnectAdapter (d : device) (key : String) (m : AdapterManager adapter)
    (ids : ClientIds) : AdapterManagerResult × AdapterManager adapter × ClientIds :=
  match m.find? key with
  | none => (⟨false, "adapter not found: " ++ key⟩, m, ids)
  | some a =>
      (⟨true, "disconnected"⟩,
        m.modify key (fun a => (disconnect d a ids).1)
          (fun a => id_disconnect d a ids),
        (disconnect d a ids).2)

def disconnectAll (devices : String -> device) (m : AdapterManager adapter)
    (ids : ClientIds) : AdapterManager adapter × ClientIds :=
  m.visit (fun a ids => disconnect (devices (adapterId a)) a ids)
    (fun a ids => id_disconnect (devices (adapterId a)) a ids) ids

def executeOn (d : device) (equipmentId command : String) (parameter : Double)
    (ids : ClientIds) (a : adapter) : adapter :=
  match execute d a equipmentId command parameter ids with
  | none => a
  | some r => r.2.1

theorem adapterId_executeOn (d : device) (equipmentId command : String)
    (parameter : Double) (ids : ClientIds) (a : adapter) :
    adapterId (executeOn d equipmentId command parameter ids a) = adapterId a := by
  unfold executeOn
  cases hresult : execute d a equipmentId command parameter ids with
  | none => rfl
  | some r => exact id_execute d a equipmentId command parameter ids r hresult

/-- Send a command to the machine that the manager finds under an identifier. -/
def execute (devices : String -> device) (equipmentId command : String)
    (parameter : Double) (m : AdapterManager adapter) (ids : ClientIds) :
    Option (String × CommandResult) × AdapterManager adapter × ClientIds :=
  match m.locate equipmentId with
  | none => (none, m, ids)
  | some (key, _) =>
      let d := devices key
      let moved :=
        m.modify key (executeOn d equipmentId command parameter ids)
          (adapterId_executeOn d equipmentId command parameter ids)
      match (m.find? key).bind
          (fun a => IndustrialAdapter.execute d a equipmentId command parameter ids) with
      | none => (none, m, ids)
      | some r => (some (key, r.1), moved, r.2.2)

def stimulate (s : stimulus) (key : String) (m : AdapterManager adapter) :
    AdapterManager adapter :=
  m.modify key (IndustrialAdapter.stimulate s) (id_stimulate s)

/-!
# The operations on an adapter that is there
-/

theorem connectAdapter_of_some {m : AdapterManager adapter} {key : String}
    {a : adapter} (h : m.find? key = some a) (d : device) (ids : ClientIds) :
    m.connectAdapter d key ids =
      ((connectChecked d key m a ids).1,
        m.modify key (fun a => (connectChecked d key m a ids).2.1)
          (fun a => adapterId_connectChecked d key m a ids),
        (connectChecked d key m a ids).2.2) := by
  unfold connectAdapter
  rw [h]

theorem connectAdapter_of_none {m : AdapterManager adapter} {key : String}
    (h : m.find? key = none) (d : device) (ids : ClientIds) :
    m.connectAdapter d key ids = (⟨false, "adapter not found: " ++ key⟩, m, ids) := by
  unfold connectAdapter
  rw [h]

theorem disconnectAdapter_of_some {m : AdapterManager adapter} {key : String}
    {a : adapter} (h : m.find? key = some a) (d : device) (ids : ClientIds) :
    m.disconnectAdapter d key ids =
      (⟨true, "disconnected"⟩,
        m.modify key (fun a => (disconnect d a ids).1)
          (fun a => id_disconnect d a ids),
        (disconnect d a ids).2) := by
  unfold disconnectAdapter
  rw [h]

theorem disconnectAdapter_of_none {m : AdapterManager adapter} {key : String}
    (h : m.find? key = none) (d : device) (ids : ClientIds) :
    m.disconnectAdapter d key ids =
      (⟨false, "adapter not found: " ++ key⟩, m, ids) := by
  unfold disconnectAdapter
  rw [h]

theorem find?_of_locate {m : AdapterManager adapter} {id key : String}
    {e : EquipmentView} (h : m.locate id = some (key, e)) :
    exists a, m.find? key = some a ∧ IndustrialAdapter.equipmentById a id = some e := by
  rcases List.exists_of_findSome?_eq_some h with ⟨entry, hentry, hresult⟩
  rcases Option.map_eq_some_iff.mp hresult with ⟨d, hd, heq⟩
  cases heq
  exact ⟨entry.2, (m.adapters.mem_entries_iff _ _).mp hentry, hd⟩

theorem execute_of_none {m : AdapterManager adapter} {equipmentId : String}
    (h : m.locate equipmentId = none) (devices : String -> device) (command : String)
    (parameter : Double) (ids : ClientIds) :
    m.execute devices equipmentId command parameter ids = (none, m, ids) := by
  unfold execute
  rw [h]

theorem execute_of_some {m : AdapterManager adapter} {equipmentId key : String}
    {e : EquipmentView} (h : m.locate equipmentId = some (key, e)) {a : adapter}
    (ha : m.find? key = some a) (devices : String -> device) (command : String)
    (parameter : Double) (ids : ClientIds) :
    m.execute devices equipmentId command parameter ids =
      match IndustrialAdapter.execute (devices key) a equipmentId command parameter
          ids with
      | none => (none, m, ids)
      | some r =>
          (some (key, r.1),
            m.modify key (executeOn (devices key) equipmentId command parameter ids)
              (adapterId_executeOn (devices key) equipmentId command parameter ids),
            r.2.2) := by
  unfold execute
  rw [h]
  dsimp only
  rw [ha, Option.bind_some]

/-!
# What the operations do to the registered adapters
-/

theorem find?_addAdapter {d : device} {newAdapter : Option adapter}
    {m : AdapterManager adapter} {ids : ClientIds} {k : String} {b : adapter}
    (h : (m.addAdapter d newAdapter ids).2.1.find? k = some b) :
    m.find? k = some b ∨
      (newAdapter = some b ∧ adapterId b = k ∧ m.find? k = none) := by
  unfold addAdapter at h
  cases newAdapter with
  | none => exact Or.inl h
  | some a =>
      dsimp only at h
      split at h
      · exact Or.inl h
      · split at h
        · rename_i hfree
          have hfind := Table.find?_emplace m.adapters (adapterId a) a hfree k
          by_cases hk : k = adapterId a
          · rw [if_pos hk] at hfind
            cases hfind.symm.trans h
            exact Or.inr ⟨rfl, hk.symm, by rw [hk]; exact hfree⟩
          · rw [if_neg hk] at hfind
            exact Or.inl (hfind.symm.trans h)
        · exact Or.inl h

theorem find?_addAdapter_of_some {m : AdapterManager adapter} {k : String} {b : adapter}
    (h : m.find? k = some b) (d : device) (newAdapter : Option adapter)
    (ids : ClientIds) : (m.addAdapter d newAdapter ids).2.1.find? k = some b := by
  unfold addAdapter
  cases newAdapter with
  | none => exact h
  | some a =>
      dsimp only
      split
      · exact h
      · split
        · rename_i hfree
          have hne : k ≠ adapterId a := by
            rintro rfl
            cases hfree.symm.trans h
          refine (Table.find?_emplace m.adapters (adapterId a) a hfree k).trans ?_
          rw [if_neg hne]
          exact h
        · exact h

theorem find?_removeAdapter (d : device) (key : String) (m : AdapterManager adapter)
    (ids : ClientIds) (k : String) :
    (m.removeAdapter d key ids).2.1.find? k =
      if k = key then none else m.find? k := by
  unfold removeAdapter
  cases hfind : m.find? key with
  | none =>
      by_cases hk : k = key
      · rw [if_pos hk, hk]
        exact hfind
      · rw [if_neg hk]
  | some doomed => exact m.adapters.find?_erase key k

theorem find?_of_absent {m : AdapterManager adapter} {key : String}
    (h : m.find? key = none) (f : adapter -> adapter) (k : String) :
    m.find? k = if k = key then (m.find? k).map f else m.find? k := by
  by_cases hk : k = key
  · rw [if_pos hk, hk, h]
    rfl
  · rw [if_neg hk]

theorem find?_connectAdapter (d : device) (key : String)
    (m : AdapterManager adapter) (ids : ClientIds) (k : String) :
    (m.connectAdapter d key ids).2.1.find? k =
      if k = key then
        (m.find? k).map (fun a => (connectChecked d key m a ids).2.1)
      else m.find? k := by
  unfold connectAdapter
  cases hfind : m.find? key with
  | none => exact find?_of_absent hfind _ k
  | some a =>
      exact m.find?_modify key (fun a => (connectChecked d key m a ids).2.1)
        (fun a => adapterId_connectChecked d key m a ids) k

theorem find?_disconnectAdapter (d : device) (key : String)
    (m : AdapterManager adapter) (ids : ClientIds) (k : String) :
    (m.disconnectAdapter d key ids).2.1.find? k =
      if k = key then (m.find? k).map (fun a => (disconnect d a ids).1)
      else m.find? k := by
  unfold disconnectAdapter
  cases hfind : m.find? key with
  | none => exact find?_of_absent hfind _ k
  | some a =>
      exact m.find?_modify key (fun a => (disconnect d a ids).1)
        (fun a => id_disconnect d a ids) k

theorem find?_disconnectAll {devices : String -> device}
    {m : AdapterManager adapter} {ids : ClientIds} {k : String} {b : adapter}
    (h : (m.disconnectAll devices ids).1.find? k = some b) :
    exists a ids', m.find? k = some a ∧
      b = (disconnect (devices (adapterId a)) a ids').1 :=
  Table.find?_visit h

theorem find?_execute (devices : String -> device)
    (equipmentId command : String) (parameter : Double) (m : AdapterManager adapter)
    (ids : ClientIds) (k : String) :
    (m.execute devices equipmentId command parameter ids).2.1.find? k =
        m.find? k ∨
      (m.execute devices equipmentId command parameter ids).2.1.find? k =
        (m.find? k).map
          (executeOn (devices k) equipmentId command parameter ids) := by
  unfold execute
  split
  · exact Or.inl rfl
  · rename_i key _ _
    dsimp only
    split
    · exact Or.inl rfl
    · have hmodify := m.find?_modify key
        (executeOn (devices key) equipmentId command parameter ids)
        (adapterId_executeOn (devices key) equipmentId command parameter ids) k
      by_cases hk : k = key
      · rw [if_pos hk, ← hk] at hmodify
        exact Or.inr (hk ▸ hmodify)
      · rw [if_neg hk] at hmodify
        exact Or.inl hmodify

end AdapterManager

end Icp
end VirtualFactory
