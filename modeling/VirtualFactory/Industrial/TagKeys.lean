import VirtualFactory.Foundation.Separator
import VirtualFactory.Industrial.MappedTags

/-!
# Keys of tags

A key is made of the identifier of a machine, a role and an index.  Roles and indices
have no separator, so a key can be taken apart from its end, whatever the identifier is.
-/

namespace VirtualFactory

open Foundation IndustrialAdapter

namespace EtherNetIpIndustrialAdapter

/-!
# Taking keys apart
-/

theorem tagKey_toList (equipmentId role : String) (index : Nat) :
    (tagKey equipmentId role index).toList =
      (equipmentId.toList ++ '|' :: role.toList) ++ '|' :: Nat.toDigits 10 index := by
  unfold tagKey
  simp only [String.toList_append, Nat.toString_eq_repr, Nat.toList_repr, List.append_assoc]
  rfl

theorem tagKey_injective {equipmentId otherId role otherRole : String} {index other : Nat}
    (hrole : '|' ∉ role.toList) (hother : '|' ∉ otherRole.toList)
    (h : tagKey equipmentId role index = tagKey otherId otherRole other) :
    equipmentId = otherId ∧ role = otherRole ∧ index = other := by
  have hdigit : '|'.isDigit = false := by decide
  have hlist := congrArg String.toList h
  rw [tagKey_toList, tagKey_toList] at hlist
  rcases append_separator_inj (not_mem_digits hdigit index) (not_mem_digits hdigit other)
    hlist with ⟨hfront, hdigits⟩
  rcases append_separator_inj hrole hother hfront with ⟨hid, hroles⟩
  have hindex := congrArg (fun digits => Nat.ofDigitChars 10 digits 0) hdigits
  simp only [Nat.ofDigitChars_ten_toDigits] at hindex
  exact ⟨String.toList_inj.mp hid, String.toList_inj.mp hroles, hindex⟩

/-!
# The keys of a configuration
-/

/-- The roles of the tags of a machine, and how many tags have them. -/
def roles (m : EtherNetIpEquipmentMapping) : List (String × Nat) :=
  [("tel", m.telemetry.length), ("cmd", m.commands.length),
    ("state", if m.state.mapped then 1 else 0), ("fault", if m.fault.mapped then 1 else 0)]

/-- The roles and indices of the tags of a machine. -/
def slots (m : EtherNetIpEquipmentMapping) : List (String × Nat) :=
  (roles m).flatMap (fun role => (List.range role.2).map (fun index => (role.1, index)))

theorem keys_mappedTags (m : EtherNetIpEquipmentMapping) :
    (mappedTags m).map Prod.fst = (slots m).map (fun slot => tagKey m.id slot.1 slot.2) := by
  have hindexed : forall {entry : Type} (entries : List entry) (role : String)
      (name : entry -> String) (valueType : entry -> EtherNetIpValueType),
      (entries.zipIdx.map (fun p => (tagKey m.id role p.2, name p.1, valueType p.1))).map
          Prod.fst =
        ((List.range entries.length).map (fun index => (role, index))).map
          (fun slot => tagKey m.id slot.1 slot.2) := by
    intro entry entries role name valueType
    rw [List.map_map, List.map_map, List.range_eq_range', ← List.zipIdx_map_snd 0 entries,
      List.map_map]
    rfl
  unfold mappedTags slots roles
  simp only [List.map_append, hindexed, List.flatMap_cons, List.flatMap_nil, List.append_nil]
  congr 3
  · cases m.state.mapped <;> rfl
  · cases m.fault.mapped <;> rfl

theorem separator_not_mem_role {m : EtherNetIpEquipmentMapping} {slot : String × Nat}
    (h : slot ∈ slots m) : '|' ∉ slot.1.toList := by
  rcases List.mem_flatMap.mp h with ⟨role, hrole, hslot⟩
  rcases List.mem_map.mp hslot with ⟨index, _, rfl⟩
  have hnames : role.1 ∈ ["tel", "cmd", "state", "fault"] := List.mem_map_of_mem hrole
  revert hnames
  generalize role.1 = name
  revert name
  decide

theorem nodup_slots (m : EtherNetIpEquipmentMapping) : (slots m).Nodup := by
  unfold slots
  rw [List.nodup_flatMap]
  constructor
  · intro role _
    apply List.nodup_range.map
    intro index other heq
    exact congrArg Prod.snd heq
  · have hdistinct : (roles m).Pairwise (fun role other => role.1 ≠ other.1) := by
      rw [← List.pairwise_map (f := Prod.fst)]
      show ["tel", "cmd", "state", "fault"].Pairwise (fun role other => role ≠ other)
      decide
    refine hdistinct.imp ?_
    intro role other hne slot hslot hother
    rcases List.mem_map.mp hslot with ⟨_, _, rfl⟩
    rcases List.mem_map.mp hother with ⟨_, _, heq⟩
    exact hne (congrArg Prod.fst heq).symm

theorem exists_slot {m : EtherNetIpEquipmentMapping} {key : String}
    (h : key ∈ (mappedTags m).map Prod.fst) :
    exists slot, slot ∈ slots m ∧ key = tagKey m.id slot.1 slot.2 := by
  rw [keys_mappedTags] at h
  rcases List.mem_map.mp h with ⟨slot, hslot, rfl⟩
  exact ⟨slot, hslot, rfl⟩

theorem nodup_keys {equipment : List EtherNetIpEquipmentMapping}
    (h : (equipment.map EtherNetIpEquipmentMapping.id).Nodup) :
    ((equipment.flatMap mappedTags).map Prod.fst).Nodup := by
  rw [List.map_flatMap, List.nodup_flatMap]
  constructor
  · intro m _
    rw [keys_mappedTags]
    apply (List.nodup_map_iff_inj_on (nodup_slots m)).mpr
    intro slot hslot other hother heq
    rcases tagKey_injective (separator_not_mem_role hslot) (separator_not_mem_role hother) heq
      with ⟨_, hrole, hindex⟩
    exact Prod.ext hrole hindex
  · refine (List.pairwise_map.mp h).imp ?_
    intro m other hne key hkey hother
    rcases exists_slot hkey with ⟨slot, hslot, rfl⟩
    rcases exists_slot hother with ⟨slot', hslot', heq⟩
    exact hne (tagKey_injective (separator_not_mem_role hslot)
      (separator_not_mem_role hslot') heq).left

end EtherNetIpIndustrialAdapter

end VirtualFactory
