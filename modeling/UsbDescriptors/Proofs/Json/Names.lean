import UsbDescriptors.Json.Reader
import UsbDescriptors.Proofs.OrderedMaps

/-!
# Distinct names

The objects of a JSON value hold every name once: that is how every value comes out of a text,
since a repeated name takes the place of the earlier one. A value of this kind is read back from
its own node unchanged.
-/

namespace UsbDescriptors.Json

namespace Value

mutual

/-- Every object inside a value holds every name once. -/
def DistinctNames : Value → Prop
  | .array items => itemsDistinct items
  | .object members => (members.map Prod.fst).Nodup ∧ membersDistinct members
  | .null | .boolean _ | .number _ | .string _ => True

def itemsDistinct : List Value → Prop
  | [] => True
  | item :: rest => item.DistinctNames ∧ itemsDistinct rest

def membersDistinct : List (String × Value) → Prop
  | [] => True
  | (_, value) :: rest => value.DistinctNames ∧ membersDistinct rest

end

theorem membersDistinct_iff {members : List (String × Value)} :
    membersDistinct members ↔ ∀ member ∈ members, member.2.DistinctNames := by
  induction members with
  | nil => simp [membersDistinct]
  | cons member rest ih =>
      rcases member with ⟨name, value⟩
      simp [membersDistinct, ih]

end Value

namespace Node

mutual

/-- A value with distinct names is the value of its own node. -/
theorem value_ofValue : ∀ value : Value, value.DistinctNames → (ofValue value).value = .ok value
  | .null, _ => rfl
  | .boolean _, _ => rfl
  | .number _, _ => rfl
  | .string _, _ => rfl
  | .array items, distinct => by
      simp only [Value.DistinctNames] at distinct
      simp only [ofValue, value, values_ofValues items distinct, ArrayEnd.error?]
  | .object members, distinct => by
      simp only [Value.DistinctNames] at distinct
      simp only [ofValue, value, memberValues_ofMembers members distinct.2, ObjectEnd.error?]
      rw [OrderedMap.ofList_of_nodup distinct.1]

theorem values_ofValues : ∀ items : List Value,
    Value.itemsDistinct items → values (ofValues items) = .ok items
  | [], _ => rfl
  | item :: rest, distinct => by
      simp only [Value.itemsDistinct] at distinct
      simp only [ofValues, values, value_ofValue item distinct.1, values_ofValues rest distinct.2]

theorem memberValues_ofMembers : ∀ members : List (String × Value),
    Value.membersDistinct members → memberValues (ofMembers members) = .ok members
  | [], _ => rfl
  | (name, content) :: rest, distinct => by
      simp only [Value.membersDistinct] at distinct
      simp only [ofMembers, memberValues, value_ofValue content distinct.1,
        memberValues_ofMembers rest distinct.2]

end

mutual

theorem distinctNames_of_value : ∀ (node : Node) {read : Value},
    node.value = .ok read → read.DistinctNames
  | .null, _, found => by cases found; trivial
  | .boolean _, _, found => by cases found; trivial
  | .number _, _, found => by cases found; trivial
  | .string _, _, found => by cases found; trivial
  | .broken _, _, found => by cases found
  | .brokenScalar _, _, found => by cases found
  | .array items ending, _, found => by
      simp only [value] at found
      split at found
      next => cases found
      next read itemsRead =>
        split at found
        next => cases found
        next =>
          cases found
          exact itemsDistinct_of_values items itemsRead
  | .object members ending, _, found => by
      simp only [value] at found
      split at found
      next => cases found
      next read membersRead =>
        split at found
        next => cases found
        next =>
          cases found
          have each := Value.membersDistinct_iff.mp (membersDistinct_of_memberValues members
            membersRead)
          refine ⟨OrderedMap.nodup_keys_ofList read, Value.membersDistinct_iff.mpr ?_⟩
          intro member mem
          exact each member (OrderedMap.mem_of_mem_ofList mem)

theorem itemsDistinct_of_values : ∀ (items : List Node) {read : List Value},
    values items = .ok read → Value.itemsDistinct read
  | [], _, found => by cases found; trivial
  | item :: rest, _, found => by
      simp only [values] at found
      split at found
      next => cases found
      next first firstRead =>
        split at found
        next => cases found
        next others othersRead =>
          cases found
          exact ⟨distinctNames_of_value item firstRead, itemsDistinct_of_values rest othersRead⟩

theorem membersDistinct_of_memberValues : ∀ (members : List (String × Node))
    {read : List (String × Value)}, memberValues members = .ok read → Value.membersDistinct read
  | [], _, found => by cases found; trivial
  | (name, member) :: rest, _, found => by
      simp only [memberValues] at found
      split at found
      next => cases found
      next first firstRead =>
        split at found
        next => cases found
        next others othersRead =>
          cases found
          exact ⟨distinctNames_of_value member firstRead,
            membersDistinct_of_memberValues rest othersRead⟩

end

end Node

theorem decodeValue_ofValue {value : Value} (distinct : value.DistinctNames) :
    decodeValue (.ofValue value) = .ok value := by
  simp only [decodeValue, Node.value_ofValue value distinct]

/-- A text that is read as a value is a node that denotes the value, with nothing but blanks behind
it. -/
theorem Value.exists_readText_of_read {text : String} {value : Value}
    (found : Value.read text = .ok value) :
    ∃ node rest, readText text = (node, some rest) ∧ node.value = .ok value ∧
      skipBlanks rest = [] := by
  simp only [Value.read, Json.read] at found
  split at found
  next => cases found
  next data decoded =>
    split at found
    next => cases found
    next rest goes =>
      split at found
      next blank =>
        cases found
        refine ⟨_, rest, Prod.ext rfl goes, ?_, List.isEmpty_iff.mp blank⟩
        simp only [decodeValue] at decoded
        split at decoded
        next => cases decoded
        next read valueRead =>
          cases decoded
          exact valueRead
      next => cases found

/-- A value that is read from a text is the value of its node. -/
theorem Value.value_of_read {text : String} {value : Value}
    (found : Value.read text = .ok value) : (readText text).1.value = .ok value := by
  obtain ⟨node, rest, read, denotes, -⟩ := exists_readText_of_read found
  rw [read]
  exact denotes

/-- Every value that is read from a text has distinct names. -/
theorem Value.distinctNames_of_read {text : String} {value : Value}
    (found : Value.read text = .ok value) : value.DistinctNames :=
  Node.distinctNames_of_value _ (value_of_read found)

end UsbDescriptors.Json
