import UsbDescriptors.Proofs.Document.Lookup
import Mathlib.Data.List.Forall2
import Mathlib.Data.List.Induction

/-!
# Repeated names

An object of a text may hold a name more than once. Its value keeps the place of the first member
with the name and the content of the last one, so all the other members under this name are gone
without a trace. Nothing is gone if and only if no name is repeated. `Denotes` says this of a list
of members as written and of what is read from it.
-/

namespace UsbDescriptors

open Json (Node Value)

namespace OrderedMap

universe u

variable {α : Type u} {added : List (String × α)} {name : String}

/-- What is stored last under a name. -/
def last? (added : List (String × α)) (name : String) : Option α :=
  get? added.reverse name

theorem ofList_append (added : List (String × α)) (entry : String × α) :
    ofList (added ++ [entry]) = (ofList added).insert entry.1 entry.2 := by
  simp [ofList]

theorem get?_ofList (added : List (String × α)) (name : String) :
    (ofList added).get? name = last? added name := by
  induction added using List.reverseRecOn with
  | nil => rfl
  | append_singleton rest entry ih =>
      rcases entry with ⟨present, value⟩
      rw [ofList_append, last?, List.reverse_append, List.reverse_singleton, List.singleton_append,
        get?_cons]
      by_cases same : present = name
      · rw [same, get?_insert_self, if_pos rfl]
      · rw [get?_insert_of_ne _ _ same, if_neg same]
        exact ih

/-- Names stand in the order in which they first appear. -/
theorem keys_ofList (added : List (String × α)) : (ofList added).keys = (keys added).eraseDups := by
  induction added using List.reverseRecOn with
  | nil => rfl
  | append_singleton rest entry ih =>
      have names : keys (rest ++ [entry]) = keys rest ++ [entry.1] := by simp [keys]
      rw [ofList_append, names]
      by_cases present : entry.1 ∈ keys rest
      · rw [keys_insert_of_mem (mem_keys_ofList.mpr present), eraseDups_concat_of_mem present, ih]
      · have absent : entry.1 ∉ (ofList rest).keys := fun mem => present (mem_keys_ofList.mp mem)
        rw [insert_of_not_mem absent, eraseDups_concat_of_not_mem present, ← ih]
        simp [keys]

/-- All entries are stored under their own names if and only if no name is repeated. -/
theorem keys_ofList_eq_iff : (ofList added).keys = keys added ↔ (keys added).Nodup := by
  constructor
  · intro same
    rw [← same]
    exact nodup_keys_ofList added
  · intro distinct
    rw [ofList_of_nodup distinct]

end OrderedMap

namespace Json.Node

/-- The members of an object as written. -/
def members : Node → List (String × Node)
  | .object members _ => members
  | _ => []

/-- The members of an object that is itself the last member with a name. -/
def part (node : Node) (name : String) : List (String × Node) :=
  ((OrderedMap.last? node.members name).map members).getD []

/-- A member as written and its value. -/
def MemberValue (written : String × Node) (read : String × Value) : Prop :=
  read.1 = written.1 ∧ written.2.value = .ok read.2

theorem memberValues_ok {written : List (String × Node)} {read : List (String × Value)}
    (found : memberValues written = .ok read) : List.Forall₂ MemberValue written read := by
  induction written generalizing read with
  | nil =>
      cases found
      exact .nil
  | cons member rest ih =>
      rcases member with ⟨name, member⟩
      simp only [memberValues] at found
      split at found
      next => cases found
      next value valueRead =>
        split at found
        next => cases found
        next more moreRead =>
          cases found
          exact .cons ⟨rfl, valueRead⟩ (ih moreRead)

section Members

variable {written : List (String × Node)} {read : List (String × Value)}

theorem keys_of_memberValues (each : List.Forall₂ MemberValue written read) :
    OrderedMap.keys read = OrderedMap.keys written := by
  induction each with
  | nil => rfl
  | cons head _ ih => exact congrArg₂ List.cons head.1 ih

/-- What is found under a name among the values is the value of what is found among the members. -/
theorem get?_of_memberValues (each : List.Forall₂ MemberValue written read) (name : String) :
    Option.Rel (fun node value => node.value = .ok value) (OrderedMap.get? written name)
      (OrderedMap.get? read name) := by
  induction each with
  | nil => exact .none
  | @cons member value _ _ head _ ih =>
      rcases member with ⟨present, node⟩
      rcases value with ⟨own, value⟩
      rcases head with ⟨rfl, denoted⟩
      rw [OrderedMap.get?_cons, OrderedMap.get?_cons]
      by_cases same : own = name
      · rw [if_pos same, if_pos same]
        exact .some denoted
      · rw [if_neg same, if_neg same]
        exact ih

theorem last?_of_memberValues (each : List.Forall₂ MemberValue written read) (name : String) :
    Option.Rel (fun node value => node.value = .ok value) (OrderedMap.last? written name)
      (OrderedMap.last? read name) :=
  get?_of_memberValues (List.rel_reverse each) name

end Members

variable {node : Node} {value : Value}

/-- The content of a value is made of the values of the members as written. -/
theorem exists_content_of_value (found : node.value = .ok value) :
    ∃ read, List.Forall₂ MemberValue node.members read ∧
      value.content = OrderedMap.ofList read := by
  cases node with
  | object written ending =>
      simp only [Node.value] at found
      split at found
      next => cases found
      next read membersRead =>
        split at found
        next => cases found
        next =>
          cases found
          exact ⟨read, memberValues_ok membersRead, rfl⟩
  | array items ending =>
      simp only [Node.value] at found
      split at found
      next => cases found
      next read itemsRead =>
        split at found
        next => cases found
        next =>
          cases found
          exact ⟨[], .nil, rfl⟩
  | broken error => cases found
  | brokenScalar error => cases found
  | _ =>
      cases found
      exact ⟨[], .nil, rfl⟩

theorem exists_part_of_value (found : node.value = .ok value) (name : String) :
    ∃ read, List.Forall₂ MemberValue (node.part name) read ∧
      value.part name = OrderedMap.ofList read := by
  rcases exists_content_of_value found with ⟨read, each, content⟩
  have related := last?_of_memberValues each name
  rw [Value.part, content, OrderedMap.get?_ofList, part]
  generalize OrderedMap.last? node.members name = own at related ⊢
  generalize OrderedMap.last? read name = given at related ⊢
  cases related with
  | none => exact ⟨[], .nil, rfl⟩
  | some denoted =>
      rcases exists_content_of_value denoted with ⟨inner, innerEach, innerContent⟩
      exact ⟨inner, innerEach, innerContent⟩

end Json.Node

/-- What is read from members under their names. The names stand in the order in which they first
appear, and under each of them there is what is written last. -/
structure KeepsLast {α : Type} (item : Node → α → Prop) (written : List (String × Node))
    (kept : OrderedMap α) : Prop where
  names : kept.keys = (OrderedMap.keys written).eraseDups
  last : ∀ name part, (name, part) ∈ kept →
    ∃ node, OrderedMap.last? written name = some node ∧ item node part
  /-- Nothing is dropped if and only if no name is repeated. -/
  complete : kept.keys = OrderedMap.keys written ↔ (OrderedMap.keys written).Nodup

theorem keepsLast_of_part {α : Type} {item : Node → α → Prop} {convert : Value → α}
    (converts : ∀ node value, node.value = .ok value → item node (convert value))
    {node : Node} {value : Value} (found : node.value = .ok value) (name : String) :
    KeepsLast item (node.part name)
      ((value.part name).map fun member => (member.1, convert member.2)) := by
  rcases Node.exists_part_of_value found name with ⟨read, each, part⟩
  have names : OrderedMap.keys ((value.part name).map fun member => (member.1, convert member.2)) =
      (OrderedMap.ofList read).keys := by
    rw [part, OrderedMap.keys, List.map_map]
    rfl
  have same := Node.keys_of_memberValues each
  constructor
  · rw [names, OrderedMap.keys_ofList, same]
  · intro tag converted mem
    rcases List.mem_map.mp mem with ⟨⟨own, read⟩, readMem, equal⟩
    rcases Prod.mk.inj equal with ⟨rfl, rfl⟩
    rw [part] at readMem
    have present := OrderedMap.get?_eq_some_of_mem (OrderedMap.nodup_keys_ofList _) readMem
    rw [OrderedMap.get?_ofList] at present
    have related := Node.last?_of_memberValues each own
    rw [present] at related
    cases written : OrderedMap.last? (node.part name) own with
    | none => simp [written] at related
    | some node =>
        rw [written] at related
        cases related with
        | some denoted => exact ⟨node, rfl, converts node read denoted⟩
  · rw [names, ← same]
    exact OrderedMap.keys_ofList_eq_iff

end UsbDescriptors
