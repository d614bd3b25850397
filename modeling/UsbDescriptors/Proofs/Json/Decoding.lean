import UsbDescriptors.Json.Decoder
import UsbDescriptors.Proofs.OrderedMaps

/-!
# Decoding values

A decoder that is given the node of a value never meets a syntax fault, so it succeeds as soon as
the decoders of the parts do. For a record this is an induction over the members: reading one of
them has to move it from the members that are left into the state.
-/

namespace UsbDescriptors.Json

namespace Decoder

variable {α β : Type}

theorem list_ofValue {decode : Decoder α} {data? : Value → Option α} {items : List Value}
    (each : ∀ item ∈ items, ∃ data, decode (.ofValue item) = .ok data ∧ data? item = some data) :
    list decode (.ofValue (.array items)) = .ok (items.filterMap data?) := by
  have read : (Node.ofValues items).mapM decode = .ok (items.filterMap data?) := by
    induction items with
    | nil => rfl
    | cons item rest ih =>
        rcases each item List.mem_cons_self with ⟨data, decoded, found⟩
        have later := ih fun other mem => each other (List.mem_cons_of_mem _ mem)
        rw [Node.ofValues, List.mapM_cons, decoded, later, List.filterMap_cons_some found]
        rfl
  simp only [Node.ofValue, list, read]
  rfl

theorem map_ofValue {decode : Decoder α} {data : Value → α} {members : List (String × Value)}
    (distinct : (OrderedMap.keys members).Nodup)
    (each : ∀ member ∈ members, decode (.ofValue member.2) = .ok (data member.2)) :
    map decode (.ofValue (.object members)) =
      .ok (members.map fun member => (member.1, data member.2)) := by
  have read : (Node.ofMembers members).mapM
      (fun member => (decode member.2).map fun content => (member.1, content)) =
        .ok (members.map fun member => (member.1, data member.2)) := by
    clear distinct
    induction members with
    | nil => rfl
    | cons member rest ih =>
        rcases member with ⟨name, value⟩
        have decoded := each (name, value) List.mem_cons_self
        have later := ih fun other mem => each other (List.mem_cons_of_mem _ mem)
        rw [Node.ofMembers, List.mapM_cons, decoded, later]
        rfl
  have kept : OrderedMap.ofList (members.map fun member => (member.1, data member.2)) =
      members.map fun member => (member.1, data member.2) := by
    apply OrderedMap.ofList_of_nodup
    rw [OrderedMap.keys, List.map_map]
    exact distinct
  simp only [Node.ofValue, map, read]
  change Except.ok (OrderedMap.ofList _) = _
  rw [kept]

/-- Members with distinct names are read one by one into the state that `overlay` says, if every
step moves its member from the members that are left into the state. -/
theorem fields_ofMembers {known : List String}
    {field other : String → Node → β → Except ReadError β}
    {overlay : β → List (String × Value) → β} (ending : ∀ state, overlay state [] = state)
    {members : List (String × Value)} (distinct : (OrderedMap.keys members).Nodup)
    {seen : List String} (fresh : ∀ name ∈ OrderedMap.keys members, name ∉ seen)
    (step : ∀ name value rest state, (name, value) ∈ members → name ∉ OrderedMap.keys rest →
      ∃ next, (if name ∈ known then field else other) name (.ofValue value) state = .ok next ∧
        overlay next rest = overlay state ((name, value) :: rest)) (state : β) :
    fields known field other seen state (Node.ofMembers members) = .ok (overlay state members) := by
  -- Both the state and the names seen so far change from member to member; `moved` below is what
  -- lets the statement for the rest speak about the whole list.
  induction members generalizing seen state with
  | nil => rw [Node.ofMembers, fields, ending]
  | cons member rest ih =>
      rcases member with ⟨name, value⟩
      rcases List.nodup_cons.mp distinct with ⟨absent, restDistinct⟩
      rcases step name value rest state List.mem_cons_self absent with ⟨next, read, moved⟩
      have later : ∀ {seen : List String},
          (∀ name ∈ OrderedMap.keys rest, name ∉ seen) →
            fields known field other seen next (Node.ofMembers rest) =
              .ok (overlay next rest) := by
        intro seen fresh
        exact ih restDistinct fresh
          (fun name value rest state mem => step name value rest state (List.mem_cons_of_mem _ mem))
          next
      have unseen : name ∉ seen := fresh name List.mem_cons_self
      have restFresh : ∀ name ∈ OrderedMap.keys rest, name ∉ seen := fun other mem =>
        fresh other (List.mem_cons_of_mem _ mem)
      rw [Node.ofMembers, fields, ← moved]
      by_cases isKnown : name ∈ known
      · simp only [isKnown, if_true] at read ⊢
        simp only [unseen, if_false, read]
        apply later
        intro other mem
        simp only [List.mem_cons, not_or]
        refine ⟨?_, restFresh other mem⟩
        rintro rfl
        exact absent mem
      · simp only [isKnown, if_false] at read ⊢
        simp only [read]
        exact later restFresh

/-- A record is read from an object if all members are fields and each of them can be read. -/
theorem record_ofValue {type : String} {known : List String} {start : β}
    {field : String → Node → β → Except ReadError β} {finish : β → Except String α} {data : α}
    {overlay : β → List (String × Value) → β} (ending : ∀ state, overlay state [] = state)
    {members : List (String × Value)} (distinct : (OrderedMap.keys members).Nodup)
    (listed : ∀ member ∈ members, member.1 ∈ known)
    (step : ∀ name ∈ known, ∀ value rest state, OrderedMap.get? members name = some value →
      name ∉ OrderedMap.keys rest → ∃ next, field name (.ofValue value) state = .ok next ∧
        overlay next rest = overlay state ((name, value) :: rest))
    (complete : finish (overlay start members) = .ok data) :
    record type known start field finish (.ofValue (.object members)) = .ok data := by
  have read : fields known field (unknownField known) [] start (Node.ofMembers members) =
      .ok (overlay start members) := by
    refine fields_ofMembers ending distinct (fun _ _ => List.not_mem_nil) ?_ start
    intro name value rest state mem absent
    have isKnown : name ∈ known := listed _ mem
    rw [if_pos isKnown]
    exact step name isKnown value rest state (OrderedMap.get?_eq_some_of_mem distinct mem) absent
  simp only [Node.ofValue, record, read, bind, Except.bind, ObjectEnd.error?, proceed, complete]

end Decoder

end UsbDescriptors.Json
