import UsbDescriptors.Json.Decoder
import UsbDescriptors.Proofs.OrderedMaps
import UsbDescriptors.Proofs.Outcomes

/-!
# Decoded data

What is known of data because it has been decoded, whatever the text was. A decoded map holds every
name once, and all that it holds has been decoded. A record is made from a state with every property
that the first state has and that reading a field keeps.
-/

namespace UsbDescriptors.Json

variable {α β : Type}

/-- Data that is read from a text is decoded from the node of the text. -/
theorem decode_of_read {decode : Decoder α} {text : String} {data : α}
    (found : read decode text = .ok data) : decode (readText text).1 = .ok data := by
  simp only [read] at found
  split at found
  next => cases found
  next decoded run =>
    split at found
    next => cases found
    next =>
      split at found
      next => rw [run, Except.ok.inj found]
      next => cases found

namespace Decoder

theorem proceed_ok {error? : Option SyntaxError} {data result : α}
    (run : proceed error? data = .ok result) : data = result := by
  cases error? with
  | some error => cases run
  | none => exact Except.ok.inj run

@[simp]
theorem mismatch_ne_ok {node : Node} {expected : String} {data : α} :
    mismatch node expected ≠ .ok data := by
  unfold mismatch
  cases node.found <;> simp [syntaxFault, shapeFault]

theorem exists_of_mapM {γ : Type} {convert : β → Except ReadError γ} {items : List β}
    {converted : List γ} (run : items.mapM convert = .ok converted) :
    ∀ result ∈ converted, ∃ item ∈ items, convert item = .ok result := by
  induction items generalizing converted with
  | nil =>
      cases run
      exact fun _ mem => absurd mem List.not_mem_nil
  | cons item rest ih =>
      simp only [List.mapM_cons, outcome_bind_iff, outcome_pure_iff] at run
      rcases run with ⟨result, first, more, others, rfl⟩
      intro later mem
      rcases List.mem_cons.mp mem with rfl | mem
      · exact ⟨item, List.mem_cons_self, first⟩
      · rcases ih others later mem with ⟨source, sourceMem, made⟩
        exact ⟨source, List.mem_cons_of_mem _ sourceMem, made⟩

/-- A decoded map holds every name once, and all of its data is decoded. -/
theorem map_ok {decode : Decoder α} {node : Node} {entries : OrderedMap α}
    (run : map decode node = .ok entries) :
    entries.keys.Nodup ∧ ∀ entry ∈ entries, ∃ part, decode part = .ok entry.2 := by
  cases node with
  | object members ending =>
      simp only [map, outcome_bind_iff] at run
      rcases run with ⟨read, each, finished⟩
      rcases proceed_ok finished with rfl
      refine ⟨OrderedMap.nodup_keys_ofList read, fun entry mem => ?_⟩
      rcases exists_of_mapM each entry (OrderedMap.mem_of_mem_ofList mem) with ⟨member, -, decoded⟩
      cases part : decode member.2 with
      | error fault => simp [part, Except.map] at decoded
      | ok data =>
          simp only [part, Except.map, Except.ok.injEq] at decoded
          exact ⟨member.2, by rw [part, ← decoded]⟩
  | _ => simp [map] at run

section Invariants

variable {holds : β → Prop} {field : String → Node → β → Except ReadError β} {before after : β}

theorem holds_of_fields {known seen : List String} {members : List (String × Node)}
    (keeps : ∀ name node first second, holds first → field name node first = .ok second →
      holds second)
    (run : fields known field (unknownField known) seen before members = .ok after)
    (start : holds before) : holds after := by
  induction members generalizing seen before with
  | nil =>
      cases run
      exact start
  | cons member rest ih =>
      rcases member with ⟨name, node⟩
      simp only [fields] at run
      split at run
      next =>
        split at run
        next => cases run
        next =>
          rcases outcome_bind_iff.mp run with ⟨middle, read, others⟩
          exact ih others (keeps name node before middle start read)
      next => cases run

theorem holds_of_fieldsInOrder {ending : ArrayEnd} {names : List String} {items : List Node}
    (keeps : ∀ name node first second, holds first → field name node first = .ok second →
      holds second)
    (run : fieldsInOrder field ending names before items = .ok after) (start : holds before) :
    holds after := by
  induction names generalizing items before with
  | nil =>
      rcases proceed_ok run with rfl
      exact start
  | cons name names ih =>
      cases items with
      | nil =>
          rcases proceed_ok run with rfl
          exact start
      | cons node rest =>
          rcases outcome_bind_iff.mp run with ⟨middle, read, others⟩
          exact ih others (keeps name node before middle start read)

/-- A decoded record is made from a state with every property that reading a field keeps. -/
theorem exists_state_of_record (holds : β → Prop) {type : String} {known : List String} {start : β}
    {finish : β → Except String α} {node : Node} {data : α} (initial : holds start)
    (keeps : ∀ name node first second, holds first → field name node first = .ok second →
      holds second)
    (run : record type known start field finish node = .ok data) :
    ∃ state, holds state ∧ finish state = .ok data := by
  cases node with
  | object members ending =>
      simp only [record, outcome_bind_iff] at run
      rcases run with ⟨state, read, ended, proceeded, finished⟩
      rcases proceed_ok proceeded with rfl
      refine ⟨state, holds_of_fields keeps read initial, ?_⟩
      split at finished
      next complete => rw [complete, Except.ok.inj finished]
      next => cases finished
  | array items ending =>
      simp only [record, outcome_bind_iff] at run
      rcases run with ⟨state, read, finished⟩
      refine ⟨state, holds_of_fieldsInOrder keeps read initial, ?_⟩
      split at finished
      next complete => rw [complete, Except.ok.inj finished]
      next => cases finished
  | _ => simp [record] at run

end Invariants

end Decoder

end UsbDescriptors.Json
