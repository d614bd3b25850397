import UsbDescriptors.Proofs.Strings.Tables

/-!
# Tables after any additions

A table is filled by additions of which some may be refused, and it stays in use after a refusal.
Here an addition is taken as the steps that it consists of, on a table that goes on to exist when
one of them fails: the symbol is looked for, the text is encoded, and only then the entry is put at
the end. The table that an addition leaves is followed over any number of them.

Every table that is reached in this way is sound, and what it holds is the beginning of what every
later table holds. Strings therefore keep their indices, whatever is added after them.
-/

namespace UsbDescriptors

theorem Utf16.length_bytes (text : String) : (bytes text).length = byteCount text := by
  have each (unit : UInt16) : (unitBytes unit).length = 2 := rfl
  simp [bytes, byteCount, List.length_flatMap, each, Nat.mul_comm]

theorem StringDescriptor.payload?_eq_some_iff {text : String} {payload : List UInt8} :
    payload? text = some payload ↔
      payload = Utf16.bytes text ∧ payload.length ≤ maxPayload := by
  simp only [payload?, Option.ite_none_right_eq_some, Option.some.injEq]
  constructor
  · rintro ⟨fits, rfl⟩
    exact ⟨rfl, fits⟩
  · rintro ⟨rfl, fits⟩
    exact ⟨fits, rfl⟩

namespace StringTable

/-- The addition of a string, step by step. A fault leaves the table as it is at that time. -/
def adding (request : StringRequest) : EStateM Fault StringTable String := do
  let table ← get
  if table.contains request.symbol then
    return request.symbol
  let payload ← match StringDescriptor.payload? request.text with
    | some payload => pure payload
    | none =>
        throw (.stringTooLong request.symbol (Utf16.byteCount request.text)
          StringDescriptor.maxPayload)
  set (⟨table.entries ++ [⟨request.symbol, request.text, payload⟩]⟩ : StringTable)
  return request.symbol

/-- The table that an addition leaves, whether it succeeds or not. -/
def afterAdding (table : StringTable) (request : StringRequest) : StringTable :=
  match adding request table with
  | .ok _ final => final
  | .error _ final => final

/-- The table that is left by additions which are made one after the other. -/
def after (table : StringTable) (requests : List StringRequest) : StringTable :=
  requests.foldl afterAdding table

def entryOf? (table : StringTable) (id : String) : Option StringEntry :=
  table.entries.find? fun entry => entry.id = id

/-- Every entry is found under its own identifier and carries the bytes of its text, which fit in a
descriptor. No identifier is one of the two names that frame the enumeration of the indices. -/
structure Sound (table : StringTable) : Prop where
  distinct : table.ids.Nodup
  found : ∀ entry ∈ table.entries, table.entryOf? entry.id = some entry
  encoded : ∀ entry ∈ table.entries, entry.payload = Utf16.bytes entry.text
  fits : ∀ entry ∈ table.entries, entry.payload.length ≤ StringDescriptor.maxPayload
  unreserved : ∀ id ∈ table.ids, id ≠ "STRING_INDEX_LANGUAGE" ∧ id ≠ "STRING_INDEX_COUNT"

/-- What an addition does to a table. -/
structure Adds (table : StringTable) (request : StringRequest) : Prop where
  /-- The steps do what the addition does as a whole, and a fault changes nothing. -/
  whole : adding request table =
    match table.add request.owner request.property request.value with
    | .ok (id, final) => .ok id final
    | .error fault => .error fault table
  /-- A known symbol is answered and nothing changes, whatever the text is. -/
  known : request.symbol ∈ table.ids → adding request table = .ok request.symbol table
  /-- A new symbol with a text that fits gets an entry behind all others. -/
  entered : request.symbol ∉ table.ids →
    Utf16.byteCount request.text ≤ StringDescriptor.maxPayload →
      adding request table = .ok request.symbol ⟨table.entries ++
        [⟨request.symbol, request.text, Utf16.bytes request.text⟩]⟩
  /-- A new symbol with a text that does not fit is refused. -/
  refused : request.symbol ∉ table.ids →
    StringDescriptor.maxPayload < Utf16.byteCount request.text →
      adding request table = .error (.stringTooLong request.symbol
        (Utf16.byteCount request.text) StringDescriptor.maxPayload) table

section Addition

variable {table : StringTable} {request : StringRequest}

theorem add_of_known (known : request.symbol ∈ table.ids) :
    table.add request.owner request.property request.value = .ok (request.symbol, table) :=
  if_pos (contains_iff.mpr known)

theorem add_of_new (new : request.symbol ∉ table.ids) :
    table.add request.owner request.property request.value =
      match StringDescriptor.payload? request.text with
      | some payload =>
          .ok (request.symbol, ⟨table.entries ++ [⟨request.symbol, request.text, payload⟩]⟩)
      | none =>
          .error (.stringTooLong request.symbol (Utf16.byteCount request.text)
            StringDescriptor.maxPayload) :=
  if_neg fun contained => new (contains_iff.mp contained)

/-- The steps do what the addition does as a whole, and a fault leaves the table as it was. -/
theorem adding_eq : adding request table =
    match table.add request.owner request.property request.value with
    | .ok (id, final) => .ok id final
    | .error fault => .error fault table := by
  have current : (get : EStateM Fault StringTable StringTable) table = .ok table table := rfl
  by_cases known : request.symbol ∈ table.ids
  · rw [add_of_known known]
    simp only [adding, bind, EStateM.bind, current, if_pos (contains_iff.mpr known)]
    rfl
  · rw [add_of_new known]
    have absent : ¬ table.contains request.symbol = true :=
      fun contained => known (contains_iff.mp contained)
    simp only [adding, bind, EStateM.bind, current, if_neg absent]
    cases StringDescriptor.payload? request.text with
    | none => rfl
    | some payload => rfl

theorem adds (table : StringTable) (request : StringRequest) : table.Adds request := by
  constructor
  · exact adding_eq
  · intro known
    rw [adding_eq, add_of_known known]
  · intro new fits
    rw [← Utf16.length_bytes] at fits
    rw [adding_eq, add_of_new new, StringDescriptor.payload?_eq_some_iff.mpr ⟨rfl, fits⟩]
  · intro new long
    have refused : StringDescriptor.payload? request.text = none := by
      rw [← Utf16.length_bytes] at long
      exact if_neg (Nat.not_le.mpr long)
    rw [adding_eq, add_of_new new, refused]

/-- An addition changes nothing, or it puts an entry with a new symbol at the end. -/
theorem afterAdding_cases (table : StringTable) (request : StringRequest) :
    table.afterAdding request = table ∨
      (request.symbol ∉ table.ids ∧ ∃ entry, request.EnteredAs entry ∧
        table.afterAdding request = ⟨table.entries ++ [entry]⟩) := by
  rw [afterAdding, adding_eq]
  cases run : table.add request.owner request.property request.value with
  | error fault => exact Or.inl rfl
  | ok added =>
      rcases add_ok run with ⟨named, ⟨-, same⟩ | ⟨new, entry, entered, grown⟩⟩
      · exact Or.inl same
      · right
        rw [named] at new
        exact ⟨new, entry, entered, grown⟩

theorem prefix_afterAdding (table : StringTable) (request : StringRequest) :
    table.entries <+: (table.afterAdding request).entries := by
  rcases table.afterAdding_cases request with same | ⟨-, entry, -, grown⟩
  · exact ⟨[], by rw [same, List.append_nil]⟩
  · rw [grown]
    exact List.prefix_append _ _

end Addition

theorem sound_empty : empty.Sound := by
  constructor <;> simp [empty, ids]

theorem unreserved_symbol (request : StringRequest) :
    request.symbol ≠ "STRING_INDEX_LANGUAGE" ∧ request.symbol ≠ "STRING_INDEX_COUNT" := by
  have language : "STRING_INDEX_LANGUAGE" = "STRING_INDEX_" ++ "LANGUAGE" := by decide
  have count : "STRING_INDEX_COUNT" = "STRING_INDEX_" ++ "COUNT" := by decide
  rw [language, count]
  exact ⟨request.symbol_ne (by decide), request.symbol_ne (by decide)⟩

/-- A new entry behind the entries of a sound table. -/
theorem Sound.concat {table : StringTable} {request : StringRequest} {entry : StringEntry}
    (sound : table.Sound) (new : request.symbol ∉ table.ids) (entered : request.EnteredAs entry) :
    Sound ⟨table.entries ++ [entry]⟩ := by
  have listed : ids ⟨table.entries ++ [entry]⟩ = table.ids ++ [request.symbol] := by
    rw [ids, List.map_append, List.map_singleton, entered.id]
    rfl
  rcases StringDescriptor.payload?_eq_some_iff.mp entered.payload with ⟨encoded, fits⟩
  constructor
  · rw [listed, List.nodup_append]
    refine ⟨sound.distinct, by simp, ?_⟩
    intro id mem other single same
    rw [List.mem_singleton] at single
    exact new (single ▸ same ▸ mem)
  · rw [List.forall_mem_append]
    constructor
    · intro other mem
      have found := sound.found other mem
      simp only [entryOf?] at found ⊢
      rw [List.find?_append, found]
      rfl
    · intro other single
      rw [List.mem_singleton.mp single]
      -- The new symbol finds its own entry because none of the entries before has it.
      have absent : table.entryOf? entry.id = none := by
        rw [entryOf?, List.find?_eq_none]
        intro other mem same
        rw [decide_eq_true_iff, entered.id] at same
        exact new (same ▸ List.mem_map_of_mem mem)
      simp only [entryOf?] at absent ⊢
      rw [List.find?_append, absent]
      simp
  · rw [List.forall_mem_append]
    refine ⟨sound.encoded, ?_⟩
    intro other single
    rw [List.mem_singleton.mp single, encoded, entered.text]
  · rw [List.forall_mem_append]
    refine ⟨sound.fits, ?_⟩
    intro other single
    rw [List.mem_singleton.mp single]
    exact fits
  · rw [listed, List.forall_mem_append]
    refine ⟨sound.unreserved, ?_⟩
    intro id single
    rw [List.mem_singleton.mp single]
    exact unreserved_symbol request

theorem Sound.afterAdding {table : StringTable} (sound : table.Sound) (request : StringRequest) :
    (table.afterAdding request).Sound := by
  rcases table.afterAdding_cases request with same | ⟨new, entry, entered, grown⟩
  · rwa [same]
  · rw [grown]
    exact sound.concat new entered

theorem Sound.after {table : StringTable} (sound : table.Sound) (requests : List StringRequest) :
    (table.after requests).Sound := by
  induction requests generalizing table with
  | nil => exact sound
  | cons request rest ih => exact ih (sound.afterAdding request)

theorem after_append (table : StringTable) (earlier later : List StringRequest) :
    table.after (earlier ++ later) = (table.after earlier).after later :=
  List.foldl_append

theorem prefix_after (table : StringTable) (requests : List StringRequest) :
    table.entries <+: (table.after requests).entries := by
  induction requests generalizing table with
  | nil => exact List.prefix_rfl
  | cons request rest ih => exact (table.prefix_afterAdding request).trans (ih _)

/-- Whatever strings are added to the empty table, and whichever of them are refused, the table is
sound at every time. Each addition is one of three: it answers a known symbol, enters a new string
at the end, or refuses a text that is too long. No later addition changes what is entered. -/
theorem sound_after (earlier : List StringRequest) (request : StringRequest)
    (later : List StringRequest) :
    (empty.after earlier).Sound ∧ (empty.after earlier).Adds request ∧
      (empty.after earlier).entries <+: (empty.after (earlier ++ request :: later)).entries := by
  refine ⟨sound_empty.after earlier, adds _ request, ?_⟩
  rw [after_append]
  exact prefix_after _ (request :: later)

end StringTable

end UsbDescriptors
