import UsbDescriptors.Proofs.Runs.Steps
import Mathlib.Data.List.Forall2

/-!
# Strings added in a row

A table is filled by one addition after the other. An addition under a new identifier puts an entry
behind all others, and one under a known identifier changes nothing, so the first text of an
identifier stays whatever is added later. If no two strings of a list have one identifier the table
holds an entry for every string of the list, in the order of the list and with its text.
-/

namespace UsbDescriptors

/-- A string that is to be added: a property of an owner, and a text if there is one. -/
structure StringRequest where
  owner : String
  property : String
  value : Option String
deriving DecidableEq, Repr

namespace StringRequest

def symbol (request : StringRequest) : String :=
  StringTable.symbol request.owner request.property

def text (request : StringRequest) : String :=
  request.value.getD ""

/-- The symbol of a string has an underscore in front of its property, so it is none of the names
that have only one word there. -/
theorem symbol_ne (request : StringRequest) {word : String} (single : '_' ∉ word.toList) :
    request.symbol ≠ "STRING_INDEX_" ++ word := by
  intro same
  rw [symbol, StringTable.symbol, String.append_assoc, String.append_assoc,
    String.append_right_inj] at same
  apply single
  rw [← same]
  simp

/-- The entry has the identifier and the text of the string, and the bytes of this text. -/
structure EnteredAs (request : StringRequest) (entry : StringEntry) : Prop where
  id : entry.id = request.symbol
  text : entry.text = request.text
  payload : StringDescriptor.payload? request.text = some entry.payload

end StringRequest

namespace StringTable

def ids (table : StringTable) : List String :=
  table.entries.map StringEntry.id

/-- Adds strings one by one, up to the first one that does not fit. -/
def addAll : StringTable → List StringRequest → Except Fault StringTable
  | table, [] => .ok table
  | table, request :: rest => do
      let added ← table.add request.owner request.property request.value
      addAll added.2 rest

variable {table middle final : StringTable} {owner property id : String} {value : Option String}

theorem contains_iff : table.contains id = true ↔ id ∈ table.ids := by
  simp [contains, ids]

/-- An addition gives the symbol of the string. The table stays as it is if it has the symbol, and
has one more entry at its end otherwise. -/
theorem add_ok (run : table.add owner property value = .ok (id, final)) :
    id = symbol owner property ∧
      ((id ∈ table.ids ∧ final = table) ∨
        (id ∉ table.ids ∧ ∃ entry, StringRequest.EnteredAs ⟨owner, property, value⟩ entry ∧
          final = ⟨table.entries ++ [entry]⟩)) := by
  unfold add at run
  by_cases known : table.contains (symbol owner property) = true
  · simp only [known, if_true, Except.ok.injEq, Prod.mk.injEq] at run
    rcases run with ⟨rfl, rfl⟩
    exact ⟨rfl, Or.inl ⟨contains_iff.mp known, rfl⟩⟩
  · simp only [known, Bool.false_eq_true, if_false] at run
    cases fits : StringDescriptor.payload? (value.getD "") with
    | none => simp [fits] at run
    | some payload =>
        simp only [fits, Except.ok.injEq, Prod.mk.injEq] at run
        rcases run with ⟨rfl, rfl⟩
        refine ⟨rfl, Or.inr ⟨fun present => known (contains_iff.mpr present), _, ?_, rfl⟩⟩
        exact ⟨rfl, rfl, fits⟩

/-- A text that fits can be added to every table. -/
theorem exists_add (fits : (StringDescriptor.payload? (value.getD "")).isSome = true) :
    ∃ final, table.add owner property value = .ok (symbol owner property, final) := by
  rcases Option.isSome_iff_exists.mp fits with ⟨payload, payloadEq⟩
  unfold add
  by_cases known : table.contains (symbol owner property) = true
  · simp [known]
  · simp [known, payloadEq]

theorem addAll_append {first second : List StringRequest} :
    table.addAll (first ++ second) =
      table.addAll first >>= fun middle => middle.addAll second := by
  induction first generalizing table with
  | nil => rfl
  | cons request rest ih =>
      rw [List.cons_append, addAll, addAll, bind_assoc]
      exact congrArg _ (funext fun added => ih)

/-- A table has no identifiers but those it had before and those of the strings that were added. -/
theorem mem_ids_of_addAll {requests : List StringRequest} (run : table.addAll requests = .ok final)
    (mem : id ∈ final.ids) : id ∈ table.ids ∨ ∃ request ∈ requests, id = request.symbol := by
  induction requests generalizing table with
  | nil =>
      cases run
      exact Or.inl mem
  | cons request rest ih =>
      simp only [addAll, outcome_bind_iff] at run
      rcases run with ⟨⟨own, extended⟩, added, continued⟩
      rcases ih continued with before | ⟨later, laterMem, rfl⟩
      · rcases add_ok added with ⟨-, ⟨-, rfl⟩ | ⟨-, entry, entered, rfl⟩⟩
        · exact Or.inl before
        · simp only [ids, List.map_append, List.map_singleton, List.mem_append,
            List.mem_singleton] at before
          rcases before with known | rfl
          · exact Or.inl known
          · exact Or.inr ⟨request, List.mem_cons_self, entered.id⟩
      · exact Or.inr ⟨later, List.mem_cons_of_mem _ laterMem, rfl⟩

/-- Strings under new identifiers that differ from each other are all entered, in their order. -/
theorem entries_of_addAll {requests : List StringRequest}
    (distinct : (table.ids ++ requests.map StringRequest.symbol).Nodup)
    (run : table.addAll requests = .ok final) :
    ∃ entries, final.entries = table.entries ++ entries ∧
      List.Forall₂ StringRequest.EnteredAs requests entries := by
  -- Every step moves one symbol from the strings to the table, so the identifiers stay distinct.
  induction requests generalizing table with
  | nil =>
      cases run
      exact ⟨[], (List.append_nil _).symm, .nil⟩
  | cons request rest ih =>
      simp only [addAll, outcome_bind_iff] at run
      rcases run with ⟨⟨id, extended⟩, added, continued⟩
      rcases add_ok added with ⟨named, ⟨known, -⟩ | ⟨-, entry, entered, rfl⟩⟩
      · subst id
        rw [List.map_cons, List.nodup_append] at distinct
        exact absurd rfl (distinct.2.2 _ known _ List.mem_cons_self)
      · have moved : (ids ⟨table.entries ++ [entry]⟩ ++ rest.map StringRequest.symbol).Nodup := by
          have own : ids ⟨table.entries ++ [entry]⟩ = table.ids ++ [request.symbol] := by
            rw [ids, List.map_append, List.map_singleton, entered.id]
            rfl
          rw [own, List.append_assoc]
          exact distinct
        rcases ih moved continued with ⟨entries, grown, others⟩
        refine ⟨entry :: entries, ?_, .cons entered others⟩
        rw [grown, List.append_assoc]
        rfl

theorem ids_of_entered {requests : List StringRequest} {entries : List StringEntry}
    (entered : List.Forall₂ StringRequest.EnteredAs requests entries) :
    entries.map StringEntry.id = requests.map StringRequest.symbol := by
  induction entered with
  | nil => rfl
  | cons head _ ih => rw [List.map_cons, List.map_cons, ih, head.id]

/-- The text under an identifier. -/
def text? (table : StringTable) (id : String) : Option String :=
  (table.entries.find? fun entry => entry.id = id).map StringEntry.text

theorem text?_of_entered {requests : List StringRequest} {request : StringRequest}
    (entered : List.Forall₂ StringRequest.EnteredAs requests table.entries)
    (distinct : (requests.map StringRequest.symbol).Nodup) (mem : request ∈ requests) :
    table.text? request.symbol = some request.text := by
  rcases table with ⟨entries⟩
  dsimp only at entered
  induction entered with
  | nil => cases mem
  | @cons first entry rest entries head _ ih =>
      rcases List.nodup_cons.mp distinct with ⟨absent, restDistinct⟩
      rcases List.mem_cons.mp mem with rfl | later
      · simp [text?, head.id, head.text]
      · have different : ¬ entry.id = request.symbol := by
          intro same
          rw [head.id] at same
          exact absent (same ▸ List.mem_map_of_mem later)
        have found := ih restDistinct later
        simp only [text?] at found ⊢
        rw [List.find?_cons_of_neg (by simpa using different), found]

/-- The table holds the strings of a list and nothing else: they were added in their order, no one
under an identifier that the table had at that time, and every one has its own entry. -/
structure Holds (table : StringTable) (requests : List StringRequest) : Prop where
  added : empty.addAll requests = .ok table
  fresh : ∀ earlier request later, requests = earlier ++ request :: later →
    ∃ before, empty.addAll earlier = .ok before ∧ before.contains request.symbol = false
  entries : List.Forall₂ StringRequest.EnteredAs requests table.entries

theorem holds_of_addAll {requests : List StringRequest}
    (distinct : (requests.map StringRequest.symbol).Nodup)
    (run : empty.addAll requests = .ok final) : final.Holds requests := by
  refine ⟨run, ?_, ?_⟩
  · rintro earlier request later rfl
    rw [addAll_append, outcome_bind_iff] at run
    rcases run with ⟨before, first, -⟩
    refine ⟨before, first, ?_⟩
    rw [List.map_append, List.map_cons, List.nodup_append] at distinct
    rcases @entries_of_addAll empty before earlier distinct.1 first with ⟨entries, grown, entered⟩
    have known : before.ids = earlier.map StringRequest.symbol := by
      rw [ids, grown]
      exact ids_of_entered entered
    refine Bool.eq_false_iff.mpr fun contained => ?_
    rw [contains_iff, known] at contained
    exact distinct.2.2 _ contained _ List.mem_cons_self rfl
  · rcases @entries_of_addAll empty final requests distinct run with ⟨entries, grown, entered⟩
    rw [grown]
    exact entered

end StringTable

end UsbDescriptors
