/-!
# Ordered maps

Values stored under names, listed in the order in which the names first appeared. Storing a
value under a name that is already present replaces the value and keeps the place of the name.
-/

namespace UsbDescriptors

universe u

/-- Named values in the order in which their names first appeared. -/
abbrev OrderedMap (α : Type u) := List (String × α)

namespace OrderedMap

variable {α : Type u}

def get? : OrderedMap α → String → Option α
  | [], _ => none
  | (present, value) :: rest, name => if present = name then some value else get? rest name

def contains (entries : OrderedMap α) (name : String) : Bool :=
  (entries.get? name).isSome

/-- The names in order of first appearance. -/
def keys (entries : OrderedMap α) : List String :=
  entries.map Prod.fst

/-- Stores a value: a name already present keeps its place, a new one goes to the end. -/
def insert : OrderedMap α → String → α → OrderedMap α
  | [], name, value => [(name, value)]
  | (present, old) :: rest, name, value =>
      if present = name then (name, value) :: rest else (present, old) :: insert rest name value

/-- Stores the entries of a list one after the other. -/
def ofList (entries : List (String × α)) : OrderedMap α :=
  entries.foldl (fun stored entry => insert stored entry.1 entry.2) []

@[simp]
theorem get?_nil (name : String) : get? ([] : OrderedMap α) name = none := rfl

@[simp]
theorem get?_insert_self (entries : OrderedMap α) (name : String) (value : α) :
    (entries.insert name value).get? name = some value := by
  induction entries with
  | nil => simp [insert, get?]
  | cons entry rest ih =>
      obtain ⟨present, old⟩ := entry
      by_cases same : present = name <;> simp [insert, get?, same, ih]

theorem get?_insert_of_ne (entries : OrderedMap α) {name other : String} (value : α)
    (different : name ≠ other) :
    (entries.insert name value).get? other = entries.get? other := by
  induction entries with
  | nil => simp [insert, get?, different]
  | cons entry rest ih =>
      obtain ⟨present, old⟩ := entry
      by_cases same : present = name
      · subst same
        simp [insert, get?, different]
      · by_cases found : present = other
        · subst found
          simp [insert, get?, same]
        · simp [insert, get?, same, found, ih]

end OrderedMap

end UsbDescriptors
