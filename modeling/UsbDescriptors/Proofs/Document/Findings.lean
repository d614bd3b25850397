import UsbDescriptors.Document.Validation
import UsbDescriptors.Proofs.Document.Lookup

/-!
# Kinds of findings

What a list of findings may hold is said by a kind that all of them are of: tags only if a document
is accepted, or violations that a member shows by itself. For every check of a member the lemmas at
the end say what shape the member has if the check notes nothing.
-/

namespace UsbDescriptors

open Json (Value)

/-- A problem that a member has by itself, whatever the rest of the document says. -/
def Problem.OfMember : Problem → Prop
  | .notJson _ | .unreadable _ | .tagClash _ _ => False
  | _ => True

namespace Finding

def IsTag : Finding → Prop
  | .tag _ _ => True
  | .violation _ => False

def IsOwn : Finding → Prop
  | .tag _ _ => False
  | .violation noted => noted.problem.OfMember

/-- A tag, or a violation that a member shows by itself. -/
def IsNoted (finding : Finding) : Prop :=
  finding.IsTag ∨ finding.IsOwn

@[simp]
theorem not_isTag_violation {violation : Violation} : ¬ IsTag (.violation violation) :=
  fun isTag => isTag

@[simp]
theorem isOwn_violation {violation : Violation} :
    IsOwn (.violation violation) ↔ violation.problem.OfMember :=
  Iff.rfl

@[simp]
theorem isNoted_violation {violation : Violation} :
    IsNoted (.violation violation) ↔ violation.problem.OfMember := by
  simp [IsNoted]

end Finding

namespace Validation

def All (kind : Finding → Prop) (findings : List Finding) : Prop :=
  ∀ finding ∈ findings, kind finding

/-- Findings without a violation. -/
abbrev Clean (findings : List Finding) : Prop :=
  All Finding.IsTag findings

/-- Violations that members show by themselves. -/
abbrev Own (findings : List Finding) : Prop :=
  All Finding.IsOwn findings

section Lists

variable {kind : Finding → Prop} {path : Path} {problem : Problem}

@[simp]
theorem all_nil : All kind [] := by
  intro finding mem
  cases mem

@[simp]
theorem all_append {first second : List Finding} :
    All kind (first ++ second) ↔ All kind first ∧ All kind second :=
  List.forall_mem_append

@[simp]
theorem all_found : All kind (found path problem) ↔ kind (.violation { path, problem }) := by
  simp [All, found]

@[simp]
theorem all_foundIf {condition : Bool} :
    All kind (foundIf condition path problem) ↔
      (condition = true → kind (.violation { path, problem })) := by
  cases condition <;> simp [foundIf]

@[simp]
theorem all_flatMap {α : Type} {items : List α} {check : α → List Finding} :
    All kind (items.flatMap check) ↔ ∀ item ∈ items, All kind (check item) := by
  induction items with
  | nil => simp
  | cons item rest ih => simp [ih]

@[simp]
theorem all_members {content : Members} {check : Path → String → Value → List Finding} :
    All kind (members path content check) ↔
      ∀ member ∈ content, All kind (check (path ++ [member.1]) member.1 member.2) := by
  simp [members]

theorem clean_foundIf {condition : Bool} :
    Clean (foundIf condition path problem) ↔ condition = false := by
  simp

end Lists

theorem clean_of_settle {seen : OrderedMap Path} {findings : List Finding}
    (settled : settle seen findings = []) : Clean findings := by
  induction findings generalizing seen with
  | nil => exact all_nil
  | cons finding rest ih =>
      cases finding with
      | violation violation => cases settled
      | tag path tag =>
          have restSettled : ∃ seen, settle seen rest = [] := by
            simp only [settle] at settled
            split at settled
            next => cases settled
            next => exact ⟨_, settled⟩
          rcases restSettled with ⟨_, restSettled⟩
          intro finding mem
          rcases List.mem_cons.mp mem with rfl | later
          · trivial
          · exact ih restSettled finding later

theorem mem_of_mem_settle {seen : OrderedMap Path} {findings : List Finding}
    {violation : Violation} (mem : violation ∈ settle seen findings) :
    .violation violation ∈ findings ∨ ∃ tag first, violation.problem = .tagClash tag first := by
  induction findings generalizing seen with
  | nil => cases mem
  | cons finding rest ih =>
      have later : ∀ {seen}, violation ∈ settle seen rest →
          .violation violation ∈ finding :: rest ∨
            ∃ tag first, violation.problem = .tagClash tag first := by
        intro seen restMem
        rcases ih restMem with noted | clash
        · exact Or.inl (List.mem_cons_of_mem _ noted)
        · exact Or.inr clash
      cases finding with
      | violation own =>
          rcases List.mem_cons.mp mem with rfl | restMem
          · exact Or.inl List.mem_cons_self
          · exact later restMem
      | tag path tag =>
          simp only [settle] at mem
          split at mem
          next first seenBefore =>
            rcases List.mem_cons.mp mem with rfl | restMem
            · exact Or.inr ⟨tag, first, rfl⟩
            · exact later restMem
          next => exact later mem

section Members

variable {path : Path} {content : Members} {key : String}

theorem mem_allowed_of_clean_keys {allowed : List String} {member : String × Value}
    (clean : Clean (keys path content allowed)) (mem : member ∈ content) :
    member.1 ∈ allowed := by
  simp only [keys, all_flatMap, clean_foundIf] at clean
  simpa using clean member mem

theorem fits_of_clean_string (clean : Clean (string path content key)) :
    Lookup.Fits content key Value.IsText := by
  intro value present
  cases value with
  | string text => exact ⟨text, rfl⟩
  | _ => simp [string, present] at clean

theorem fits_of_clean_descriptorString (clean : Clean (descriptorString path content key)) :
    Lookup.Fits content key Value.IsText := by
  intro value present
  cases value with
  | string text => exact ⟨text, rfl⟩
  | _ => simp [descriptorString, present] at clean

theorem eq_number_of_toNat? {value : Value} {number : Nat} (read : value.toNat? = some number) :
    value = .number (.integer (.ofNat number)) := by
  cases value with
  | number literal =>
      cases literal with
      | integer integer =>
          cases integer with
          | ofNat natural => cases read; rfl
          | negSucc _ => cases read
      | double _ => cases read
  | _ => cases read

theorem fits_of_clean_integer {least greatest : Nat}
    (clean : Clean (integer path content key least greatest)) :
    Lookup.Fits content key (Value.IsNatural greatest) := by
  intro value present
  simp only [integer, present, clean_foundIf] at clean
  cases read : value.toNat? with
  | none => simp [read] at clean
  | some number =>
      simp only [read, Bool.not_eq_false', Bool.and_eq_true, decide_eq_true_eq] at clean
      exact ⟨number, eq_number_of_toNat? read, clean.2⟩

theorem fits_of_clean_id (clean : Clean (id path content key)) :
    Lookup.Fits content key UsbId.IsId := by
  intro value present
  cases value with
  | string symbol => exact Or.inl ⟨symbol, rfl⟩
  | number literal =>
      right
      simp only [id, present, clean_foundIf] at clean
      cases read : (Value.number literal).toNat? with
      | none => simp [read] at clean
      | some number =>
          simp only [read, Bool.not_eq_false', decide_eq_true_eq] at clean
          exact ⟨number, eq_number_of_toNat? read, clean⟩
  | _ => simp [id, present, Value.toNat?] at clean

theorem fits_of_clean_version (clean : Clean (version path content key)) :
    Lookup.Fits content key Value.IsNumber := by
  intro value present
  cases value with
  | number number => exact ⟨number, rfl⟩
  | _ => simp [version, present, Value.toBinary64?] at clean

theorem fits_of_clean_attributes (clean : Clean (attributes path content key)) :
    Lookup.Fits content key Attribute.AreNames := by
  intro value present
  cases value with
  | array items =>
      refine ⟨items, rfl, ?_⟩
      intro item mem
      simp only [attributes, present, all_flatMap, clean_foundIf] at clean
      rcases List.mem_iff_getElem?.mp mem with ⟨index, found⟩
      have known := clean (item, index) (List.mem_zipIdx_iff_getElem?.mpr found)
      cases item with
      | string name => exact ⟨name, rfl, by simpa using known⟩
      | _ => simp at known
  | _ => simp [attributes, present] at clean

end Members

end Validation

end UsbDescriptors
