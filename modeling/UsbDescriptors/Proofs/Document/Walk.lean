import UsbDescriptors.Proofs.Document.Findings

/-!
# The walk over a document

At every level the walk notes the tag of the part it is at, then what the members of the part show
by themselves, and then the findings of the smaller parts. A level that is left early has no
smaller parts.
-/

namespace UsbDescriptors

open Json (Value)

namespace Validation

section Checks

variable {path : Path} {content : Members} {key name : String}

@[simp]
theorem own_keys {allowed : List String} : Own (keys path content allowed) := by
  simp [keys, Problem.OfMember]

@[simp]
theorem own_string : Own (string path content key) := by
  unfold string
  split <;> simp [Problem.OfMember]

@[simp]
theorem own_descriptorString : Own (descriptorString path content key) := by
  unfold descriptorString
  split <;> simp [Problem.OfMember]

@[simp]
theorem own_integer {least greatest : Nat} :
    Own (integer path content key least greatest) := by
  unfold integer
  split <;> simp [Problem.OfMember]

@[simp]
theorem own_id : Own (id path content key) := by
  unfold id
  split <;> simp [Problem.OfMember]

@[simp]
theorem own_version : Own (version path content key) := by
  unfold version
  split <;> simp [Problem.OfMember]

@[simp]
theorem own_attributes : Own (attributes path content key) := by
  unfold attributes
  split <;> simp [Problem.OfMember]

@[simp]
theorem own_property {template : Template} {value : Value} :
    Own (property template name path key value) := by
  unfold property
  split
  · simp
  · split <;> simp [Problem.OfMember]

end Checks

theorem Own.noted {findings : List Finding} (own : Own findings) :
    All Finding.IsNoted findings :=
  fun finding mem => Or.inr (own finding mem)

theorem noted_tag {path : Path} {name : String} {symbol : Bool} :
    All Finding.IsNoted (tag path name symbol) := by
  unfold tag
  split
  · simp [Problem.OfMember]
  · have noted : All Finding.IsNoted [.tag path name] := by
      intro finding mem
      rcases List.mem_singleton.mp mem with rfl
      exact Or.inl trivial
    simp [noted, Problem.OfMember]

section Levels

variable {catalog : Catalog} {path : Path} {name : String} {value : Value}

theorem interface_split : ∃ checks, Own checks ∧
    interface catalog path name value = tag path name true ++ checks := by
  unfold interface
  refine ⟨_, ?_, rfl⟩
  split
  · refine all_append.mpr ⟨own_descriptorString, ?_⟩
    split
    · simp [Problem.OfMember]
    · split <;> simp
    · simp [Problem.OfMember]
  · simp [Problem.OfMember]

theorem host_split : ∃ checks, Own checks ∧
    host path name value = tag path name true ++ checks := by
  unfold host
  refine ⟨_, ?_, rfl⟩
  split <;> simp [Problem.OfMember]

theorem configuration_split : ∃ checks, Own checks ∧
    configuration catalog path name value = tag path name false ++ (checks ++
      members (path ++ ["interfaces"]) (value.part "interfaces") (interface catalog)) := by
  cases value with
  | object content =>
      rw [Value.part_object]
      simp only [configuration]
      cases OrderedMap.get? content "interfaces" with
      | none => exact ⟨_, by simp, rfl⟩
      | some interfaces =>
          cases interfaces with
          | object interfaces => exact ⟨_, by simp, rfl⟩
          | _ => exact ⟨_, by simp [Problem.OfMember], congrArg _ (List.append_nil _).symm⟩
  | _ => exact ⟨_, by simp [Problem.OfMember], congrArg _ (List.append_nil _).symm⟩

theorem device_split : ∃ checks, Own checks ∧
    device catalog path name value = tag path name false ++ (checks ++
      members (path ++ ["configurations"]) (value.part "configurations")
        (configuration catalog)) := by
  cases value with
  | object content =>
      rw [Value.part_object]
      simp only [device]
      cases OrderedMap.get? content "configurations" with
      | none => exact ⟨_, by simp [Problem.OfMember], congrArg _ (List.append_nil _).symm⟩
      | some configurations =>
          cases configurations with
          | object configurations =>
              exact ⟨_, by simp [Problem.OfMember], congrArg _ (List.append_assoc _ _ _).symm⟩
          | _ => exact ⟨_, by simp [Problem.OfMember], congrArg _ (List.append_nil _).symm⟩
  | _ => exact ⟨_, by simp [Problem.OfMember], congrArg _ (List.append_nil _).symm⟩

theorem parts_split (content : Members) (key : String)
    (check : Path → String → Value → List Finding) : ∃ checks, Own checks ∧
    parts content key check =
      checks ++ members [key] (Value.part (.object content) key) check := by
  rw [Value.part_object]
  simp only [parts]
  cases OrderedMap.get? content key with
  | none => exact ⟨[], all_nil, rfl⟩
  | some members =>
      cases members with
      | object members => exact ⟨[], all_nil, rfl⟩
      | _ => exact ⟨_, by simp [Problem.OfMember], (List.append_nil _).symm⟩

theorem findings_split : ∃ checks more, Own checks ∧ Own more ∧
    findings catalog value =
      checks ++ members ["devices"] (value.part "devices") (device catalog) ++
        (more ++ members ["host"] (value.part "host") host) := by
  cases value with
  | object content =>
      rcases parts_split content "devices" (device catalog) with ⟨checks, own, devices⟩
      rcases parts_split content "host" host with ⟨more, moreOwn, hosts⟩
      refine ⟨keys [] content ["$schema", "devices", "host"] ++ string [] content "$schema" ++
        checks, more, by simp [own], moreOwn, ?_⟩
      simp only [findings, devices, hosts, List.append_assoc]
  | _ => exact ⟨found [] .notObject, [], by simp [Problem.OfMember], all_nil, rfl⟩

/-- The walk notes tags and what members show by themselves, so it notes no clash. -/
theorem noted_findings : All Finding.IsNoted (findings catalog value) := by
  have interfaces : ∀ path name value,
      All Finding.IsNoted (interface catalog path name value) := by
    intro path name value
    rcases @interface_split catalog path name value with ⟨checks, own, split⟩
    simp [split, noted_tag, own.noted]
  have configurations : ∀ path name value,
      All Finding.IsNoted (configuration catalog path name value) := by
    intro path name value
    rcases @configuration_split catalog path name value with ⟨checks, own, split⟩
    simp [split, noted_tag, own.noted, interfaces]
  have devices : ∀ path name value, All Finding.IsNoted (device catalog path name value) := by
    intro path name value
    rcases @device_split catalog path name value with ⟨checks, own, split⟩
    simp [split, noted_tag, own.noted, configurations]
  have hosts : ∀ path name value, All Finding.IsNoted (host path name value) := by
    intro path name value
    rcases @host_split path name value with ⟨checks, own, split⟩
    simp [split, noted_tag, own.noted]
  rcases @findings_split catalog value with ⟨checks, more, own, moreOwn, split⟩
  simp [split, own.noted, moreOwn.noted, devices, hosts]

end Levels

end Validation

end UsbDescriptors
