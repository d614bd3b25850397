import UsbDescriptors.Proofs.Document.Acceptance
import UsbDescriptors.Proofs.Document.Parts
import Mathlib.Data.Finset.Card
import Mathlib.Data.List.Dedup
import Mathlib.Data.List.Flatten

/-!
# Tags of a document

The walk notes the tags that a value gives to devices, configurations, interfaces and host sections,
in document order. What is known when the next tag is noted is, for every identifier, the first
tag that has it; this carries all statements about clashes through the list of findings.
-/

namespace UsbDescriptors

open Json (Value)

/-- The tags of the interfaces of a configuration, each with its path. -/
def Configuration.tagsOf (path : Path) (value : Value) : List (Path × String) :=
  (value.part "interfaces").map fun member => (path ++ ["interfaces"] ++ [member.1], member.1)

/-- The tags of the configurations of a device and of their interfaces. -/
def Device.tagsOf (path : Path) (value : Value) : List (Path × String) :=
  (value.part "configurations").flatMap fun member =>
    let path := path ++ ["configurations"] ++ [member.1]
    [(path, member.1)] ++ Configuration.tagsOf path member.2

/-- The tags that a value gives, each with its path, in document order. -/
def Document.tagsOf (value : Value) : List (Path × String) :=
  ((value.part "devices").flatMap fun member =>
    [(["devices", member.1], member.1)] ++ Device.tagsOf ["devices", member.1] member.2) ++
  (value.part "host").map fun member => (["host", member.1], member.1)

/-- The tags of a document, in its order. -/
def Document.tags (document : Document) : List String :=
  (document.devices.flatMap fun device =>
    device.1 :: device.2.configurations.flatMap fun configuration =>
      configuration.1 :: configuration.2.interfaces.map Prod.fst) ++
  document.hosts.map Prod.fst

theorem Document.tags_lookUp (value : Value) :
    (lookUp value).tags = (tagsOf value).map Prod.snd := by
  simp [tags, tagsOf, lookUp_devices, lookUp_hosts, Device.tagsOf, Configuration.tagsOf,
    Device.lookUp_configurations, Configuration.lookUp_interfaces, List.flatMap_map,
    List.map_flatMap, Function.comp_def]

def Finding.tag? : Finding → Option (Path × String)
  | .violation _ => none
  | .tag path name => some (path, name)

namespace Validation

variable {catalog : Catalog} {path : Path} {name : String} {value : Value}

/-- The tags among findings, each with its path. -/
def tags (findings : List Finding) : List (Path × String) :=
  findings.filterMap Finding.tag?

theorem tags_append {first second : List Finding} :
    tags (first ++ second) = tags first ++ tags second :=
  List.filterMap_append

theorem tags_flatMap {α : Type} {items : List α} {check : α → List Finding} :
    tags (items.flatMap check) = items.flatMap fun item => tags (check item) := by
  induction items with
  | nil => rfl
  | cons item rest ih => simp only [List.flatMap_cons, tags_append, ih]

theorem Own.tags_eq_nil {findings : List Finding} (own : Own findings) : tags findings = [] := by
  apply List.filterMap_eq_nil_iff.mpr
  intro finding mem
  cases finding with
  | violation violation => rfl
  | tag path name => exact False.elim (own _ mem)

def nonempty (tags : List (Path × String)) : List (Path × String) :=
  tags.filter fun tag => tag.2 ≠ ""

theorem nonempty_append {first second : List (Path × String)} :
    nonempty (first ++ second) = nonempty first ++ nonempty second :=
  List.filter_append ..

theorem nonempty_flatMap {α : Type} {items : List α} {part : α → List (Path × String)} :
    nonempty (items.flatMap part) = items.flatMap fun item => nonempty (part item) :=
  List.filter_flatMap

theorem nonempty_map {α : Type} {items : List α} {part : α → Path × String} :
    nonempty (items.map part) = items.flatMap fun item => nonempty [part item] := by
  rw [← List.flatMap_singleton' (items.map part), nonempty_flatMap, List.flatMap_map]

theorem tags_tag {symbol : Bool} : tags (tag path name symbol) = nonempty [(path, name)] := by
  have noted : tags [.tag path name] = [(path, name)] := rfl
  have checked : ∀ condition, tags (foundIf condition path .tagNotIdentifier) = [] := by
    intro condition
    cases condition <;> rfl
  by_cases empty : name = ""
  · simp [tag, nonempty, empty, found, tags, Finding.tag?]
  · simp [tag, nonempty, empty, tags_append, checked, noted]

theorem tags_members {content : Members} {check : Path → String → Value → List Finding} :
    tags (members path content check) =
      content.flatMap fun member => tags (check (path ++ [member.1]) member.1 member.2) :=
  tags_flatMap

theorem tags_interface : tags (interface catalog path name value) = nonempty [(path, name)] := by
  rcases @interface_split catalog path name value with ⟨checks, own, split⟩
  rw [split, tags_append, tags_tag, own.tags_eq_nil, List.append_nil]

theorem tags_host : tags (host path name value) = nonempty [(path, name)] := by
  rcases @host_split path name value with ⟨checks, own, split⟩
  rw [split, tags_append, tags_tag, own.tags_eq_nil, List.append_nil]

theorem tags_configuration : tags (configuration catalog path name value) =
    nonempty ([(path, name)] ++ Configuration.tagsOf path value) := by
  rcases @configuration_split catalog path name value with ⟨checks, own, split⟩
  rw [split, tags_append, tags_append, tags_tag, own.tags_eq_nil, List.nil_append, tags_members,
    nonempty_append, Configuration.tagsOf, nonempty_map]
  simp only [tags_interface]

theorem tags_device : tags (device catalog path name value) =
    nonempty ([(path, name)] ++ Device.tagsOf path value) := by
  rcases @device_split catalog path name value with ⟨checks, own, split⟩
  rw [split, tags_append, tags_append, tags_tag, own.tags_eq_nil, List.nil_append, tags_members,
    nonempty_append, Device.tagsOf, nonempty_flatMap]
  simp only [tags_configuration]

/-- The walk notes the tags of the value that are not empty, in document order. -/
theorem tags_findings : tags (findings catalog value) = nonempty (Document.tagsOf value) := by
  rcases @findings_split catalog value with ⟨checks, more, own, moreOwn, split⟩
  rw [split, tags_append, tags_append, tags_append, own.tags_eq_nil, moreOwn.tags_eq_nil,
    List.nil_append, List.nil_append, tags_members, tags_members, Document.tagsOf, nonempty_append,
    nonempty_flatMap, nonempty_map]
  simp only [tags_device, tags_host]
  rfl

/-- The path of the first tag with an identifier. -/
def firstPath? (tags : List (Path × String)) (id : String) : Option Path :=
  (tags.find? fun tag => identifier tag.2 == id).map Prod.fst

theorem firstPath?_append {first second : List (Path × String)} {id : String} :
    firstPath? (first ++ second) id = (firstPath? first id).or (firstPath? second id) := by
  rw [firstPath?, List.find?_append, Option.map_or]
  rfl

theorem firstPath?_singleton {id : String} : firstPath? [(path, name)] id =
    OrderedMap.get? [(identifier name, path)] id := by
  by_cases same : identifier name = id <;> simp [firstPath?, same]

theorem firstPath?_isSome_iff {tags : List (Path × String)} {id : String} :
    (firstPath? tags id).isSome = true ↔ id ∈ tags.map fun tag => identifier tag.2 := by
  simp [firstPath?]

/-- What has been seen is, for every identifier, the first of the tags before. -/
def Seen (seen : OrderedMap Path) (before : List (Path × String)) : Prop :=
  ∀ id, seen.get? id = firstPath? before id

theorem seen_nil : Seen [] [] := fun _ => rfl

theorem Seen.keep {seen : OrderedMap Path} {before : List (Path × String)} {first : Path}
    (known : Seen seen before) (present : seen.get? (identifier name) = some first) :
    Seen seen (before ++ [(path, name)]) := by
  intro id
  rw [firstPath?_append, firstPath?_singleton, ← known id]
  by_cases same : identifier name = id
  · subst same
    rw [present, Option.some_or]
  · simp [same]

theorem Seen.add {seen : OrderedMap Path} {before : List (Path × String)}
    (known : Seen seen before) :
    Seen (seen ++ [(identifier name, path)]) (before ++ [(path, name)]) := by
  intro id
  rw [firstPath?_append, firstPath?_singleton, ← known id, OrderedMap.get?_append]

/-- A violation that reports a clash of tags. -/
def isClash (violation : Violation) : Bool :=
  match violation.problem with
  | .tagClash _ _ => true
  | _ => false

/-- The clashes of tags with the tags in front of them, those of `before` included. -/
def clashesFrom : (before : List (Path × String)) → List (Path × String) → List Violation
  | _, [] => []
  | before, (path, name) :: rest =>
      ((firstPath? before (identifier name)).map fun first =>
        { path, problem := .tagClash name first }).toList ++
          clashesFrom (before ++ [(path, name)]) rest

/-- Settling findings reports a clash for every tag whose identifier has been seen. -/
theorem clashes_settle {seen : OrderedMap Path} {before : List (Path × String)}
    {findings : List Finding} (known : Seen seen before)
    (noted : All Finding.IsNoted findings) :
    (settle seen findings).filter isClash = clashesFrom before (tags findings) := by
  -- `Seen` is the invariant: a tag is added to both of its sides, or it was there already.
  induction findings generalizing seen before with
  | nil => rfl
  | cons finding rest ih =>
      have restNoted : All Finding.IsNoted rest := fun other mem =>
        noted other (List.mem_cons_of_mem _ mem)
      cases finding with
      | violation violation =>
          have noClash : isClash violation = false := by
            have member := Finding.isNoted_violation.mp (noted _ List.mem_cons_self)
            unfold isClash
            split
            next clash =>
              rw [clash] at member
              cases member
            next => rfl
          rw [settle, List.filter_cons_of_neg (by simp [noClash]), ih known restNoted]
          rfl
      | tag path name =>
          have first : tags (.tag path name :: rest) = (path, name) :: tags rest := rfl
          rw [first, clashesFrom, settle, ← known (identifier name)]
          cases present : seen.get? (identifier name) with
          | some first =>
              rw [← ih (known.keep present) restNoted]
              rfl
          | none =>
              rw [← ih known.add restNoted]
              rfl

theorem map_identifier_append {before : List (Path × String)} :
    ((before ++ [(path, name)]).map fun tag => identifier tag.2).toFinset =
      insert (identifier name) (before.map fun tag => identifier tag.2).toFinset := by
  rw [List.map_append, List.toFinset_append, Finset.union_comm]
  rfl

/-- Every tag either brings a new identifier or clashes. -/
theorem length_clashesFrom {before tags : List (Path × String)} :
    (clashesFrom before tags).length +
        ((before ++ tags).map fun tag => identifier tag.2).toFinset.card =
      tags.length + (before.map fun tag => identifier tag.2).toFinset.card := by
  -- One step adds a tag on the right and, on the left, either a clash or an identifier.
  induction tags generalizing before with
  | nil => simp [clashesFrom]
  | cons tag rest ih =>
      rcases tag with ⟨path, name⟩
      have later := @ih (before ++ [(path, name)])
      rw [map_identifier_append, List.append_assoc, List.singleton_append] at later
      rw [clashesFrom, List.length_append, List.length_cons]
      cases found : firstPath? before (identifier name) with
      | none =>
          have new : identifier name ∉ (before.map fun tag => identifier tag.2).toFinset := by
            rw [List.mem_toFinset, ← firstPath?_isSome_iff, found]
            simp
          rw [Finset.card_insert_of_notMem new] at later
          simp only [Option.map_none, Option.toList_none, List.length_nil]
          omega
      | some first =>
          have old : identifier name ∈ (before.map fun tag => identifier tag.2).toFinset := by
            rw [List.mem_toFinset, ← firstPath?_isSome_iff, found]
            rfl
          rw [Finset.insert_eq_of_mem old] at later
          simp only [Option.map_some, Option.toList_some, List.length_singleton]
          omega

theorem ne_empty_of_clean_tag {symbol : Bool} (clean : Clean (tag path name symbol)) :
    name ≠ "" := by
  rintro rfl
  exact all_found.mp clean

theorem nonempty_of_clean_configuration (clean : Clean (configuration catalog path name value)) :
    ∀ tag ∈ [(path, name)] ++ Configuration.tagsOf path value, tag.2 ≠ "" := by
  rcases @configuration_split catalog path name value with ⟨checks, -, split⟩
  simp only [split, all_append, all_members] at clean
  intro tag mem
  rcases List.mem_cons.mp mem with rfl | mem
  · exact ne_empty_of_clean_tag clean.1
  · rcases List.mem_map.mp mem with ⟨member, memberMem, rfl⟩
    have memberClean := clean.2.2 member memberMem
    simp only [interface, all_append] at memberClean
    exact ne_empty_of_clean_tag memberClean.1

theorem nonempty_of_clean_device (clean : Clean (device catalog path name value)) :
    ∀ tag ∈ [(path, name)] ++ Device.tagsOf path value, tag.2 ≠ "" := by
  rcases @device_split catalog path name value with ⟨checks, -, split⟩
  simp only [split, all_append, all_members] at clean
  intro tag mem
  rcases List.mem_cons.mp mem with rfl | mem
  · exact ne_empty_of_clean_tag clean.1
  · rcases List.mem_flatMap.mp mem with ⟨member, memberMem, tagMem⟩
    exact nonempty_of_clean_configuration (clean.2.2 member memberMem) tag tagMem

theorem nonempty_of_clean_findings (clean : Clean (findings catalog value)) :
    ∀ tag ∈ Document.tagsOf value, tag.2 ≠ "" := by
  rcases @findings_split catalog value with ⟨checks, more, -, -, split⟩
  simp only [split, all_append, all_members] at clean
  intro tag mem
  rcases List.mem_append.mp mem with mem | mem
  · rcases List.mem_flatMap.mp mem with ⟨member, memberMem, tagMem⟩
    exact nonempty_of_clean_device (clean.1.2 member memberMem) tag tagMem
  · rcases List.mem_map.mp mem with ⟨member, memberMem, rfl⟩
    have memberClean := clean.2.2 member memberMem
    simp only [host, all_append] at memberClean
    exact ne_empty_of_clean_tag memberClean.1

end Validation

namespace Document

open Validation (clashesFrom firstPath? isClash nonempty)

theorem clashes_violations (catalog : Catalog) (value : Value) :
    (violations catalog value).filter isClash = clashesFrom [] (nonempty (tagsOf value)) := by
  rw [← Validation.tags_findings]
  exact Validation.clashes_settle Validation.seen_nil Validation.noted_findings

/-- Tags without a clash have distinct identifiers. -/
theorem nodup_of_clashesFrom {tags : List (Path × String)} (settled : clashesFrom [] tags = []) :
    (tags.map fun tag => identifier tag.2).Nodup := by
  have count := @Validation.length_clashesFrom [] tags
  rw [settled, List.nil_append, List.card_toFinset] at count
  have same : (tags.map fun tag => identifier tag.2).dedup.length =
      (tags.map fun tag => identifier tag.2).length := by
    rw [List.length_map]
    simpa using count
  exact List.dedup_eq_self.mp ((List.dedup_sublist _).eq_of_length same)

theorem nodup_identifier_tags {catalog : Catalog} {value : Value}
    (accepted : violations catalog value = []) :
    ((lookUp value).tags.map identifier).Nodup := by
  have settled := clashes_violations catalog value
  rw [accepted] at settled
  have clean := Validation.clean_of_settle accepted
  have all : nonempty (tagsOf value) = tagsOf value := by
    refine List.filter_eq_self.mpr fun tag mem => ?_
    simpa using Validation.nonempty_of_clean_findings clean tag mem
  rw [all] at settled
  rw [tags_lookUp, List.map_map]
  exact nodup_of_clashesFrom settled.symm

section Parts

variable {document : Document}

theorem interface_tags_sublist :
    (document.allInterfaces.map Prod.fst).Sublist document.tags := by
  refine List.Sublist.trans ?_ (List.sublist_append_left _ _)
  rw [allInterfaces, allConfigurations, List.flatMap_assoc, List.map_flatMap]
  refine List.Sublist.flatMap_right _ fun device _ => ?_
  rw [List.map_flatMap]
  refine List.Sublist.cons _ (List.Sublist.flatMap_right _ fun configuration _ => ?_)
  exact List.sublist_cons_self _ _

theorem configuration_tags_sublist :
    (document.allConfigurations.map Prod.fst).Sublist document.tags := by
  refine List.Sublist.trans ?_ (List.sublist_append_left _ _)
  rw [allConfigurations, List.map_flatMap]
  refine List.Sublist.flatMap_right _ fun device _ => ?_
  rw [← List.flatMap_singleton' (device.2.configurations.map Prod.fst), List.flatMap_map]
  refine List.Sublist.cons _ (List.Sublist.flatMap_right _ fun configuration _ => ?_)
  exact List.Sublist.cons_cons _ (List.nil_sublist _)

end Parts

theorem nodup_identifier_tags_of_read {catalog : Catalog} {text : String} {document : Document}
    (found : read catalog text = .ok document) : (document.tags.map identifier).Nodup := by
  rcases lookUp_of_read found with ⟨value, -, accepted, rfl⟩
  exact nodup_identifier_tags accepted

end Document

end UsbDescriptors
