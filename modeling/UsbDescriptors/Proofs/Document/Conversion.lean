import UsbDescriptors.Proofs.Document.Findings
import UsbDescriptors.Proofs.Json.Decoding
import UsbDescriptors.Proofs.Json.Names

/-!
# Conversion of accepted documents

The checks and the decoders describe the same format twice. Here they are shown to agree: a value
without violations is read, and the document is the one that looking up every member gives.
-/

namespace UsbDescriptors

open Json (Decoder Node Value)
open Lookup (Fits)
open Validation (Clean)

theorem Json.Decoder.natural_ofValue {type : String} {limit number : Nat}
    (small : number ≤ limit) :
    Decoder.natural type limit (.ofValue (.number (.integer (.ofNat number)))) = .ok number := by
  have inRange : (0 : Int) ≤ Int.ofNat number ∧ Int.ofNat number ≤ limit :=
    ⟨Int.natCast_nonneg number, Int.ofNat_le.mpr small⟩
  simp only [Node.ofValue, natural, if_pos inRange]
  rfl

theorem UsbId.decode_ofValue {value : Value} (isId : IsId value) :
    ∃ id, UsbId.decode (.ofValue value) = .ok id ∧ UsbId.lookUp? value = some id := by
  rcases isId with ⟨symbol, rfl⟩ | ⟨number, rfl, small⟩
  · exact ⟨.text symbol, rfl, rfl⟩
  · refine ⟨.number number, ?_, rfl⟩
    change (if number ≤ 65535 then Except.ok (UsbId.number number)
      else Decoder.shapeFault (.noVariant "IdValue")) = _
    rw [if_pos small]

theorem UsbId.optional_ofValue {value : Value} {id : UsbId} (isId : IsId value)
    (read : UsbId.decode (.ofValue value) = .ok id) :
    Decoder.optional UsbId.decode (.ofValue value) = .ok (some id) := by
  rcases isId with ⟨symbol, rfl⟩ | ⟨number, rfl, -⟩
  · simp only [Node.ofValue] at read
    simp only [Node.ofValue, Decoder.optional, read]
    rfl
  · simp only [Node.ofValue] at read
    simp only [Node.ofValue, Decoder.optional, read]
    rfl

theorem Attribute.list_ofValue {items : List Value}
    (named : ∀ item ∈ items, ∃ name, item = .string name ∧ names.contains name = true) :
    Decoder.list (Decoder.variant names) (.ofValue (.array items)) =
      .ok (items.filterMap lookUp?) := by
  refine Decoder.list_ofValue fun item mem => ?_
  rcases named item mem with ⟨name, rfl, known⟩
  rcases Option.isSome_iff_exists.mp known with ⟨flag, found⟩
  refine ⟨flag, ?_, found⟩
  simp only [Node.ofValue, Decoder.variant, Decoder.variantNamed, found]

theorem InterfaceDraft.overlay_nil (draft : InterfaceDraft) : draft.overlay [] = draft := rfl

/-- An interface is read as it stands if the template and the description are texts. -/
theorem Interface.decode_ofValue {content : OrderedMap Value}
    (distinct : (Value.object content).DistinctNames) {template : String}
    (named : content.get? "template" = some (.string template))
    (described : Fits content "description" Value.IsText) :
    Interface.decode (.ofValue (.object content)) = .ok (Interface.lookUp (.object content)) := by
  have read : Decoder.fields ["template", "description"] InterfaceDraft.field
      InterfaceDraft.property [] {} (Node.ofMembers content) =
        .ok (({} : InterfaceDraft).overlay content) := by
    refine Decoder.fields_ofMembers InterfaceDraft.overlay_nil distinct.1
      (fun _ _ => List.not_mem_nil) ?_ {}
    intro name value rest state mem absent
    have present := OrderedMap.get?_eq_some_of_mem distinct.1 mem
    by_cases isTemplate : name = "template"
    · subst isTemplate
      rcases Option.some.inj (named.symm.trans present) with rfl
      refine ⟨{ state with template := some template }, rfl, ?_⟩
      simp [InterfaceDraft.overlay, propertiesOf, absent]
    by_cases isDescription : name = "description"
    · subst isDescription
      rcases described value present with ⟨text, rfl⟩
      refine ⟨{ state with description := some text }, rfl, ?_⟩
      simp [InterfaceDraft.overlay, propertiesOf, absent]
    · have kept := Json.decodeValue_ofValue (Value.membersDistinct_iff.mp distinct.2 _ mem)
      refine ⟨{ state with properties := state.properties.insert name value }, ?_, ?_⟩
      · simp only [List.mem_cons, isTemplate, isDescription, List.not_mem_nil, or_false, if_false,
          InterfaceDraft.property, kept]
        rfl
      · simp [InterfaceDraft.overlay, propertiesOf, isTemplate, isDescription]
  have given : (({} : InterfaceDraft).overlay content).template = some template := by
    simp [InterfaceDraft.overlay, Lookup.text?, named]
  simp only [Node.ofValue, Interface.decode, read, bind, Except.bind, Json.ObjectEnd.error?,
    Decoder.proceed, given, Interface.lookUp, Value.content, Value.members?_object,
    Option.getD_some]
  rfl

/-- The parts of a member are read as they stand if each of them is. -/
def Lookup.PartsRead {α : Type} (decode : Decoder α) (part : Value → α) (value : Value) : Prop :=
  ∃ members, value = .object members ∧ Decoder.map decode (.ofValue value) =
    .ok (members.map fun member => (member.1, part member.2))

theorem Configuration.overlay_nil (draft : Configuration) : draft.overlay [] = draft := rfl

/-- A configuration is read as it stands if every member has the shape of its field. -/
theorem Configuration.decode_ofValue {content : OrderedMap Value}
    (distinct : (OrderedMap.keys content).Nodup)
    (known : ∀ member ∈ content,
      member.1 ∈ ["description", "power", "attributes", "interfaces"])
    (described : Fits content "description" Value.IsText)
    (powered : Fits content "power" (Value.IsNatural 500))
    (flagged : Fits content "attributes" Attribute.AreNames)
    (interfaces : Fits content "interfaces"
      (Lookup.PartsRead Interface.decode Interface.lookUp)) :
    Configuration.decode (.ofValue (.object content)) =
      .ok (Configuration.lookUp (.object content)) := by
  refine Decoder.record_ofValue Configuration.overlay_nil distinct known ?_ rfl
  intro name isKnown value rest state present absent
  simp only [List.mem_cons, List.not_mem_nil, or_false] at isKnown
  rcases isKnown with rfl | rfl | rfl | rfl
  · rcases described value present with ⟨text, rfl⟩
    refine ⟨{ state with description := some text }, rfl, ?_⟩
    simp [overlay, absent]
  · rcases powered value present with ⟨number, rfl, small⟩
    have read : Decoder.word (.ofValue (.number (.integer (.ofNat number)))) = .ok number :=
      Decoder.natural_ofValue (by omega)
    refine ⟨{ state with power := number }, ?_, ?_⟩
    · simp only [field, read]
      rfl
    · simp [overlay, absent]
  · rcases flagged value present with ⟨items, rfl, named⟩
    refine ⟨{ state with attributes := items.filterMap Attribute.lookUp? }, ?_, ?_⟩
    · simp only [field, Attribute.list_ofValue named]
      rfl
    · simp [overlay, absent]
  · rcases interfaces value present with ⟨members, rfl, read⟩
    refine ⟨{ state with
      interfaces := members.map fun member => (member.1, Interface.lookUp member.2) }, ?_, ?_⟩
    · simp only [field, read]
      rfl
    · simp [overlay, absent]

theorem DeviceDraft.overlay_nil (draft : DeviceDraft) : draft.overlay [] = draft := rfl

/-- A device is read as it stands if every member has the shape of its field and none of the
members that it needs is missing. -/
theorem Device.decode_ofValue {content : OrderedMap Value}
    (distinct : (OrderedMap.keys content).Nodup)
    (known : ∀ member ∈ content, member.1 ∈ Device.keys)
    (vendor : ∃ value, content.get? "vendor" = some value ∧ UsbId.IsId value)
    (productId : Fits content "pid" UsbId.IsId)
    (texts : ∀ name ∈ ["class", "subclass", "protocol", "manufacturer", "product", "serial"],
      Fits content name Value.IsText)
    (version : Fits content "version" Value.IsNumber)
    (configurations : ∃ value, content.get? "configurations" = some value ∧
      Lookup.PartsRead Configuration.decode Configuration.lookUp value) :
    Device.decode (.ofValue (.object content)) = .ok (Device.lookUp (.object content)) := by
  rcases vendor with ⟨vendorValue, vendorPresent, vendorIsId⟩
  rcases UsbId.decode_ofValue vendorIsId with ⟨vendorId, vendorRead, vendorFound⟩
  rcases configurations with ⟨partsValue, partsPresent, parts, rfl, partsRead⟩
  have complete : (({} : DeviceDraft).overlay content).finish =
      .ok (Device.lookUp (.object content)) := by
    have hasVendor : (({} : DeviceDraft).overlay content).vendor = some vendorId := by
      simp [DeviceDraft.overlay, vendorPresent, vendorFound]
    have hasParts : (({} : DeviceDraft).overlay content).configurations =
        some (parts.map fun member => (member.1, Configuration.lookUp member.2)) := by
      simp [DeviceDraft.overlay, Lookup.parts?, partsPresent]
    simp only [DeviceDraft.finish, hasVendor, hasParts, Decoder.required, Device.lookUp,
      Value.content, Value.members?_object, Option.getD_some]
    rfl
  refine Decoder.record_ofValue DeviceDraft.overlay_nil distinct known ?_ complete
  intro name isKnown value rest state present absent
  simp only [Device.keys, List.mem_cons, List.not_mem_nil, or_false] at isKnown
  rcases isKnown with rfl | rfl | rfl | rfl | rfl | rfl | rfl | rfl | rfl | rfl
  · rcases Option.some.inj (vendorPresent.symm.trans present) with rfl
    refine ⟨{ state with vendor := some vendorId }, ?_, ?_⟩
    · simp only [DeviceDraft.field, vendorRead]
      rfl
    · simp [DeviceDraft.overlay, absent, vendorFound]
  · rcases UsbId.decode_ofValue (productId value present) with ⟨id, read, found⟩
    have given := UsbId.optional_ofValue (productId value present) read
    refine ⟨{ state with productId := some id }, ?_, ?_⟩
    · simp only [DeviceDraft.field, given]
      rfl
    · simp [DeviceDraft.overlay, absent, found]
  · rcases texts _ (by simp) value present with ⟨text, rfl⟩
    refine ⟨{ state with className := text }, rfl, ?_⟩
    simp [DeviceDraft.overlay, absent]
  · rcases texts _ (by simp) value present with ⟨text, rfl⟩
    refine ⟨{ state with subclass := text }, rfl, ?_⟩
    simp [DeviceDraft.overlay, absent]
  · rcases texts _ (by simp) value present with ⟨text, rfl⟩
    refine ⟨{ state with protocol := text }, rfl, ?_⟩
    simp [DeviceDraft.overlay, absent]
  · rcases version value present with ⟨number, rfl⟩
    refine ⟨{ state with version := number.toBinary64 }, rfl, ?_⟩
    simp [DeviceDraft.overlay, absent]
  · rcases texts _ (by simp) value present with ⟨text, rfl⟩
    refine ⟨{ state with manufacturer := text }, rfl, ?_⟩
    simp [DeviceDraft.overlay, absent]
  · rcases texts _ (by simp) value present with ⟨text, rfl⟩
    refine ⟨{ state with product := text }, rfl, ?_⟩
    simp [DeviceDraft.overlay, absent]
  · rcases texts _ (by simp) value present with ⟨text, rfl⟩
    refine ⟨{ state with serial := text }, rfl, ?_⟩
    simp [DeviceDraft.overlay, absent]
  · rcases Option.some.inj (partsPresent.symm.trans present) with rfl
    refine ⟨{ state with
      configurations := some (parts.map fun member =>
        (member.1, Configuration.lookUp member.2)) }, ?_, ?_⟩
    · simp only [DeviceDraft.field, partsRead]
      rfl
    · simp [DeviceDraft.overlay, absent]

theorem HostSection.overlay_nil (draft : HostSection) : draft.overlay [] = draft := rfl

theorem HostSection.decode_ofValue {content : OrderedMap Value}
    (distinct : (OrderedMap.keys content).Nodup) (known : ∀ member ∈ content, member.1 ∈ ["count"])
    (counted : Fits content "count" (Value.IsNatural 255)) :
    HostSection.decode (.ofValue (.object content)) =
      .ok (HostSection.lookUp (.object content)) := by
  refine Decoder.record_ofValue HostSection.overlay_nil distinct known ?_ rfl
  intro name isKnown value rest state present absent
  rcases List.mem_singleton.mp isKnown with rfl
  rcases counted value present with ⟨number, rfl, small⟩
  have read : Decoder.byte (.ofValue (.number (.integer (.ofNat number)))) = .ok number :=
    Decoder.natural_ofValue small
  refine ⟨{ count := number }, ?_, ?_⟩
  · simp only [read]
    rfl
  · simp [overlay, absent]

theorem Document.overlay_nil (draft : Document) : draft.overlay [] = draft := rfl

theorem Document.decode_ofValue {content : OrderedMap Value}
    (distinct : (OrderedMap.keys content).Nodup)
    (known : ∀ member ∈ content, member.1 ∈ ["$schema", "devices", "host"])
    (schema : Fits content "$schema" Value.IsText)
    (devices : Fits content "devices" (Lookup.PartsRead Device.decode Device.lookUp))
    (hosts : Fits content "host" (Lookup.PartsRead HostSection.decode HostSection.lookUp)) :
    Document.decode (.ofValue (.object content)) = .ok (Document.lookUp (.object content)) := by
  refine Decoder.record_ofValue Document.overlay_nil distinct known ?_ rfl
  intro name isKnown value rest state present absent
  simp only [List.mem_cons, List.not_mem_nil, or_false] at isKnown
  rcases isKnown with rfl | rfl | rfl
  · rcases schema value present with ⟨text, rfl⟩
    refine ⟨{ state with schema := some text }, rfl, ?_⟩
    simp [overlay, absent]
  · rcases devices value present with ⟨parts, rfl, read⟩
    refine ⟨{ state with
      devices := parts.map fun member => (member.1, Device.lookUp member.2) }, ?_, ?_⟩
    · simp only [field, read]
      rfl
    · simp [overlay, absent]
  · rcases hosts value present with ⟨parts, rfl, read⟩
    refine ⟨{ state with
      hosts := parts.map fun member => (member.1, HostSection.lookUp member.2) }, ?_, ?_⟩
    · simp only [field, read]
      rfl
    · simp [overlay, absent]

namespace Validation

variable {catalog : Catalog} {path : Path} {name : String} {value : Value}

theorem partsRead_of_clean {α : Type} {decode : Decoder α} {part : Value → α}
    {check : Path → String → Value → List Finding} {content : OrderedMap Value}
    (convert : ∀ path name value, value.DistinctNames → Clean (check path name value) →
      decode (.ofValue value) = .ok (part value))
    (distinct : (Value.object content).DistinctNames) (clean : Clean (members path content check)) :
    Lookup.PartsRead decode part (.object content) := by
  refine ⟨content, rfl, Decoder.map_ofValue distinct.1 fun member mem => ?_⟩
  exact convert _ _ _ (Value.membersDistinct_iff.mp distinct.2 member mem)
    (all_members.mp clean member mem)

theorem template_of_clean {content : OrderedMap Value}
    (clean : Clean (interface catalog path name (.object content))) :
    ∃ template, content.get? "template" = some (.string template) := by
  simp only [interface, all_append] at clean
  rcases clean with ⟨-, -, shaped⟩
  cases given : OrderedMap.get? content "template" with
  | none => simp [given] at shaped
  | some value =>
      cases value with
      | string template => exact ⟨template, rfl⟩
      | _ => simp [given] at shaped

theorem interface_converts (distinct : value.DistinctNames)
    (clean : Clean (interface catalog path name value)) :
    Interface.decode (.ofValue value) = .ok (Interface.lookUp value) := by
  cases value with
  | object content =>
      rcases template_of_clean clean with ⟨template, given⟩
      simp only [interface, all_append] at clean
      exact Interface.decode_ofValue distinct given (fits_of_clean_descriptorString clean.2.1)
  | _ => simp [interface] at clean

theorem configuration_converts (distinct : value.DistinctNames)
    (clean : Clean (configuration catalog path name value)) :
    Configuration.decode (.ofValue value) = .ok (Configuration.lookUp value) := by
  cases value with
  | object content =>
      simp only [configuration, all_append, and_assoc] at clean
      rcases clean with ⟨-, known, described, powered, flagged, shaped⟩
      refine Configuration.decode_ofValue distinct.1
        (fun _ mem => mem_allowed_of_clean_keys known mem)
        (fits_of_clean_descriptorString described) (fits_of_clean_integer powered)
        (fits_of_clean_attributes flagged) ?_
      intro value present
      have valueDistinct := Value.membersDistinct_iff.mp distinct.2 _
        (OrderedMap.mem_of_get?_eq_some present)
      cases value with
      | object interfaces =>
          simp only [present] at shaped
          exact partsRead_of_clean (fun _ _ _ => interface_converts) valueDistinct shaped
      | _ => simp [present] at shaped
  | _ => simp [configuration] at clean

theorem vendor_of_clean {content : OrderedMap Value}
    (clean : Clean (device catalog path name (.object content))) :
    ∃ value, content.get? "vendor" = some value ∧ UsbId.IsId value := by
  simp only [device, all_append, clean_foundIf, and_assoc] at clean
  rcases clean with ⟨-, -, hasVendor, vendor, -⟩
  have present : (OrderedMap.get? content "vendor").isSome = true := by
    simpa [OrderedMap.contains] using hasVendor
  rcases Option.isSome_iff_exists.mp present with ⟨value, found⟩
  exact ⟨value, found, fits_of_clean_id vendor value found⟩

theorem device_converts (distinct : value.DistinctNames)
    (clean : Clean (device catalog path name value)) :
    Device.decode (.ofValue value) = .ok (Device.lookUp value) := by
  cases value with
  | object content =>
      have vendor := vendor_of_clean clean
      simp only [device, all_append, and_assoc] at clean
      rcases clean with ⟨-, known, -, -, productId, className, subclass, protocol, manufacturer,
        product, serial, version, shaped⟩
      refine Device.decode_ofValue distinct.1 (fun _ mem => mem_allowed_of_clean_keys known mem)
        vendor (fits_of_clean_id productId) ?_ (fits_of_clean_version version) ?_
      · intro name mem
        simp only [List.mem_cons, List.not_mem_nil, or_false] at mem
        rcases mem with rfl | rfl | rfl | rfl | rfl | rfl
        · exact fits_of_clean_string className
        · exact fits_of_clean_string subclass
        · exact fits_of_clean_string protocol
        · exact fits_of_clean_descriptorString manufacturer
        · exact fits_of_clean_descriptorString product
        · exact fits_of_clean_descriptorString serial
      · cases present : OrderedMap.get? content "configurations" with
        | none => simp [present] at shaped
        | some value =>
            have valueDistinct := Value.membersDistinct_iff.mp distinct.2 _
              (OrderedMap.mem_of_get?_eq_some present)
            cases value with
            | object configurations =>
                simp only [present, all_append] at shaped
                exact ⟨_, rfl, partsRead_of_clean (fun _ _ _ => configuration_converts)
                  valueDistinct shaped.2⟩
            | _ => simp [present] at shaped
  | _ => simp [device] at clean

theorem host_converts (distinct : value.DistinctNames) (clean : Clean (host path name value)) :
    HostSection.decode (.ofValue value) = .ok (HostSection.lookUp value) := by
  cases value with
  | object content =>
      simp only [host, all_append] at clean
      rcases clean with ⟨-, known, counted⟩
      exact HostSection.decode_ofValue distinct.1
        (fun _ mem => mem_allowed_of_clean_keys known mem) (fits_of_clean_integer counted)
  | _ => simp [host] at clean

theorem fits_of_clean_parts {α : Type} {decode : Decoder α} {part : Value → α}
    {check : Path → String → Value → List Finding} {content : OrderedMap Value} {key : String}
    (convert : ∀ path name value, value.DistinctNames → Clean (check path name value) →
      decode (.ofValue value) = .ok (part value))
    (distinct : (Value.object content).DistinctNames) (clean : Clean (parts content key check)) :
    Fits content key (Lookup.PartsRead decode part) := by
  intro value present
  have valueDistinct := Value.membersDistinct_iff.mp distinct.2 _
    (OrderedMap.mem_of_get?_eq_some present)
  cases value with
  | object members =>
      simp only [parts, present] at clean
      exact partsRead_of_clean convert valueDistinct clean
  | _ => simp [parts, present] at clean

/-- A value in which the walk notes no violation is read, and nothing of it is lost. -/
theorem document_converts (distinct : value.DistinctNames)
    (clean : Clean (findings catalog value)) :
    Document.decode (.ofValue value) = .ok (Document.lookUp value) := by
  cases value with
  | object content =>
      simp only [findings, all_append, and_assoc] at clean
      rcases clean with ⟨known, schema, devices, hosts⟩
      exact Document.decode_ofValue distinct.1
        (fun _ mem => mem_allowed_of_clean_keys known mem) (fits_of_clean_string schema)
        (fits_of_clean_parts (fun _ _ _ => device_converts) distinct devices)
        (fits_of_clean_parts (fun _ _ _ => host_converts) distinct hosts)
  | _ => simp [findings] at clean

end Validation

end UsbDescriptors
