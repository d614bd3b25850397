import UsbDescriptors.Catalog.Builtin
import UsbDescriptors.Catalog.Reader
import UsbDescriptors.Proofs.Document.Kinds
import UsbDescriptors.Proofs.Globals.Runs
import UsbDescriptors.Proofs.Globals.Texts
import UsbDescriptors.Proofs.Runs.Registration

/-!
# Agreement on global defines

All interfaces of a run share one set of global defines, whatever configuration and device they
belong to. If the run succeeds, every define has the value that each interface wants for it, and the
text has one define for every name. If it fails for a disagreement, two recordings of the document
disagree, and the fault names the first of them and the first one behind it with another value. In
which order values are recorded has no influence on either outcome.

A string is written into the text as it is, so a string of several lines can bring in defines of its
own. The built-in templates share no strings.
-/

namespace UsbDescriptors

open Json (Value)

namespace ResolvedInterface

variable {catalog : Catalog} {tag : String} {interface : Interface} {resolved : ResolvedInterface}

theorem exists_resolved_value (run : resolve catalog tag interface = .ok resolved)
    {property : String × Property} (mem : property ∈ resolved.template.properties) :
    ∃ value, resolved.properties.get? property.1 = some value := by
  rcases resolve_ok run with ⟨-, -, -, -, values⟩
  rcases Related.exists_right (propertyValues_ok values) mem with
    ⟨⟨name, stored⟩, valueMem, same, -⟩
  have present : property.1 ∈ resolved.properties.keys :=
    List.mem_map.mpr ⟨_, valueMem, same.symm⟩
  exact Option.isSome_iff_exists.mp (OrderedMap.contains_iff_mem_keys.mpr present)

/-- A resolved interface records the values of its global properties. -/
theorem mem_recordings_iff (run : resolve catalog tag interface = .ok resolved)
    {recording : Recording} : recording ∈ resolved.recordings ↔
      ∃ property ∈ resolved.template.properties, property.2.isGlobal = true ∧
        ∃ value, resolved.properties.get? property.1 = some value ∧
          recording = ⟨GlobalDefines.symbol resolved.template.className property.1,
            value.plainText, tag⟩ := by
  rcases resolve_ok run with ⟨own, -⟩
  rw [recordings, own, List.mem_map]
  constructor
  · rintro ⟨define, defineMem, rfl⟩
    rcases List.mem_filterMap.mp defineMem with ⟨property, mem, made⟩
    rcases exists_resolved_value run mem with ⟨value, found⟩
    split at made
    next shared =>
      cases made
      exact ⟨property, mem, shared, value, found, by simp [found]⟩
    next => cases made
  · rintro ⟨property, mem, shared, value, found, rfl⟩
    refine ⟨(GlobalDefines.symbol resolved.template.className property.1, value.plainText), ?_, rfl⟩
    exact List.mem_filterMap.mpr ⟨property, mem, by simp [shared, found]⟩

end ResolvedInterface

/-- Every string that a document shares as the value of a define stands in one line. -/
def Document.SharesSingleLines (document : Document) (catalog : Catalog) : Prop :=
  ∀ entry ∈ document.allInterfaces, ∀ resolved,
    ResolvedInterface.resolve catalog entry.1 entry.2 = .ok resolved →
      ∀ property ∈ resolved.template.properties, property.2.isGlobal = true →
        ∀ text, resolved.properties.get? property.1 = some (.string text) → SingleLine text

/-- The defines of a run have the values that all interfaces want for the global properties of their
templates. There is one define for every name, in the order in which the names are first recorded,
and these are all defines of the text if the strings among the values are single lines. -/
structure Generated.SharesGlobals (generated : Generated) (catalog : Catalog)
    (document : Document) : Prop where
  values : ∀ entry ∈ document.allInterfaces, ∃ resolved,
    ResolvedInterface.resolve catalog entry.1 entry.2 = .ok resolved ∧
      ∀ property ∈ resolved.template.properties, property.2.isGlobal = true →
        ∃ value, resolved.properties.get? property.1 = some value ∧
          generated.globals.value?
            (GlobalDefines.symbol resolved.template.className property.1) = some value.plainText
  text : ∃ defines, ListsDefines defines (textLines generated.globals.text) ∧
    defines.map Prod.fst = ((document.recordings catalog).map Recording.name).eraseDups ∧
    (defines.map Prod.fst).Nodup ∧
    ∀ define ∈ defines, generated.globals.value? define.1 = some define.2
  once : document.SharesSingleLines catalog →
    definedNames (textLines generated.globals.text) =
      ((document.recordings catalog).map Recording.name).eraseDups

namespace Document

variable {catalog : Catalog} {document : Document}

theorem mem_recordings_iff {recording : Recording} : recording ∈ document.recordings catalog ↔
    ∃ entry ∈ document.allInterfaces, ∃ resolved,
      ResolvedInterface.resolve catalog entry.1 entry.2 = .ok resolved ∧
        recording ∈ resolved.recordings := by
  rw [recordings, List.mem_flatMap]
  refine exists_congr fun entry => and_congr_right fun _ => ?_
  rw [Interface.recordings]
  cases ResolvedInterface.resolve catalog entry.1 entry.2 with
  | error fault => simp
  | ok resolved => simp

theorem isName_of_recording {recording : Recording}
    (mem : recording ∈ document.recordings catalog) : IsName recording.name := by
  rcases mem_recordings_iff.mp mem with ⟨entry, -, resolved, run, own⟩
  rcases (ResolvedInterface.mem_recordings_iff run).mp own with ⟨property, -, -, value, -, rfl⟩
  have front : IsName "CFG_TUD_" := by decide
  refine IsName.append ?_ (identifierTail_identifier _)
  exact (front.append (identifierTail_identifier _)).append (by decide)

/-- The values of a document are single lines exactly if the strings among them are. -/
theorem singleLine_recordings_iff :
    (∀ recording ∈ document.recordings catalog, SingleLine recording.value) ↔
      document.SharesSingleLines catalog := by
  constructor
  · intro single entry mem resolved run property propertyMem shared text found
    have own := (ResolvedInterface.mem_recordings_iff run).mpr
      ⟨property, propertyMem, shared, _, found, rfl⟩
    exact single _ (mem_recordings_iff.mpr ⟨entry, mem, resolved, run, own⟩)
  · intro single recording mem
    rcases mem_recordings_iff.mp mem with ⟨entry, entryMem, resolved, run, own⟩
    rcases (ResolvedInterface.mem_recordings_iff run).mp own with
      ⟨property, propertyMem, shared, value, found, rfl⟩
    refine Value.singleLine_plainText_iff.mpr fun text isText => ?_
    exact single entry entryMem resolved run property propertyMem shared text (isText ▸ found)

/-- The built-in templates share numbers and truth values only. -/
theorem sharesSingleLines_of_read {text : String}
    (found : read Catalog.builtin text = .ok document) :
    document.SharesSingleLines Catalog.builtin := by
  have scalars : ∀ entry ∈ Catalog.builtin.templates, ∀ property ∈ entry.2.properties,
      property.2.isGlobal = true → property.2.kind = .scalar := by
    decide +kernel
  intro entry mem resolved run property propertyMem shared value given
  have kinds := ResolvedInterface.hasKinds_of_resolve Catalog.sound_builtin
    (fitsTemplate_of_read found entry mem) run
  rcases ResolvedInterface.resolve_ok run with ⟨-, -, -, known, -⟩
  have template := OrderedMap.mem_of_get?_eq_some known
  have declared := OrderedMap.get?_eq_some_of_mem
    (Catalog.sound_builtin _ template).distinct propertyMem
  rcases kinds.exists_get? declared with ⟨own, stored, accepted⟩
  rw [given] at stored
  cases stored
  rw [scalars _ template _ propertyMem shared] at accepted
  cases accepted

theorem sharesGlobals_of_generate {generated : Generated}
    (run : document.generate catalog = .ok generated) :
    generated.SharesGlobals catalog document := by
  have recorded := GlobalDefines.recorded_of_recordAll (recordAll_of_generate run)
  have names : ∀ recording ∈ document.recordings catalog, IsName recording.name :=
    fun recording => isName_of_recording
  constructor
  case values =>
    intro entry mem
    rcases resolves_of_generate run mem with ⟨resolved, resolves⟩
    refine ⟨resolved, resolves, ?_⟩
    intro property propertyMem shared
    rcases ResolvedInterface.exists_resolved_value resolves propertyMem with ⟨value, found⟩
    have own := (ResolvedInterface.mem_recordings_iff resolves).mpr
      ⟨property, propertyMem, shared, value, found, rfl⟩
    exact ⟨value, found,
      recorded.values _ (mem_recordings_iff.mpr ⟨entry, mem, resolved, resolves, own⟩)⟩
  case text =>
    refine ⟨generated.globals.pairs, recorded.listsDefines names, recorded.map_fst_pairs, ?_, ?_⟩
    · rw [GlobalDefines.map_fst_pairs]
      exact recorded.distinct
    · intro define mem
      rcases recorded.mem_pairs_iff.mp mem with ⟨recording, recordingMem, rfl⟩
      exact recorded.values recording recordingMem
  case once =>
    exact fun shares => recorded.definedNames_text names (singleLine_recordings_iff.mpr shares)

/-- The global defines of a run are those on which all interfaces of its document agree, and it
fails for a disagreement only if there is one. A recording that fails changes nothing, and the order
of recordings decides neither whether they succeed nor which names and values they leave. The
strings among the values are single lines exactly if all values are, and in a document that is read
against the built-in catalog there are no strings among them. -/
theorem globals_of_generate (catalog : Catalog) (document : Document) :
    (∀ generated, document.generate catalog = .ok generated →
      generated.SharesGlobals catalog document) ∧
    (∀ name firstTag firstValue secondTag secondValue,
      document.generate catalog =
        .error (.globalConflict name firstTag firstValue secondTag secondValue) →
      Recording.Conflict (document.recordings catalog) ⟨name, firstValue, firstTag⟩
        ⟨name, secondValue, secondTag⟩) ∧
    (∀ name value tag before fault after,
      Evaluation.recordGlobal name value tag before = .error fault after → after = before) ∧
    (∀ recordings others : List Recording, recordings.Perm others →
      (GlobalDefines.empty.recordAll recordings).isOk =
        (GlobalDefines.empty.recordAll others).isOk ∧
      ∀ first second, GlobalDefines.empty.recordAll recordings = .ok first →
        GlobalDefines.empty.recordAll others = .ok second → first.pairs.Perm second.pairs) ∧
    (document.SharesSingleLines catalog ↔
      ∀ recording ∈ document.recordings catalog, SingleLine recording.value) ∧
    ∀ text, read Catalog.builtin text = .ok document →
      document.SharesSingleLines Catalog.builtin := by
  refine ⟨fun generated => sharesGlobals_of_generate, ?_, ?_, ?_,
    singleLine_recordings_iff.symm, fun text => sharesSingleLines_of_read⟩
  · intro name firstTag firstValue secondTag secondValue failed
    exact GlobalDefines.conflict_of_recordAll (recordAll_of_conflict failed trivial)
  · intro name value tag before fault after failed
    exact Evaluation.registers_of_recordGlobal failed
  · intro recordings others order
    exact GlobalDefines.recordAll_perm order

/-- Two devices with a pointer each, of which the second one asks for a buffer of some size. -/
def pointers (size : Json.Value) : Document :=
  let pointer (properties : OrderedMap Json.Value) : Interface := {
    template := "hid", properties := ("reports", .array [.string "mouse"]) :: properties }
  let device (tag : String) (interfaces : OrderedMap Interface) : Device := {
    vendor := .number 1, configurations := [(tag, { interfaces })] }
  { devices := [
      ("dev0", device "a" [("hid0", pointer [])]),
      ("dev1", device "b" [("hid1", pointer [("ep_bufsize", size)])])] }

theorem globals_pointers :
    (∃ generated defines, (pointers (.string "16")).generate Catalog.builtin = .ok generated ∧
      generated.SharesGlobals Catalog.builtin (pointers (.string "16")) ∧
      definedNames (textLines generated.globals.text) = ["CFG_TUD_HID_EP_BUFSIZE"] ∧
      GlobalDefines.empty.recordAll
        ((pointers (.string "16")).recordings Catalog.builtin).reverse = .ok defines ∧
      generated.globals.pairs.Perm defines.pairs) ∧
    (pointers (.string "64")).generate Catalog.builtin =
      .error (.globalConflict "CFG_TUD_HID_EP_BUFSIZE" "hid0" "16" "hid1" "64") ∧
    Recording.Conflict ((pointers (.string "64")).recordings Catalog.builtin)
      ⟨"CFG_TUD_HID_EP_BUFSIZE", "16", "hid0"⟩ ⟨"CFG_TUD_HID_EP_BUFSIZE", "64", "hid1"⟩ := by
  have success : ((pointers (.string "16")).generate Catalog.builtin).isOk = true := by
    decide +kernel
  have failure : (pointers (.string "64")).generate Catalog.builtin =
      .error (.globalConflict "CFG_TUD_HID_EP_BUFSIZE" "hid0" "16" "hid1" "64") := by
    decide +kernel
  have single : ∀ recording ∈ (pointers (.string "16")).recordings Catalog.builtin,
      SingleLine recording.value := by
    decide +kernel
  have names : (((pointers (.string "16")).recordings Catalog.builtin).map
      Recording.name).eraseDups = ["CFG_TUD_HID_EP_BUFSIZE"] := by
    decide +kernel
  have agreeing := globals_of_generate Catalog.builtin (pointers (.string "16"))
  have conflicting := globals_of_generate Catalog.builtin (pointers (.string "64"))
  rcases outcome_isOk_iff.mp success with ⟨generated, run⟩
  have shares := agreeing.1 generated run
  have once := shares.once (agreeing.2.2.2.2.1.mpr single)
  have recorded := recordAll_of_generate run
  rcases agreeing.2.2.2.1 _ _ (List.reverse_perm _).symm with ⟨outcome, same⟩
  rw [recorded] at outcome
  rcases outcome_isOk_iff.mp outcome.symm with ⟨defines, reversed⟩
  exact ⟨⟨generated, defines, run, shares, once.trans names, reversed,
    same _ _ recorded reversed⟩, failure, conflicting.2.1 _ _ _ _ _ failure⟩

/-- A catalog of lamps, which share a mode that is a string. -/
def modesValue : Value :=
  .object [("templates", .object [("lamp", .object [
    ("class", .string "LAMP"), ("descriptor", .string "LAMP"), ("length", .string "9"),
    ("properties", .object [("mode", .object [
      ("type", .string "string"), ("global", .boolean true)])]),
    ("fields", .array [])])])]

/-- A lamp with a mode of two lines. -/
def lampModeValue : Value :=
  let lamp : Value := .object [
    ("template", .string "lamp"), ("mode", .string "1\n#define CFG_TUD_LAMP_MODE 2")]
  let configurations : Value :=
    .object [("config1", .object [("interfaces", .object [("lamp0", lamp)])])]
  .object [("devices", .object [("dev0", .object [
    ("vendor", .number (.integer 1)), ("configurations", configurations)])])]

/-- The only define of the lamp stands in the text twice, with two values. -/
theorem globals_lampModeValue : ∃ catalog document generated,
    Catalog.read modesValue.compact = .ok catalog ∧ lampModeValue.DistinctNames ∧
      ofValue catalog lampModeValue = .ok document ∧
      document.generate catalog = .ok generated ∧
      (document.recordings catalog).map Recording.name = ["CFG_TUD_LAMP_MODE"] ∧
      textLines generated.globals.text =
        ["#define CFG_TUD_LAMP_MODE 1", "#define CFG_TUD_LAMP_MODE 2", ""] ∧
      (definedNames (textLines generated.globals.text)).count "CFG_TUD_LAMP_MODE" = 2 := by
  have success : (Catalog.read modesValue.compact).toOption.any (fun catalog =>
      (ofValue catalog lampModeValue).toOption.any fun document =>
        (document.generate catalog).toOption.any fun generated =>
          (document.recordings catalog).map Recording.name = ["CFG_TUD_LAMP_MODE"] &&
            textLines generated.globals.text =
              ["#define CFG_TUD_LAMP_MODE 1", "#define CFG_TUD_LAMP_MODE 2", ""]) = true := by
    decide +kernel
  simp only [any_toOption_iff, Bool.and_eq_true, decide_eq_true_eq] at success
  rcases success with ⟨catalog, read, document, found, generated, run, recorded, lines⟩
  refine ⟨catalog, document, generated, read, ?_, found, run, recorded, lines, ?_⟩
  · simp [lampModeValue, Value.DistinctNames, Value.membersDistinct]
  · rw [lines]
    decide

end Document

end UsbDescriptors
