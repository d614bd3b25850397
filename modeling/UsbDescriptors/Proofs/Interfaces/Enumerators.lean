import UsbDescriptors.Proofs.Document.Parts
import UsbDescriptors.Proofs.Document.Tags
import UsbDescriptors.Proofs.Interfaces.NumberNames
import UsbDescriptors.Proofs.Runs.Blocks
import UsbDescriptors.Proofs.Runs.Evaluations
import UsbDescriptors.Sections
import Mathlib.Algebra.GroupWithZero.Nat
import Mathlib.Data.List.Flatten
import Mathlib.Data.List.Perm.Basic

/-!
# Enumerators of interface numbers

The header numbers the interfaces of every configuration in an enumeration that ends with the
number of interfaces. All enumerators live in one scope. That the tags of a document are distinct
is not enough for them to be distinct: the tag of one interface can look like a later number of
another, and the name of an interface number like that of the total of a configuration. There are
no other clashes, and without them the enumeration counts what it should.
-/

namespace UsbDescriptors

open Json (Value)

/-- The name of the total of a configuration behind the common prefix. -/
def totalName (tag : String) : String :=
  "TOTAL_" ++ identifier tag

namespace ConfigurationBlock

/-- The enumerators of the interface numbers and of their total. -/
def enumerators (block : ConfigurationBlock) : List String :=
  block.interfaceNumbers ++ [block.interfaceTotalSymbol]

theorem interfaceEnumLines_eq (block : ConfigurationBlock) :
    block.interfaceEnumLines = ["enum \x7b"] ++
      block.enumerators.map (fun enumerator => "\t" ++ enumerator ++ ",") ++ ["\x7d;"] := by
  simp [interfaceEnumLines, enumerators]

/-- The value of an enumerator: the enumeration gives none, so they are counted from zero. -/
def enumeratorValue? (block : ConfigurationBlock) (symbol : String) : Option Nat :=
  block.enumerators.idxOf? symbol

/-- The enumeration gives every interface the number of interface numbers in front of it, and the
total the number of all. -/
structure Numbered (block : ConfigurationBlock) : Prop where
  interface : ∀ before interface after, block.interfaces = before ++ interface :: after →
    block.enumeratorValue? (interfaceSymbol interface.tag) =
      some (before.map fun earlier => earlier.interfaceNumbers.length).sum
  total : block.enumeratorValue? block.interfaceTotalSymbol = some block.interfaceCount

end ConfigurationBlock

/-- The enumerators of all configurations of all devices. -/
def Generated.enumerators (generated : Generated) : List String :=
  generated.configurations.flatMap ConfigurationBlock.enumerators

namespace Document

/-- No tag of an interface looks like a later number of another interface, and no name of an
interface number looks like that of the total of a configuration. -/
structure NumbersApart (document : Document) (catalog : Catalog) : Prop where
  interfaces : InterfacesApart catalog document.allInterfaces
  totals : ∀ interface ∈ document.allInterfaces, ∀ configuration ∈ document.allConfigurations,
    ∀ index < interface.2.numberCount catalog,
      numberName interface.1 index ≠ totalName configuration.1

end Document

theorem ResolvedInterface.interfaceNumbers_eq {catalog : Catalog} {entry : String × Interface}
    {plan : InterfacePlan} (planned : plan.Planned catalog entry) :
    plan.resolved.interfaceNumbers =
      (entry.2.numberNames catalog entry.1).map fun name => "ITF_NUM_" ++ name := by
  rcases resolve_ok planned.resolved with ⟨tag, -, -, found, -⟩
  have count : entry.2.numberCount catalog = max plan.resolved.template.interfaces 1 := by
    rw [Interface.numberCount, found]
    rfl
  rw [interfaceNumbers, Interface.numberNames, count, tag, List.map_map]
  refine List.map_congr_left fun index _ => ?_
  by_cases first : index = 0
  · simp [numberName, interfaceSymbol, first]
  · simp [numberName, interfaceSymbol, first, String.append_assoc]

def Configuration.enumeratorNames (configuration : Configuration) (catalog : Catalog)
    (tag : String) : List String :=
  (configuration.interfaces.flatMap fun entry => entry.2.numberNames catalog entry.1) ++
    [totalName tag]

theorem ConfigurationBlock.MadeFrom.enumerators_eq {catalog : Catalog} {device : String}
    {entry : String × Configuration} {number : Nat} {block : ConfigurationBlock}
    (origin : block.MadeFrom catalog device (entry, number)) :
    block.enumerators =
      (entry.2.enumeratorNames catalog entry.1).map fun name => "ITF_NUM_" ++ name := by
  have numbers : (entry.2.interfaces.flatMap fun entry =>
      (entry.2.numberNames catalog entry.1).map fun name => "ITF_NUM_" ++ name) =
        block.interfaces.flatMap EvaluatedInterface.interfaceNumbers := by
    refine Related.flatMap_eq ?_ origin.interfaces
    rintro entry interface ⟨plan, planned, before, after, run⟩
    rcases ResolvedInterface.evaluate_ok run with ⟨_, _, _, _, -, -, -, -, rfl⟩
    exact (ResolvedInterface.interfaceNumbers_eq planned).symm
  have total : "ITF_NUM_" ++ totalName entry.1 = "ITF_NUM_TOTAL_" ++ identifier block.tag := by
    have joined : "ITF_NUM_" ++ "TOTAL_" = "ITF_NUM_TOTAL_" := by decide
    rw [origin.tag, totalName, ← String.append_assoc, joined]
  unfold enumerators interfaceNumbers interfaceTotalSymbol Configuration.enumeratorNames
  rw [List.map_append, List.map_flatMap, numbers, List.map_singleton, total]

namespace Document

variable {document : Document} {catalog : Catalog}

def enumeratorNames (document : Document) (catalog : Catalog) : List String :=
  document.allConfigurations.flatMap fun entry => entry.2.enumeratorNames catalog entry.1

theorem enumerators_eq {generated : Generated}
    (run : document.generate catalog = .ok generated) :
    generated.enumerators =
      (document.enumeratorNames catalog).map fun name => "ITF_NUM_" ++ name := by
  rw [enumeratorNames, allConfigurations, List.flatMap_assoc, List.map_flatMap,
    Generated.enumerators, Generated.configurations, List.flatMap_assoc]
  refine (Related.flatMap_eq ?_ (generate_ok run)).symm
  rintro entry device made
  rw [List.map_flatMap]
  have numbered : (entry.2.configurations.zipIdx 1).flatMap (fun numbered =>
      (numbered.1.2.enumeratorNames catalog numbered.1.1).map fun name => "ITF_NUM_" ++ name) =
        device.configurations.flatMap ConfigurationBlock.enumerators := by
    refine Related.flatMap_eq ?_ made.configurations
    rintro ⟨configuration, number⟩ block origin
    exact origin.enumerators_eq.symm
  rw [← numbered]
  conv_lhs => rw [← List.zipIdx_map_fst 1 entry.2.configurations, List.flatMap_map]

/-- The enumerators of a document with distinct tags are distinct if and only if no names look
alike. -/
theorem nodup_enumeratorNames_iff (distinct : (document.tags.map identifier).Nodup) :
    (document.enumeratorNames catalog).Nodup ↔ document.NumbersApart catalog := by
  have interfaces : (document.allInterfaces.map fun entry => identifier entry.1).Nodup := by
    have parts := (interface_tags_sublist.map identifier).nodup distinct
    rwa [List.map_map] at parts
  have totals : (document.allConfigurations.map fun entry => totalName entry.1).Nodup := by
    have parts := (configuration_tags_sublist.map identifier).nodup distinct
    rw [List.map_map] at parts
    have named : (document.allConfigurations.map fun entry => totalName entry.1) =
        (document.allConfigurations.map (identifier ∘ Prod.fst)).map fun id => "TOTAL_" ++ id := by
      rw [List.map_map]
      rfl
    rw [named]
    exact List.Nodup.map (fun _ _ same => (String.append_right_inj _).mp same) parts
  -- Up to the order, all names of numbers come first and all names of totals behind them.
  have order : ((document.allInterfaces.flatMap fun entry =>
        entry.2.numberNames catalog entry.1) ++
      document.allConfigurations.map fun entry => totalName entry.1).Perm
        (document.enumeratorNames catalog) := by
    rw [allInterfaces, List.flatMap_assoc, ← List.flatMap_singleton' (List.map _ _),
      List.flatMap_map]
    exact List.flatMap_append_perm _ _ _
  rw [← order.nodup_iff, List.nodup_append, nodup_numberNames_iff interfaces]
  constructor
  · rintro ⟨apart, -, different⟩
    refine ⟨apart, ?_⟩
    intro interface interfaceMem configuration configurationMem index bound
    refine different _ (List.mem_flatMap.mpr ⟨interface, interfaceMem, ?_⟩) _
      (List.mem_map.mpr ⟨configuration, configurationMem, rfl⟩)
    exact Interface.mem_numberNames_iff.mpr ⟨index, bound, rfl⟩
  · rintro ⟨apart, different⟩
    refine ⟨apart, totals, ?_⟩
    intro name nameMem total totalMem
    rcases List.mem_flatMap.mp nameMem with ⟨interface, interfaceMem, named⟩
    rcases List.mem_map.mp totalMem with ⟨configuration, configurationMem, rfl⟩
    rcases Interface.mem_numberNames_iff.mp named with ⟨index, bound, rfl⟩
    exact different interface interfaceMem configuration configurationMem index bound

end Document

/-- An item is found at the first place where it stands. -/
theorem idxOf?_of_not_mem {before after : List String} {name : String} (absent : name ∉ before) :
    (before ++ name :: after).idxOf? name = some before.length := by
  induction before with
  | nil => simp [List.idxOf?_cons]
  | cons first rest ih =>
      rw [List.mem_cons, not_or] at absent
      have different : ¬ first = name := fun equal => absent.1 equal.symm
      rw [List.cons_append, List.idxOf?_cons, ih absent.2]
      simp [different]

namespace ConfigurationBlock

/-- Distinct enumerators count the interface numbers if every interface starts with its own
symbol. -/
theorem numbered_of_nodup {block : ConfigurationBlock} (distinct : block.enumerators.Nodup)
    (starts : ∀ interface ∈ block.interfaces,
      ∃ rest, interface.interfaceNumbers = interfaceSymbol interface.tag :: rest) :
    block.Numbered := by
  constructor
  · intro before interface after split
    rcases starts interface (split ▸ List.mem_append_right _ List.mem_cons_self) with
      ⟨rest, numbers⟩
    have order : block.enumerators = before.flatMap EvaluatedInterface.interfaceNumbers ++
        interfaceSymbol interface.tag :: (rest ++
          after.flatMap EvaluatedInterface.interfaceNumbers ++ [block.interfaceTotalSymbol]) := by
      simp [enumerators, interfaceNumbers, split, numbers]
    rw [order] at distinct
    have absent := (List.nodup_middle.mp distinct).notMem
    rw [enumeratorValue?, order, idxOf?_of_not_mem fun mem => absent (List.mem_append_left _ mem),
      List.length_flatMap]
  · have absent := (List.nodup_middle.mp distinct).notMem
    rw [List.append_nil] at absent
    exact idxOf?_of_not_mem absent

end ConfigurationBlock

theorem ResolvedInterface.exists_interfaceNumbers (interface : ResolvedInterface) :
    ∃ rest, interface.interfaceNumbers = interfaceSymbol interface.tag :: rest := by
  have positive : 0 < max interface.template.interfaces 1 :=
    Nat.lt_of_lt_of_le Nat.zero_lt_one (Nat.le_max_right _ _)
  rcases Nat.exists_eq_succ_of_ne_zero (Nat.ne_of_gt positive) with ⟨count, equal⟩
  rw [interfaceNumbers, equal, List.range_succ_eq_map]
  exact ⟨_, rfl⟩

theorem ConfigurationBlock.MadeFrom.starts {catalog : Catalog} {device : String}
    {entry : String × Configuration} {number : Nat} {block : ConfigurationBlock}
    (origin : block.MadeFrom catalog device (entry, number)) :
    ∀ interface ∈ block.interfaces,
      ∃ rest, interface.interfaceNumbers = interfaceSymbol interface.tag :: rest := by
  intro interface mem
  rcases Related.exists_left origin.interfaces mem with ⟨_, -, plan, -, before, after, run⟩
  rcases ResolvedInterface.evaluate_ok run with ⟨_, _, _, _, -, -, -, -, rfl⟩
  exact plan.resolved.exists_interfaceNumbers

namespace Document

/-- The enumerators of a run on a document that is read are distinct if and only if no tag of an
interface looks like a later number of another interface and no name of an interface number like
that of a total. Then every enumeration gives an interface the number of interface numbers in front
of it, and the total the number of all. -/
theorem enumerators_of_read {catalog : Catalog} {text : String} {document : Document}
    {generated : Generated} (found : read catalog text = .ok document)
    (run : document.generate catalog = .ok generated) :
    (generated.enumerators.Nodup ↔ document.NumbersApart catalog) ∧
      (document.NumbersApart catalog → ∀ device ∈ generated.devices,
        ∀ block ∈ device.configurations, block.Numbered) := by
  have condition : generated.enumerators.Nodup ↔ document.NumbersApart catalog := by
    rw [enumerators_eq run,
      List.nodup_map_iff fun _ _ same => (String.append_right_inj _).mp same]
    exact nodup_enumeratorNames_iff (nodup_identifier_tags_of_read found)
  refine ⟨condition, ?_⟩
  intro apart device deviceMem block blockMem
  rcases exists_configuration_of_generate run deviceMem blockMem with ⟨_, -, _, -, _, origin⟩
  have distinct : block.enumerators.Nodup := by
    have present : block ∈ generated.configurations :=
      List.mem_flatMap.mpr ⟨device, deviceMem, blockMem⟩
    exact (List.nodup_flatMap.mp (condition.mpr apart)).1 block present
  exact ConfigurationBlock.numbered_of_nodup distinct origin.starts

/-- Whether the enumerators of a run on a text are distinct, if there is such a run. -/
def enumeratorsDistinct? (text : String) : Option Bool :=
  match read Catalog.builtin text with
  | .error _ => none
  | .ok document =>
      match document.generate Catalog.builtin with
      | .error _ => none
      | .ok generated => some (decide generated.enumerators.Nodup)

theorem enumerators_serialValue :
    ∃ document generated, read Catalog.builtin serialValue.compact = .ok document ∧
      document.generate Catalog.builtin = .ok generated ∧
      generated.enumerators.Nodup ∧ document.NumbersApart Catalog.builtin ∧
      ∀ device ∈ generated.devices, ∀ block ∈ device.configurations, block.Numbered := by
  have evaluated : enumeratorsDistinct? serialValue.compact = some true := by decide +kernel
  unfold enumeratorsDistinct? at evaluated
  split at evaluated
  next => cases evaluated
  next document found =>
    split at evaluated
    next => cases evaluated
    next generated run =>
      have distinct : generated.enumerators.Nodup := by simpa using evaluated
      have result := enumerators_of_read found run
      have apart := result.1.mp distinct
      exact ⟨document, generated, found, run, distinct, apart, result.2 apart⟩

/-- A serial line whose second interface number is named like a storage next to it. -/
def lookalikeValue : Value :=
  let interfaces : Value := .object [
    ("a", .object [("template", .string "cdc")]), ("a_1", .object [("template", .string "msc")])]
  let configurations : Value := .object [("config1", .object [("interfaces", interfaces)])]
  .object [("devices", .object [("dev0", .object [
    ("vendor", .number (.integer 1)), ("configurations", configurations)])])]

/-- The document is read and the run succeeds, but the enumerators are not distinct. -/
example : enumeratorsDistinct? lookalikeValue.compact = some false := by decide +kernel

end Document

end UsbDescriptors
