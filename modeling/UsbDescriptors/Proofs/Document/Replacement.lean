import UsbDescriptors.Proofs.Document.Visits

/-!
# Replacing a member

Putting another value in place of a device, a configuration, an interface or a host section changes
what is found in this member and nothing else: the findings in front of it and those behind it stay
as they are. This is shown for the step from a member to one of its parts, and two steps after each
other are one step.
-/

namespace UsbDescriptors

open Json (Value)
open Validation (All Members hostsChecks isClash recorded rootChecks)

namespace Json.Value

/-- The value at a path. -/
def at? : Value → Path → Option Value
  | value, [] => some value
  | value, name :: rest => (value.content.get? name).bind fun inner => inner.at? rest

/-- Puts another value at a path. Nothing is changed if there is no value at the path. -/
def replaceAt : Value → Path → Value → Value
  | _, [], new => new
  | .object content, name :: rest, new =>
      match OrderedMap.get? content name with
      | some inner => .object (OrderedMap.insert content name (inner.replaceAt rest new))
      | none => .object content
  | value, _ :: _, _ => value

variable {value inner new : Value} {path rest : Path} {name tag : String}

theorem at?_append (found : value.at? path = some inner) :
    value.at? (path ++ rest) = inner.at? rest := by
  induction path generalizing value with
  | nil =>
      cases found
      rfl
  | cons name more ih =>
      rcases Option.bind_eq_some_iff.mp found with ⟨next, present, later⟩
      simp only [List.cons_append, at?, present, Option.bind_some]
      exact ih later

theorem replaceAt_append (found : value.at? path = some inner) :
    value.replaceAt (path ++ rest) new = value.replaceAt path (inner.replaceAt rest new) := by
  induction path generalizing value with
  | nil =>
      cases found
      rfl
  | cons name more ih =>
      rcases Option.bind_eq_some_iff.mp found with ⟨next, present, later⟩
      cases value with
      | object content =>
          have stored : OrderedMap.get? content name = some next := present
          simp only [List.cons_append, replaceAt, stored, ih later]
      | _ => cases present

/-- Putting the value at a path in its own place changes nothing. -/
theorem replaceAt_self (found : value.at? path = some inner) :
    value.replaceAt path inner = value := by
  induction path generalizing value with
  | nil =>
      cases found
      rfl
  | cons name more ih =>
      rcases Option.bind_eq_some_iff.mp found with ⟨next, present, later⟩
      cases value with
      | object content =>
          have stored : OrderedMap.get? content name = some next := present
          simp only [replaceAt, stored, ih later, OrderedMap.insert_of_get?_eq_some stored]
      | _ => cases present

/-- A part of a value stands between other parts, which stay when the part is replaced. -/
theorem exists_parts (distinct : value.DistinctNames) (mem : (tag, inner) ∈ value.part name) :
    ∃ content before after, value = .object content ∧
      OrderedMap.get? content name = some (.object (before ++ (tag, inner) :: after)) ∧
      value.at? [name, tag] = some inner ∧
      ∀ new, value.replaceAt [name, tag] new =
        .object (OrderedMap.insert content name (.object (before ++ (tag, new) :: after))) := by
  have names := (distinct.part name).1
  cases value with
  | object content =>
      rw [part_object] at mem names
      cases present : OrderedMap.get? content name with
      | none => simp [present] at mem
      | some held =>
          cases held with
          | object parts =>
              simp only [present, Option.bind_some, members?_object, Option.getD_some] at mem names
              have stored := OrderedMap.get?_eq_some_of_mem names mem
              rcases List.append_of_mem mem with ⟨before, after, rfl⟩
              have absent : tag ∉ OrderedMap.keys before := by
                simp only [List.map_append, List.map_cons] at names
                exact fun early => (List.nodup_middle.mp names).notMem (List.mem_append_left _ early)
              refine ⟨content, before, after, rfl, present, ?_, fun new => ?_⟩
              · have found : (object content).content.get? name =
                    some (.object (before ++ (tag, inner) :: after)) := present
                have part : (object (before ++ (tag, inner) :: after)).content.get? tag =
                    some inner := stored
                simp only [at?, found, part, Option.bind_some]
              · simp only [replaceAt, present, stored, OrderedMap.insert_append_cons absent]
          | _ => simp [present, members?] at mem
  | _ => cases mem

end Json.Value

/-- What is found in the inner value when it is put at a path of the outer one stands between
findings that are always the same. -/
def Focus (outer inner : Value → List Finding) (value : Value) (path : Path) : Prop :=
  ∃ before after, ∀ new, outer (value.replaceAt path new) = before ++ inner new ++ after

theorem Focus.trans {outer middle inner : Value → List Finding} {value held : Value}
    {path rest : Path} (first : Focus outer middle value path) (found : value.at? path = some held)
    (second : Focus middle inner held rest) : Focus outer inner value (path ++ rest) := by
  rcases first with ⟨before, after, split⟩
  rcases second with ⟨front, back, next⟩
  refine ⟨before ++ front, back ++ after, fun new => ?_⟩
  rw [Value.replaceAt_append found, split, next]
  simp only [List.append_assoc]

namespace Visit

/-- A visit of the same place with another value. -/
def withValue (visit : Visit) (new : Value) : Visit :=
  { visit with value := new }

end Visit

namespace Validation

variable {content : Members} {path : Path} {name : String} {parts others : Members} {value : Value}

theorem mem_keys_of_get? {key : String} (held : OrderedMap.get? content key = some value) :
    key ∈ OrderedMap.keys content :=
  OrderedMap.contains_iff_mem_keys.mp (Option.isSome_of_eq_some held)

/-- Which keys are unexpected does not depend on the values under them. -/
theorem keys_insert {allowed : List String} {key : String}
    (present : key ∈ OrderedMap.keys content) :
    keys path (OrderedMap.insert content key value) allowed = keys path content allowed := by
  have names : ∀ members : Members, keys path members allowed =
      (OrderedMap.keys members).flatMap fun key =>
        foundIf (!allowed.contains key) (path ++ [key]) .unexpectedKey := by
    intro members
    rw [OrderedMap.keys, List.flatMap_map]
    rfl
  rw [names, names, OrderedMap.keys_insert_of_mem present]

/-- The checks of a device look into its configurations only to see if there are any. -/
theorem deviceChecks_insert
    (held : OrderedMap.get? content "configurations" = some (.object parts))
    (same : others.isEmpty = parts.isEmpty) :
    deviceChecks path name (.object (OrderedMap.insert content "configurations" (.object others))) =
      deviceChecks path name (.object content) := by
  simp only [deviceChecks, keys_insert (mem_keys_of_get? held), configurationsChecks, id, string,
    descriptorString, version, OrderedMap.contains, OrderedMap.get?_insert_self, held, same]
  simp [OrderedMap.get?_insert_of_ne]

/-- The checks of a configuration do not look into its interfaces. -/
theorem configurationChecks_insert
    (held : OrderedMap.get? content "interfaces" = some (.object parts)) :
    configurationChecks path name
        (.object (OrderedMap.insert content "interfaces" (.object others))) =
      configurationChecks path name (.object content) := by
  simp only [configurationChecks, keys_insert (mem_keys_of_get? held), notParts, descriptorString,
    integer, attributes, OrderedMap.get?_insert_self, held]
  simp [OrderedMap.get?_insert_of_ne]

/-- The checks of the root do not look into the devices and the host sections. -/
theorem rootChecks_insert {key : String} (named : key = "devices" ∨ key = "host")
    (held : OrderedMap.get? content key = some (.object parts)) :
    rootChecks (.object (OrderedMap.insert content key (.object others))) =
      rootChecks (.object content) := by
  rcases named with rfl | rfl
  · simp only [rootChecks, keys_insert (mem_keys_of_get? held), string, notParts,
      OrderedMap.get?_insert_self, held]
    simp [OrderedMap.get?_insert_of_ne]
  · simp only [rootChecks, keys_insert (mem_keys_of_get? held), string, notParts]
    simp [OrderedMap.get?_insert_of_ne]

theorem hostsChecks_insert {key : String} (named : key = "devices" ∨ key = "host")
    (held : OrderedMap.get? content key = some (.object parts)) :
    hostsChecks (.object (OrderedMap.insert content key (.object others))) =
      hostsChecks (.object content) := by
  rcases named with rfl | rfl
  · simp [hostsChecks, notParts, OrderedMap.get?_insert_of_ne]
  · simp [hostsChecks, notParts, held]

end Validation

theorem Json.Value.part_insert_self {content parts : Members} {key : String} :
    (Value.object (OrderedMap.insert content key (.object parts))).part key = parts := by
  rw [part_object, OrderedMap.get?_insert_self]
  rfl

theorem Json.Value.part_insert_of_ne {content : Members} {key other : String} {value : Value}
    (different : key ≠ other) :
    (Value.object (OrderedMap.insert content key value)).part other =
      (Value.object content).part other := by
  rw [part_object, OrderedMap.get?_insert_of_ne _ _ different, part_object]

namespace Visit

variable {catalog : Catalog} {visit inner : Visit}

/-- The checks of a member look into its parts only to see if there are any. -/
theorem checks_insert {level : Level} {path : Path} {tag key : String} {other : Level}
    {content parts others : Validation.Members} (held : level.inner? = some (key, other))
    (present : OrderedMap.get? content key = some (.object parts))
    (same : others.isEmpty = parts.isEmpty) :
    checks catalog ⟨level, path, tag, .object (OrderedMap.insert content key (.object others))⟩ =
      checks catalog ⟨level, path, tag, .object content⟩ := by
  cases level with
  | device =>
      cases held
      exact Validation.deviceChecks_insert present same
  | configuration =>
      cases held
      exact Validation.configurationChecks_insert present
  | interface => cases held
  | host => cases held

/-- A part of a member is found at its path, and replacing it changes only what is found in it. -/
theorem focus_of_mem (distinct : visit.value.DistinctNames) (mem : inner ∈ visit.members) :
    ∃ rest, inner.path = visit.path ++ rest ∧ inner.value.DistinctNames ∧
      visit.value.at? rest = some inner.value ∧
      Focus (fun new => (visit.withValue new).walk catalog)
        (fun new => (inner.withValue new).walk catalog) visit.value rest := by
  rcases visit with ⟨level, path, tag, value⟩
  unfold members at mem
  split at mem
  next => cases mem
  next key other held =>
    rcases List.mem_map.mp mem with ⟨⟨name, part⟩, partMem, rfl⟩
    rcases Value.exists_parts distinct partMem with
      ⟨content, before, after, rfl, present, found, replaced⟩
    refine ⟨[key, name], by simp, ?_, found, ?_⟩
    · exact Value.membersDistinct_iff.mp (distinct.part key).2 _ partMem
    · refine ⟨checks catalog ⟨level, path, tag, .object content⟩ ++
          (ofMembers other (path ++ [key]) before).flatMap (walk catalog),
        (ofMembers other (path ++ [key]) after).flatMap (walk catalog), fun new => ?_⟩
      have same : (before ++ (name, new) :: after).isEmpty =
          (before ++ (name, part) :: after).isEmpty := by cases before <;> rfl
      dsimp only [withValue] at replaced ⊢
      rw [replaced, walk_split, checks_insert held present same]
      simp only [members, held, Value.part_insert_self]
      simp [ofMembers]

end Visit

def Finding.path : Finding → Path
  | .violation noted => noted.path
  | .tag path _ => path

namespace Validation

section Paths

variable {path : Path} {content : Members} {key name : String} {findings : List Finding}

/-- Findings at a path or behind it. -/
abbrev Under (path : Path) (findings : List Finding) : Prop :=
  All (fun finding => path <+: finding.path) findings

@[simp]
theorem path_violation {violation : Violation} :
    Finding.path (.violation violation) = violation.path := rfl

theorem Under.of_append {rest : Path} (under : Under (path ++ rest) findings) :
    Under path findings :=
  fun finding mem => (List.prefix_append path rest).trans (under finding mem)

@[simp]
theorem under_keys {allowed : List String} : Under path (keys path content allowed) := by
  simp [keys]

@[simp]
theorem under_tag {symbol : Bool} : Under path (tag path name symbol) := by
  have noted : Under path [.tag path name] :=
    List.forall_mem_singleton.mpr (List.prefix_refl path)
  unfold tag
  split
  · simp
  · simp [noted]

@[simp]
theorem under_string : Under path (string path content key) := by
  unfold string
  split <;> simp

@[simp]
theorem under_descriptorString : Under path (descriptorString path content key) := by
  unfold descriptorString
  split <;> simp

@[simp]
theorem under_integer {least greatest : Nat} :
    Under path (integer path content key least greatest) := by
  unfold integer
  split <;> simp

@[simp]
theorem under_id : Under path (id path content key) := by
  unfold id
  split <;> simp

@[simp]
theorem under_version : Under path (version path content key) := by
  unfold version
  split <;> simp

@[simp]
theorem under_attributes : Under path (attributes path content key) := by
  unfold attributes
  split <;> simp

@[simp]
theorem under_property {template : Template} {value : Value} :
    Under path (property template name path key value) := by
  unfold property
  split
  · simp
  · split <;> simp

@[simp]
theorem under_notParts : Under path (notParts path content key) := by
  unfold notParts
  split <;> simp

@[simp]
theorem under_configurationsChecks : Under path (configurationsChecks path content) := by
  unfold configurationsChecks
  split <;> simp

theorem under_deviceChecks {value : Value} : Under path (deviceChecks path name value) := by
  unfold deviceChecks
  split <;> simp

theorem under_configurationChecks {value : Value} :
    Under path (configurationChecks path name value) := by
  unfold configurationChecks
  split <;> simp

theorem under_interface {catalog : Catalog} {value : Value} :
    Under path (interface catalog path name value) := by
  unfold interface
  refine all_append.mpr ⟨under_tag, ?_⟩
  split
  · refine all_append.mpr ⟨under_descriptorString, ?_⟩
    split
    · simp
    · split
      · simp
      · exact all_members.mpr fun member _ => under_property.of_append
    · simp
  · simp

theorem under_host {value : Value} : Under path (host path name value) := by
  unfold host
  split <;> simp

end Paths

end Validation

namespace Visit

variable {catalog : Catalog} {visit : Visit}

/-- What is noted during a visit is noted at the path of its member or behind it. -/
theorem under_checks : Validation.Under visit.path (visit.checks catalog) := by
  rcases visit with ⟨level, path, tag, value⟩
  cases level with
  | device => exact Validation.under_deviceChecks
  | configuration => exact Validation.under_configurationChecks
  | interface => exact Validation.under_interface
  | host => exact Validation.under_host

theorem prefix_of_members {inner : Visit} (mem : inner ∈ visit.members) :
    visit.path <+: inner.path := by
  unfold members at mem
  split at mem
  next => cases mem
  next key level _ =>
    rcases List.mem_map.mp mem with ⟨member, -, rfl⟩
    rw [List.append_assoc]
    exact List.prefix_append _ _

theorem prefix_of_nested {inner : Visit} (mem : inner ∈ visit.nested) :
    visit.path <+: inner.path := by
  rcases List.mem_cons.mp mem with rfl | inside
  · exact List.prefix_refl _
  · rcases List.mem_flatMap.mp inside with ⟨middle, middleMem, last⟩
    have outer := prefix_of_members middleMem
    rcases List.mem_cons.mp last with rfl | lastMem
    · exact outer
    · exact outer.trans (prefix_of_members lastMem)

/-- The violations of a member and of everything inside of it. -/
def nestedViolations (catalog : Catalog) (visit : Visit) : List Violation :=
  visit.nested.flatMap (violations catalog)

theorem recorded_walk : recorded (visit.walk catalog) = visit.nestedViolations catalog := by
  rw [walk_eq_nested, recorded, List.filterMap_flatMap]
  rfl

theorem prefix_of_violation {violation : Violation}
    (mem : violation ∈ visit.nestedViolations catalog) : visit.path <+: violation.path := by
  rcases List.mem_flatMap.mp mem with ⟨inner, innerMem, own⟩
  rcases List.mem_filterMap.mp own with ⟨finding, findingMem, noted⟩
  have under := under_checks finding findingMem
  cases finding with
  | tag path name => cases noted
  | violation other =>
      cases noted
      exact (prefix_of_nested innerMem).trans under

end Visit

namespace Document

variable {catalog : Catalog} {value : Value} {visit : Visit}

/-- All visits of the walk, in its order. -/
def visits (value : Value) : List Visit :=
  deviceVisits value ++ hostVisits value

theorem focus_of_device (distinct : value.DistinctNames)
    (mem : visit ∈ Visit.ofMembers .device ["devices"] (value.part "devices")) :
    visit.value.DistinctNames ∧ value.at? visit.path = some visit.value ∧
      Focus (Validation.findings catalog) (fun new => (visit.withValue new).walk catalog) value
        visit.path := by
  rcases List.mem_map.mp mem with ⟨⟨name, part⟩, partMem, rfl⟩
  rcases Value.exists_parts distinct partMem with
    ⟨content, before, after, rfl, present, found, replaced⟩
  refine ⟨Value.membersDistinct_iff.mp (distinct.part "devices").2 _ partMem, found, ?_⟩
  have hosts : ∀ value, (Value.object (OrderedMap.insert content "devices" value)).part "host" =
      (Value.object content).part "host" := fun _ => Value.part_insert_of_ne (by decide)
  refine ⟨rootChecks (.object content) ++
      (Visit.ofMembers .device ["devices"] before).flatMap (Visit.walk catalog),
    (Visit.ofMembers .device ["devices"] after).flatMap (Visit.walk catalog) ++
      (hostsChecks (.object content) ++
        (Visit.ofMembers .host ["host"] ((Value.object content).part "host")).flatMap
          (Visit.walk catalog)), fun new => ?_⟩
  rw [List.singleton_append, replaced, findings_eq_walks,
    Validation.rootChecks_insert (Or.inl rfl) present,
    Validation.hostsChecks_insert (Or.inl rfl) present, Value.part_insert_self, hosts]
  simp [Visit.ofMembers, Visit.withValue]

theorem focus_of_host (distinct : value.DistinctNames)
    (mem : visit ∈ Visit.ofMembers .host ["host"] (value.part "host")) :
    value.at? visit.path = some visit.value ∧
      Focus (Validation.findings catalog) (fun new => (visit.withValue new).walk catalog) value
        visit.path := by
  rcases List.mem_map.mp mem with ⟨⟨name, part⟩, partMem, rfl⟩
  rcases Value.exists_parts distinct partMem with
    ⟨content, before, after, rfl, present, found, replaced⟩
  refine ⟨found, ?_⟩
  have devices : ∀ value, (Value.object (OrderedMap.insert content "host" value)).part "devices" =
      (Value.object content).part "devices" := fun _ => Value.part_insert_of_ne (by decide)
  refine ⟨rootChecks (.object content) ++
      ((Visit.ofMembers .device ["devices"] ((Value.object content).part "devices")).flatMap
        (Visit.walk catalog) ++ (hostsChecks (.object content) ++
          (Visit.ofMembers .host ["host"] before).flatMap (Visit.walk catalog))),
    (Visit.ofMembers .host ["host"] after).flatMap (Visit.walk catalog), fun new => ?_⟩
  rw [List.singleton_append, replaced, findings_eq_walks,
    Validation.rootChecks_insert (Or.inr rfl) present,
    Validation.hostsChecks_insert (Or.inr rfl) present, Value.part_insert_self, devices]
  simp [Visit.ofMembers, Visit.withValue]

/-- Every visit is at the path of its member, and replacing the member changes only what is found
in it. -/
theorem focus_of_visit (distinct : value.DistinctNames) (mem : visit ∈ visits value) :
    value.at? visit.path = some visit.value ∧
      Focus (Validation.findings catalog) (fun new => (visit.withValue new).walk catalog) value
        visit.path := by
  rcases List.mem_append.mp mem with inside | host
  · rcases List.mem_flatMap.mp inside with ⟨device, deviceMem, nested⟩
    rcases @focus_of_device catalog _ _ distinct deviceMem with ⟨deviceDistinct, deviceAt, first⟩
    rcases List.mem_cons.mp nested with rfl | deeper
    · exact ⟨deviceAt, first⟩
    · rcases List.mem_flatMap.mp deeper with ⟨configuration, configurationMem, last⟩
      rcases @Visit.focus_of_mem catalog _ _ deviceDistinct configurationMem with
        ⟨rest, path, configurationDistinct, found, second⟩
      have configurationAt : value.at? configuration.path = some configuration.value := by
        rw [path, Value.at?_append deviceAt, found]
      have both := path ▸ first.trans deviceAt second
      rcases List.mem_cons.mp last with rfl | lastMem
      · exact ⟨configurationAt, both⟩
      · rcases @Visit.focus_of_mem catalog _ _ configurationDistinct lastMem with
          ⟨more, lastPath, -, lastFound, third⟩
        rw [lastPath]
        exact ⟨by rw [Value.at?_append configurationAt, lastFound],
          both.trans configurationAt third⟩
  · exact focus_of_host distinct host

theorem unclashed_violations : ((violations catalog value).filter fun violation =>
    !isClash violation) = recorded (Validation.findings catalog value) :=
  Validation.filter_settle Validation.noted_findings

/-- Clashes aside, the violations of a value are the same in front of a visited member and behind it
whatever value the member has, and those in between are at its path or behind it. -/
theorem exists_violations_around (catalog : Catalog) (distinct : value.DistinctNames)
    (mem : visit ∈ visits value) : ∃ before after,
      ((violations catalog value).filter fun violation => !isClash violation) =
        before ++ visit.nestedViolations catalog ++ after ∧
      ∀ new, ((violations catalog (value.replaceAt visit.path new)).filter fun violation =>
          !isClash violation) = before ++ (visit.withValue new).nestedViolations catalog ++ after ∧
        ∀ violation ∈ (visit.withValue new).nestedViolations catalog,
          visit.path <+: violation.path := by
  rcases @focus_of_visit catalog _ _ distinct mem with ⟨found, before, after, split⟩
  have around : ∀ new, ((violations catalog (value.replaceAt visit.path new)).filter
      fun violation => !isClash violation) =
        recorded before ++ (visit.withValue new).nestedViolations catalog ++ recorded after := by
    intro new
    rw [unclashed_violations, split, ← Visit.recorded_walk]
    simp only [recorded, List.filterMap_append]
  refine ⟨recorded before, recorded after, ?_, fun new => ⟨around new, ?_⟩⟩
  · have own := around visit.value
    rw [Value.replaceAt_self found] at own
    exact own
  · exact fun violation => Visit.prefix_of_violation

/-- Every violation is reported. What is wrong with the root comes first, then what is reported of
every device and of what is inside of it, then what is wrong with the host sections as a whole, and
then what is reported of every host section; clashes of tags aside, what is reported of a member
follows from its path, its tag, its value and the catalog. So replacing the value of a member leaves
all violations as they are but those in the member and clashes of tags. -/
theorem violations_of_visits (catalog : Catalog) (value : Value) :
    (∃ devices hosts,
      List.Forall₂ (Visit.Reported catalog) (deviceVisits value) devices ∧
        List.Forall₂ (Visit.Reported catalog) (hostVisits value) hosts ∧
        violations catalog value = recorded (rootChecks value) ++ (devices.flatten ++
          (recorded (hostsChecks value) ++ hosts.flatten))) ∧
      (value.DistinctNames → ∀ visit ∈ visits value, ∃ before after,
        ((violations catalog value).filter fun violation => !isClash violation) =
          before ++ visit.nestedViolations catalog ++ after ∧
        ∀ new, ((violations catalog (value.replaceAt visit.path new)).filter fun violation =>
            !isClash violation) =
              before ++ (visit.withValue new).nestedViolations catalog ++ after ∧
          ∀ violation ∈ (visit.withValue new).nestedViolations catalog,
            visit.path <+: violation.path) :=
  ⟨violations_eq_visits catalog value,
    fun distinct _ mem => exists_violations_around catalog distinct mem⟩

/-- A device that is a number, and a host section that is none. -/
def brokenPartsValue : Value :=
  .object [("devices", .object [("dev0", .number (.integer 1))]),
    ("host", .object [("cdc", .null)])]

/-- Whatever is put in the place of the device, the host section is reported. -/
theorem violations_brokenPartsValue : brokenPartsValue.DistinctNames ∧
    ∀ new, { path := ["host", "cdc"], problem := .notObject } ∈
      violations Catalog.builtin (brokenPartsValue.replaceAt ["devices", "dev0"] new) := by
  have distinct : brokenPartsValue.DistinctNames := by
    simp [brokenPartsValue, Value.DistinctNames, Value.membersDistinct]
  refine ⟨distinct, fun new => ?_⟩
  rcases (violations_of_visits Catalog.builtin brokenPartsValue).2 distinct
      ⟨.device, ["devices", "dev0"], "dev0", .number (.integer 1)⟩ List.mem_cons_self with
    ⟨before, after, own, around⟩
  have reported : { path := ["host", "cdc"], problem := .notObject } ∈
      (violations Catalog.builtin brokenPartsValue).filter fun violation =>
        !isClash violation := by decide +kernel
  have inside : Visit.nestedViolations Catalog.builtin
      ⟨.device, ["devices", "dev0"], "dev0", .number (.integer 1)⟩ =
        [{ path := ["devices", "dev0"], problem := .notObject }] := by decide +kernel
  rw [own, inside] at reported
  have kept : { path := ["host", "cdc"], problem := .notObject } ∈
      (violations Catalog.builtin (brokenPartsValue.replaceAt ["devices", "dev0"] new)).filter
        fun violation => !isClash violation := by
    rw [(around new).1]
    simp only [List.mem_append, List.mem_singleton] at reported ⊢
    rcases reported with (early | same) | late
    · exact Or.inl (Or.inl early)
    · exact absurd same (by decide)
    · exact Or.inr late
  exact List.mem_of_mem_filter kept

end Document

end UsbDescriptors
