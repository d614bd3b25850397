import UsbDescriptors.Proofs.Document.Tags

/-!
# Visits of the walk

The walk over a value visits its devices, with their configurations and the interfaces of these,
and then its host sections, each member before those inside of it and otherwise in document order. A
visit is left early if its member is not what it should be, but never the walk: whatever a member
looks like, its siblings are visited all the same. What is noted during a visit follows from the
level, the path, the tag and the value of the member; only clashes of tags depend on other members.
-/

namespace UsbDescriptors

open Json (Value)
open Validation (All Members Own isClash found foundIf)

/-- The kind of hardware that a visited member describes. -/
inductive Visit.Level where
  | device
  | configuration
  | interface
  | host

/-- A member that the walk visits. -/
structure Visit where
  level : Visit.Level
  path : Path
  tag : String
  value : Value

def Finding.violation? : Finding → Option Violation
  | .violation noted => some noted
  | .tag _ _ => none

namespace Validation

/-- The violations among findings. -/
def recorded (findings : List Finding) : List Violation :=
  findings.filterMap Finding.violation?

/-- A member that must be an object of parts and is something else. -/
def notParts (path : Path) (content : Members) (key : String) : List Finding :=
  match OrderedMap.get? content key with
  | none | some (.object _) => []
  | some _ => found (path ++ [key]) .notObject

/-- What the walk notes about a configuration and not about its interfaces. -/
def configurationChecks (path : Path) (name : String) (value : Value) : List Finding :=
  tag path name false ++
    match value with
    | .object content =>
        keys path content ["description", "power", "attributes", "interfaces"]
          ++ descriptorString path content "description"
          ++ integer path content "power" 0 500
          ++ attributes path content "attributes"
          ++ notParts path content "interfaces"
    | _ => found path .notObject

/-- What the walk notes about the configurations of a device as a whole. -/
def configurationsChecks (path : Path) (content : Members) : List Finding :=
  match OrderedMap.get? content "configurations" with
  | none => found path (.missingKey "configurations")
  | some (.object configurations) =>
      foundIf configurations.isEmpty (path ++ ["configurations"]) .noConfiguration
  | some _ => found (path ++ ["configurations"]) .notObject

/-- What the walk notes about a device and not about its configurations. -/
def deviceChecks (path : Path) (name : String) (value : Value) : List Finding :=
  tag path name false ++
    match value with
    | .object content =>
        keys path content Device.keys
          ++ foundIf (!OrderedMap.contains content "vendor") path (.missingKey "vendor")
          ++ id path content "vendor"
          ++ id path content "pid"
          ++ string path content "class"
          ++ string path content "subclass"
          ++ string path content "protocol"
          ++ descriptorString path content "manufacturer"
          ++ descriptorString path content "product"
          ++ descriptorString path content "serial"
          ++ version path content "version"
          ++ configurationsChecks path content
    | _ => found path .notObject

/-- What the walk notes about the root, up to its devices. -/
def rootChecks : Value → List Finding
  | .object content =>
      keys [] content ["$schema", "devices", "host"]
        ++ string [] content "$schema"
        ++ notParts [] content "devices"
  | _ => found [] .notObject

/-- What the walk notes between the devices and the host sections. -/
def hostsChecks : Value → List Finding
  | .object content => notParts [] content "host"
  | _ => []

end Validation

namespace Visit

/-- The member that holds the parts of a member, and what they are. -/
def Level.inner? : Level → Option (String × Level)
  | .device => some ("configurations", .configuration)
  | .configuration => some ("interfaces", .interface)
  | .interface | .host => none

/-- The findings of a visit and of the visits inside of it. -/
def walk (catalog : Catalog) (visit : Visit) : List Finding :=
  match visit.level with
  | .device => Validation.device catalog visit.path visit.tag visit.value
  | .configuration => Validation.configuration catalog visit.path visit.tag visit.value
  | .interface => Validation.interface catalog visit.path visit.tag visit.value
  | .host => Validation.host visit.path visit.tag visit.value

/-- The findings of a visit alone. -/
def checks (catalog : Catalog) (visit : Visit) : List Finding :=
  match visit.level with
  | .device => Validation.deviceChecks visit.path visit.tag visit.value
  | .configuration => Validation.configurationChecks visit.path visit.tag visit.value
  | .interface => Validation.interface catalog visit.path visit.tag visit.value
  | .host => Validation.host visit.path visit.tag visit.value

def ofMembers (level : Level) (path : Path) (members : OrderedMap Value) : List Visit :=
  members.map fun member => ⟨level, path ++ [member.1], member.1, member.2⟩

/-- The visits of the parts of a member. -/
def members (visit : Visit) : List Visit :=
  match visit.level.inner? with
  | none => []
  | some (key, level) => ofMembers level (visit.path ++ [key]) (visit.value.part key)

/-- A visit and all visits inside of it, in document order. No member has parts on more than two
levels. -/
def nested (visit : Visit) : List Visit :=
  visit :: visit.members.flatMap fun inner => inner :: inner.members

/-- The violations that a visit records by itself: they follow from the visit and the catalog. -/
def violations (catalog : Catalog) (visit : Visit) : List Violation :=
  Validation.recorded (visit.checks catalog)

/-- What is reported of a visit: its own violations, and besides them only clashes of its tag. -/
structure Reported (catalog : Catalog) (visit : Visit) (reported : List Violation) : Prop where
  own : (reported.filter fun violation => !isClash violation) = visit.violations catalog
  clashes : ∀ violation ∈ reported, isClash violation = true → violation.path = visit.path

end Visit

namespace Document

/-- The visits of all devices and of what is inside of them. -/
def deviceVisits (value : Value) : List Visit :=
  (Visit.ofMembers .device ["devices"] (value.part "devices")).flatMap Visit.nested

/-- The visits of all host sections. -/
def hostVisits (value : Value) : List Visit :=
  Visit.ofMembers .host ["host"] (value.part "host")

end Document

namespace Validation

section Settling

variable {findings first : List Finding} {seen : OrderedMap Path} {violation : Violation}

theorem not_isClash_of_ofMember (own : violation.problem.OfMember) : isClash violation = false := by
  unfold isClash
  split
  next clash =>
    rw [clash] at own
    cases own
  next => rfl

/-- Clashes aside, settling findings gives the violations among them. -/
theorem filter_settle (noted : All Finding.IsNoted findings) :
    ((settle seen findings).filter fun violation => !isClash violation) = recorded findings := by
  induction findings generalizing seen with
  | nil => rfl
  | cons finding rest ih =>
      rcases List.forall_mem_cons.mp noted with ⟨own, others⟩
      cases finding with
      | violation violation =>
          have member := not_isClash_of_ofMember (Finding.isNoted_violation.mp own)
          rw [settle, List.filter_cons_of_pos (by simp [member]), ih others]
          rfl
      | tag path name =>
          rw [settle]
          split
          next first _ =>
            have clash : isClash { path, problem := .tagClash name first } = true := rfl
            rw [List.filter_cons_of_neg (by simp [clash]), ih others]
            rfl
          next => exact ih others

/-- A clash is reported at a path where a tag has been noted. -/
theorem tag_of_clash (noted : All Finding.IsNoted findings) (mem : violation ∈ settle seen findings)
    (clash : isClash violation = true) : ∃ name, .tag violation.path name ∈ findings := by
  induction findings generalizing seen with
  | nil => cases mem
  | cons finding rest ih =>
      rcases List.forall_mem_cons.mp noted with ⟨own, others⟩
      have later : ∀ {seen}, violation ∈ settle seen rest →
          ∃ name, .tag violation.path name ∈ finding :: rest := by
        intro seen restMem
        rcases ih others restMem with ⟨name, tagMem⟩
        exact ⟨name, List.mem_cons_of_mem _ tagMem⟩
      cases finding with
      | violation other =>
          rcases List.mem_cons.mp mem with rfl | restMem
          · rw [not_isClash_of_ofMember (Finding.isNoted_violation.mp own)] at clash
            cases clash
          · exact later restMem
      | tag path name =>
          simp only [settle] at mem
          split at mem
          next =>
            rcases List.mem_cons.mp mem with rfl | restMem
            · exact ⟨name, List.mem_cons_self⟩
            · exact later restMem
          next => exact later mem

/-- Findings are settled one after the other, with what has been seen before. -/
theorem exists_settle_append (first : List Finding) (seen : OrderedMap Path) :
    ∃ after, ∀ rest, settle seen (first ++ rest) = settle seen first ++ settle after rest := by
  induction first generalizing seen with
  | nil => exact ⟨seen, fun _ => rfl⟩
  | cons finding more ih =>
      cases finding with
      | violation violation =>
          rcases ih seen with ⟨after, split⟩
          exact ⟨after, fun rest => congrArg (List.cons violation) (split rest)⟩
      | tag path name =>
          cases present : seen.get? (identifier name) with
          | some other =>
              rcases ih seen with ⟨after, split⟩
              refine ⟨after, fun rest => ?_⟩
              simp only [List.cons_append, settle, present, split rest]
          | none =>
              rcases ih (seen ++ [(identifier name, path)]) with ⟨after, split⟩
              refine ⟨after, fun rest => ?_⟩
              simp only [List.cons_append, settle, present, split rest]

theorem settle_append_of_own (own : Own first) (rest : List Finding) :
    settle seen (first ++ rest) = recorded first ++ settle seen rest := by
  induction first with
  | nil => rfl
  | cons finding more ih =>
      rcases List.forall_mem_cons.mp own with ⟨head, others⟩
      cases finding with
      | violation violation => exact congrArg (List.cons violation) (ih others)
      | tag path name => cases head

/-- Findings of several items are settled item by item. -/
theorem exists_settle_flatMap {α : Type} (items : List α) (check : α → List Finding)
    (seen : OrderedMap Path) : ∃ parts after,
      List.Forall₂ (fun item part => ∃ seen, part = settle seen (check item)) items parts ∧
        ∀ rest, settle seen (items.flatMap check ++ rest) = parts.flatten ++ settle after rest := by
  induction items generalizing seen with
  | nil => exact ⟨[], seen, .nil, fun _ => rfl⟩
  | cons item more ih =>
      rcases exists_settle_append (check item) seen with ⟨middle, split⟩
      rcases ih middle with ⟨parts, after, each, others⟩
      refine ⟨settle seen (check item) :: parts, after, .cons ⟨seen, rfl⟩ each, fun rest => ?_⟩
      rw [List.flatMap_cons, List.append_assoc, split, others, List.flatten_cons, List.append_assoc]

end Settling

theorem own_notParts {path : Path} {content : Members} {key : String} :
    Own (notParts path content key) := by
  unfold notParts
  split <;> simp [Problem.OfMember]

theorem parts_eq {content : Members} {key : String}
    {check : Path → String → Value → List Finding} :
    parts content key check =
      notParts [] content key ++ members [key] (Value.part (.object content) key) check := by
  unfold parts notParts
  rw [Value.part_object]
  cases OrderedMap.get? content key with
  | none => rfl
  | some members => cases members <;> simp [Validation.members, Value.members?]

theorem own_configurationsChecks {path : Path} {content : Members} :
    Own (configurationsChecks path content) := by
  unfold configurationsChecks
  split <;> simp [Problem.OfMember]

end Validation

namespace Visit

open Validation (recorded settle)

variable {catalog : Catalog} {visit : Visit}

/-- A visit notes the tag of its member, and then what the member shows by itself. -/
theorem checks_split : ∃ symbol own, Own own ∧
    visit.checks catalog = Validation.tag visit.path visit.tag symbol ++ own := by
  rcases visit with ⟨level, path, tag, value⟩
  cases level with
  | device =>
      refine ⟨false, _, ?_, rfl⟩
      split <;> simp [Validation.own_configurationsChecks, Problem.OfMember]
  | configuration =>
      refine ⟨false, _, ?_, rfl⟩
      split <;> simp [Validation.own_notParts, Problem.OfMember]
  | interface =>
      rcases @Validation.interface_split catalog path tag value with ⟨own, isOwn, split⟩
      exact ⟨true, own, isOwn, split⟩
  | host =>
      rcases @Validation.host_split path tag value with ⟨own, isOwn, split⟩
      exact ⟨true, own, isOwn, split⟩

theorem noted_checks : All Finding.IsNoted (visit.checks catalog) := by
  rcases @checks_split catalog visit with ⟨symbol, own, isOwn, split⟩
  rw [split, Validation.all_append]
  exact ⟨Validation.noted_tag, isOwn.noted⟩

theorem path_of_tag {path : Path} {name : String} (mem : .tag path name ∈ visit.checks catalog) :
    path = visit.path := by
  rcases @checks_split catalog visit with ⟨symbol, own, isOwn, split⟩
  have noted : (path, name) ∈ Validation.tags (visit.checks catalog) :=
    List.mem_filterMap.mpr ⟨_, mem, rfl⟩
  rw [split, Validation.tags_append, Validation.tags_tag, isOwn.tags_eq_nil,
    List.append_nil] at noted
  have same := List.mem_singleton.mp (List.mem_of_mem_filter noted)
  exact congrArg Prod.fst same

/-- Whatever has been seen before, a visit is reported with its own violations. -/
theorem reported_settle (seen : OrderedMap Path) :
    visit.Reported catalog (settle seen (visit.checks catalog)) := by
  constructor
  · exact Validation.filter_settle noted_checks
  · intro violation mem clash
    rcases Validation.tag_of_clash noted_checks mem clash with ⟨name, tagMem⟩
    exact path_of_tag tagMem

theorem flatMap_ofMembers {level : Level} {path : Path} {members : OrderedMap Value}
    {α : Type} (part : Visit → List α) :
    (ofMembers level path members).flatMap part =
      members.flatMap fun member => part ⟨level, path ++ [member.1], member.1, member.2⟩ :=
  List.flatMap_map ..

/-- The walk goes on to the parts of a member whatever it has noted about the member. -/
theorem walk_split :
    visit.walk catalog = visit.checks catalog ++ visit.members.flatMap (walk catalog) := by
  rcases visit with ⟨level, path, tag, value⟩
  cases level with
  | device =>
      simp only [walk, checks, members, Level.inner?, flatMap_ofMembers]
      cases value with
      | object content =>
          simp only [Validation.device, Validation.deviceChecks, Validation.configurationsChecks,
            Value.part_object]
          cases OrderedMap.get? content "configurations" with
          | none => simp
          | some configurations => cases configurations <;> simp [Validation.members, Value.members?]
      | _ => simp [Validation.device, Validation.deviceChecks, Value.part, Value.content,
          Value.members?]
  | configuration =>
      simp only [walk, checks, members, Level.inner?, flatMap_ofMembers]
      cases value with
      | object content =>
          simp only [Validation.configuration, Validation.configurationChecks, Validation.notParts,
            Value.part_object]
          cases OrderedMap.get? content "interfaces" with
          | none => simp
          | some interfaces => cases interfaces <;> simp [Validation.members, Value.members?]
      | _ => simp [Validation.configuration, Validation.configurationChecks, Value.part,
          Value.content, Value.members?]
  | interface => exact (List.append_nil _).symm
  | host => exact (List.append_nil _).symm

theorem level_of_mem {inner : Visit} (mem : inner ∈ visit.members) :
    ∃ key, visit.level.inner? = some (key, inner.level) := by
  unfold members at mem
  split at mem
  next => cases mem
  next key level split =>
    rcases List.mem_map.mp mem with ⟨member, -, rfl⟩
    exact ⟨key, split⟩

theorem members_of_inner? (innermost : visit.level.inner? = none) : visit.members = [] := by
  rw [members, innermost]

/-- Parts have parts, but not more than that. -/
theorem members_eq_nil {inner last : Visit} (innerMem : inner ∈ visit.members)
    (lastMem : last ∈ inner.members) : last.members = [] := by
  rcases level_of_mem innerMem with ⟨key, outer⟩
  rcases level_of_mem lastMem with ⟨otherKey, middle⟩
  apply members_of_inner?
  revert outer middle
  cases visit.level <;> cases inner.level <;> cases last.level <;> simp [Level.inner?]

/-- The walk notes the findings of the visits in document order. -/
theorem walk_eq_nested : visit.walk catalog = visit.nested.flatMap (checks catalog) := by
  have each : ∀ inner ∈ visit.members,
      inner.walk catalog = (inner :: inner.members).flatMap (checks catalog) := by
    intro inner innerMem
    rw [walk_split, List.flatMap_cons]
    refine congrArg _ (List.flatMap_congr fun last lastMem => ?_)
    rw [walk_split, members_eq_nil innerMem lastMem, List.flatMap_nil, List.append_nil]
  rw [walk_split, nested, List.flatMap_cons, List.flatMap_assoc]
  exact congrArg _ (List.flatMap_congr each)

end Visit

namespace Document

open Validation (hostsChecks recorded rootChecks)

variable {catalog : Catalog} {value : Value}

/-- The walk notes what is wrong with the root, then goes over the devices, then notes what is wrong
with the host sections as a whole, and then goes over these. -/
theorem findings_eq_walks : Validation.findings catalog value =
    rootChecks value ++
      ((Visit.ofMembers .device ["devices"] (value.part "devices")).flatMap (Visit.walk catalog) ++
        (hostsChecks value ++
          (Visit.ofMembers .host ["host"] (value.part "host")).flatMap (Visit.walk catalog))) := by
  rw [Visit.flatMap_ofMembers, Visit.flatMap_ofMembers]
  cases value with
  | object content =>
      simp only [Validation.findings, Validation.parts_eq, rootChecks, hostsChecks,
        List.append_assoc]
      rfl
  | _ => rfl

theorem findings_eq_visits : Validation.findings catalog value =
    rootChecks value ++ ((deviceVisits value).flatMap (Visit.checks catalog) ++
      (hostsChecks value ++ (hostVisits value).flatMap (Visit.checks catalog))) := by
  have devices : (deviceVisits value).flatMap (Visit.checks catalog) =
      (Visit.ofMembers .device ["devices"] (value.part "devices")).flatMap
        (Visit.walk catalog) := by
    rw [deviceVisits, List.flatMap_assoc]
    simp only [← Visit.walk_eq_nested]
  have hosts : (hostVisits value).flatMap (Visit.checks catalog) =
      (Visit.ofMembers .host ["host"] (value.part "host")).flatMap (Visit.walk catalog) := by
    rw [hostVisits, Visit.flatMap_ofMembers, Visit.flatMap_ofMembers]
    rfl
  rw [findings_eq_walks, devices, hosts]

theorem own_rootChecks : Own (rootChecks value) := by
  cases value <;> simp [rootChecks, Validation.own_notParts, Problem.OfMember]

theorem own_hostsChecks : Own (hostsChecks value) := by
  cases value <;> simp [hostsChecks, Validation.own_notParts]

/-- Visits that are settled one after the other are reported each with its own violations. -/
theorem reported_of_settle {visits : List Visit} {parts : List (List Violation)}
    (settled : List.Forall₂
      (fun visit part => ∃ seen, part = Validation.settle seen (visit.checks catalog)) visits parts) :
    List.Forall₂ (Visit.Reported catalog) visits parts := by
  refine settled.imp ?_
  rintro visit _ ⟨seen, rfl⟩
  exact Visit.reported_settle seen

/-- What is wrong with the root is reported first, then what is reported of every device and of what
is inside of it, then what is wrong with the host sections as a whole, and then what is reported of
every host section. -/
theorem violations_eq_visits (catalog : Catalog) (value : Value) : ∃ devices hosts,
    List.Forall₂ (Visit.Reported catalog) (deviceVisits value) devices ∧
      List.Forall₂ (Visit.Reported catalog) (hostVisits value) hosts ∧
      violations catalog value = recorded (rootChecks value) ++ (devices.flatten ++
        (recorded (hostsChecks value) ++ hosts.flatten)) := by
  rcases Validation.exists_settle_flatMap (deviceVisits value) (Visit.checks catalog) [] with
    ⟨devices, middle, settled, split⟩
  rcases Validation.exists_settle_flatMap (hostVisits value) (Visit.checks catalog) middle with
    ⟨hosts, last, hostsSettled, hostsSplit⟩
  refine ⟨devices, hosts, reported_of_settle settled, reported_of_settle hostsSettled, ?_⟩
  have ended := hostsSplit []
  rw [List.append_nil] at ended
  rw [violations, findings_eq_visits, Validation.settle_append_of_own own_rootChecks, split,
    Validation.settle_append_of_own own_hostsChecks, ended, Validation.settle, List.append_nil]

end Document

end UsbDescriptors
