import UsbDescriptors.Catalog.Builtin
import UsbDescriptors.Proofs.Document.Tags
import UsbDescriptors.Proofs.Outputs.Reports
import UsbDescriptors.Proofs.Runs.Registration

/-!
# Served report tables

The stack asks for the report descriptor of a HID interface by the instance number of the interface,
and the generated callback answers with the item of an array that stands at this place. That this is
the right one rests on four numberings: HID interfaces stand in one configuration of a device only,
their tables are put into the list in document order, as many of them are served as the first device
has, and the objects of a class are numbered from zero on in every configuration. The main statement
puts these together for the built-in catalog, where the interfaces that carry reports are those of
the HID class.
-/

namespace UsbDescriptors

open Json (Value)

/-- The interfaces that carry reports are those of the HID class, and their objects are those of the
HID namespace. -/
def Catalog.ReportsAreHid (catalog : Catalog) : Prop :=
  ∀ entry ∈ catalog.templates,
    (identifier entry.2.className = "HID" ↔ entry.2.reports.isSome = true) ∧
      (entry.2.scopeName = "HID" ↔ entry.2.reports.isSome = true)

theorem Catalog.reportsAreHid_builtin : builtin.ReportsAreHid := by
  unfold ReportsAreHid
  decide +kernel

section Planning

variable {catalog : Catalog} {before after : List Event}

theorem ConfigurationPlan.Planned.carriesReports {entry : String × Configuration}
    {plan : ConfigurationPlan} (planned : plan.Planned catalog entry) :
    entry.2.carriesReports catalog = plan.hasReports := by
  have each : ∀ {interfaces : List (String × Interface)} {plans : List InterfacePlan},
      List.Forall₂ (InterfacePlan.Planned catalog) interfaces plans →
        (interfaces.any fun entry => entry.2.carriesReports catalog) =
          plans.any InterfacePlan.hasReports := by
    intro interfaces plans related
    induction related with
    | nil => rfl
    | cons head _ ih =>
        rw [List.any_cons, List.any_cons, head.carriesReports, ih]
        rfl
  exact each planned.interfaces

theorem checkReports_ok {device : String} {earlier known : Option String}
    {plan : ConfigurationPlan} (run : checkReports device earlier plan = .ok known) :
    (plan.hasReports = true ∧ earlier = none ∧ known.isSome = true) ∨
      (plan.hasReports = false ∧ known = earlier) := by
  unfold checkReports at run
  split at run
  next has =>
    split at run
    next => cases run
    next =>
      cases run
      exact .inl ⟨has, rfl, rfl⟩
  next without =>
    cases run
    exact .inr ⟨Bool.eq_false_of_not_eq_true without, rfl⟩

/-- A configuration with reports is the only one, and there is none if one was known before. -/
theorem planConfigurations_single {device : String} {earlier : Option String}
    {configurations : OrderedMap Configuration} {plans : List ConfigurationPlan}
    (run : planConfigurations catalog device earlier configurations before = .ok plans after) :
    (configurations.filter fun entry => entry.2.carriesReports catalog).length +
      earlier.toList.length ≤ 1 := by
  induction configurations generalizing plans earlier before after with
  | nil => cases earlier <;> simp
  | cons entry rest ih =>
      simp only [planConfigurations, step_bind_iff, step_pure_iff, Planning.lift_ok_iff] at run
      rcases run with ⟨interfaces, _, first, known, _, ⟨checked, -⟩, plans, _, others, -, -⟩
      have planned : ConfigurationPlan.Planned catalog entry
          { tag := entry.1, configuration := entry.2, interfaces } :=
        ⟨rfl, rfl, planInterfaces_ok first⟩
      have later := ih others
      rcases checkReports_ok checked with ⟨has, rfl, now⟩ | ⟨without, rfl⟩
      · rcases Option.isSome_iff_exists.mp now with ⟨name, rfl⟩
        rw [← planned.carriesReports] at has
        rw [List.filter_cons_of_pos (by simpa using has)]
        simp only [Option.toList, List.length_cons, List.length_nil] at later ⊢
        omega
      · rw [← planned.carriesReports] at without
        rw [List.filter_cons_of_neg (by simp [without])]
        exact later

theorem planDevices_single {devices : OrderedMap Device} {plans : List DevicePlan}
    (run : planDevices catalog devices before = .ok plans after) :
    ∀ device ∈ devices, (device.2.configurations.filter fun entry =>
      entry.2.carriesReports catalog).length ≤ 1 := by
  induction devices generalizing plans before after with
  | nil =>
      intro device mem
      cases mem
  | cons entry rest ih =>
      simp only [planDevices, step_bind_iff, step_pure_iff, Planning.lift_ok_iff] at run
      rcases run with ⟨codes, _, ⟨-, -⟩, configurations, _, first, plans, _, others, -, -⟩
      intro device mem
      rcases List.mem_cons.mp mem with rfl | later
      · exact planConfigurations_single first
      · exact ih others device later

/-- In every device of a document at most one configuration carries reports. -/
theorem Document.single_of_generate {document : Document} {generated : Generated}
    (run : document.generate catalog = .ok generated) :
    ∀ device ∈ document.devices, (device.2.configurations.filter fun entry =>
      entry.2.carriesReports catalog).length ≤ 1 := by
  rcases generate_ok_iff.mp run with ⟨session, ran⟩
  rcases Generation.document_steps ran with ⟨plans, _, _, _, _, _, planned, -⟩
  simp only [planDocument, step_bind_iff] at planned
  rcases planned with ⟨_, _, devices, -⟩
  exact planDevices_single devices

end Planning

namespace ClassEntry

variable {catalog : Catalog}

/-- The objects of HID interfaces that are numbered from a start on. -/
def hidObjects (start : Nat) (interfaces : List (String × Interface)) : List ClassEntry :=
  (interfaces.zipIdx start).map fun entry =>
    { scope := "HID", tag := entry.1.1, host := false, ordinal := entry.2 }

theorem ObjectOf.isHid (hid : catalog.ReportsAreHid) {entry : String × Interface}
    {object : ClassEntry} (made : object.ObjectOf catalog entry) :
    entry.2.isOfClass catalog "HID" = entry.2.carriesReports catalog ∧
      (object.scope = "HID" ↔ entry.2.carriesReports catalog = true) := by
  rcases made.scope with ⟨template, found, scope⟩
  have same := hid _ (OrderedMap.mem_of_get?_eq_some found)
  have isHid : identifier "HID" = "HID" := by decide
  rw [Interface.isOfClass, Interface.carriesReports, found, scope, isHid]
  refine ⟨?_, same.2⟩
  exact Bool.eq_iff_iff.mpr (by simpa using same.1)

/-- Of the objects of a configuration those in the HID namespace are those of the interfaces that
carry reports, and they are numbered without a gap. -/
theorem filter_scope_eq (hid : catalog.ReportsAreHid) {interfaces : List (String × Interface)}
    {objects : List ClassEntry} {start : Nat}
    (each : List.Forall₂ (ObjectOf catalog) interfaces objects)
    (numbered : ordinals catalog "HID" interfaces objects =
      List.range' start (interfaces.countP fun entry => entry.2.isOfClass catalog "HID")) :
    (objects.filter fun object => object.scope = "HID") =
      hidObjects start (interfaces.filter fun entry => entry.2.carriesReports catalog) := by
  induction each generalizing start with
  | nil => rfl
  | @cons entry object interfaces objects made _ ih =>
      have isHid := made.isHid hid
      by_cases carries : entry.2.carriesReports catalog = true
      · have member : entry.2.isOfClass catalog "HID" = true := isHid.1.trans carries
        have scope : object.scope = "HID" := isHid.2.mpr carries
        have split : ordinals catalog "HID" (entry :: interfaces) (object :: objects) =
            object.ordinal :: ordinals catalog "HID" interfaces objects := by
          simp [ordinals, member]
        rw [split, List.countP_cons, if_pos member, List.range'_succ] at numbered
        rcases List.cons.inj numbered with ⟨ordinal, others⟩
        have whole : object =
            { scope := "HID", tag := entry.1, host := false, ordinal := start } := by
          rcases object with ⟨objectScope, tag, host, number⟩
          rcases made with ⟨rfl, rfl, -⟩
          rw [← scope, ← ordinal]
        rw [List.filter_cons_of_pos (by simpa using scope),
          List.filter_cons_of_pos (by simpa using carries), ih others, hidObjects, hidObjects,
          List.zipIdx_cons, List.map_cons, whole]
      · have outside : ¬ entry.2.isOfClass catalog "HID" = true := by
          rw [isHid.1]
          exact carries
        have scope : ¬ object.scope = "HID" := fun same => carries (isHid.2.mp same)
        have same : ordinals catalog "HID" (entry :: interfaces) (object :: objects) =
            ordinals catalog "HID" interfaces objects := by
          simp [ordinals, outside]
        rw [same, List.countP_cons, if_neg outside] at numbered
        rw [List.filter_cons_of_neg (by simpa using scope),
          List.filter_cons_of_neg (by simpa using carries)]
        exact ih numbered

/-- If one configuration carries reports at most, the HID objects of all configurations are those of
this one. -/
theorem filter_scope_flatten (hid : catalog.ReportsAreHid)
    {configurations : List (String × Configuration)} {groups : List (List ClassEntry)}
    (objects : List.Forall₂ (fun entry group => entry.2.Objects catalog group) configurations
      groups)
    (single : (configurations.filter fun entry => entry.2.carriesReports catalog).length ≤ 1) :
    (groups.flatten.filter fun object => object.scope = "HID") =
      hidObjects 0 (configurations.flatMap fun entry => entry.2.reportInterfaces catalog) := by
  induction objects with
  | nil => rfl
  | @cons entry group rest groups made _ ih =>
      have own : (group.filter fun object => object.scope = "HID") =
          hidObjects 0 (entry.2.reportInterfaces catalog) := by
        apply filter_scope_eq hid made.each
        rw [made.numbered "HID", List.range_eq_range']
        rfl
      rw [List.flatten_cons, List.filter_append, own, List.flatMap_cons]
      by_cases carries : entry.2.carriesReports catalog = true
      · rw [List.filter_cons_of_pos (by simpa using carries), List.length_cons] at single
        have none : (rest.filter fun entry => entry.2.carriesReports catalog) = [] :=
          List.eq_nil_of_length_eq_zero (by omega)
        have nothing : (rest.flatMap fun entry => entry.2.reportInterfaces catalog) = [] := by
          refine List.flatMap_eq_nil_iff.mpr fun other mem => ?_
          have without := List.filter_eq_nil_iff.mp none other mem
          refine List.filter_eq_nil_iff.mpr fun interface interfaceMem reports => ?_
          exact without (List.any_eq_true.mpr ⟨interface, interfaceMem, reports⟩)
        rw [ih (by rw [none]; exact Nat.zero_le 1), nothing]
        simp [hidObjects]
      · rw [List.filter_cons_of_neg (by simpa using carries)] at single
        have nothing : entry.2.reportInterfaces catalog = [] := by
          refine List.filter_eq_nil_iff.mpr fun interface interfaceMem reports => ?_
          exact carries (List.any_eq_true.mpr ⟨interface, interfaceMem, reports⟩)
        rw [ih single, nothing]
        rfl

/-- An object among those that are numbered from zero on stands at the place of its number. -/
theorem mem_hidObjects_iff {interfaces : List (String × Interface)} {tag : String}
    {instanceNumber : Nat} :
    ({ scope := "HID", tag, host := false, ordinal := instanceNumber } : ClassEntry) ∈
        hidObjects 0 interfaces ↔
      (interfaces.map Prod.fst)[instanceNumber]? = some tag := by
  rw [hidObjects, List.mem_map, List.getElem?_map]
  constructor
  · rintro ⟨⟨interface, number⟩, mem, same⟩
    cases same
    rw [List.mem_zipIdx_iff_getElem?.mp mem]
    rfl
  · intro found
    rcases Option.map_eq_some_iff.mp found with ⟨interface, present, rfl⟩
    exact ⟨(interface, instanceNumber), List.mem_zipIdx_iff_getElem?.mpr present, rfl⟩

theorem map_tag_of_objects {configurations : List (String × Configuration)}
    {groups : List (List ClassEntry)}
    (objects : List.Forall₂ (fun entry group => entry.2.Objects catalog group) configurations
      groups) :
    groups.flatten.map tag =
      (configurations.flatMap fun entry => entry.2.interfaces).map Prod.fst := by
  have each : ∀ {interfaces : List (String × Interface)} {objects : List ClassEntry},
      List.Forall₂ (ObjectOf catalog) interfaces objects →
        objects.map tag = interfaces.map Prod.fst := by
    intro interfaces objects related
    induction related with
    | nil => rfl
    | cons head _ ih => rw [List.map_cons, List.map_cons, head.tag, ih]
  induction objects with
  | nil => rfl
  | cons head _ ih =>
      rw [List.flatten_cons, List.map_append, ih, each head.each, List.flatMap_cons,
        List.map_append]

end ClassEntry

theorem ReportTable.map_tag_of_tables {catalog : Catalog} {interfaces : List (String × Interface)}
    {tables : List ReportTable} (listed : List.Forall₂ (TableOf catalog) interfaces tables) :
    tables.map tag = interfaces.map Prod.fst := by
  induction listed with
  | nil => rfl
  | cons head _ ih => rw [List.map_cons, List.map_cons, head.tag, ih]

theorem ReportTable.map_symbol_of_tables {catalog : Catalog}
    {interfaces : List (String × Interface)} {tables : List ReportTable}
    (listed : List.Forall₂ (TableOf catalog) interfaces tables) :
    tables.map symbol = interfaces.map fun entry => symbolOf entry.1 := by
  have tags : (tables.map tag).map symbolOf = (interfaces.map Prod.fst).map symbolOf :=
    congrArg _ (map_tag_of_tables listed)
  rw [List.map_map, List.map_map] at tags
  exact tags

/-- The report tables of a run, and what the callback in the source serves of them. -/
structure Generated.ServesReports (generated : Generated) (document : Document)
    (catalog : Catalog) : Prop where
  /-- At most one configuration of a device carries reports. -/
  single : ∀ device ∈ document.devices, (device.2.configurations.filter fun entry =>
    entry.2.carriesReports catalog).length ≤ 1
  /-- The tables are those of all interfaces that carry reports, in document order. -/
  listed : List.Forall₂ (ReportTable.TableOf catalog) (document.reportInterfaces catalog)
    generated.reports
  /-- Those of the first device are served. -/
  served : List.Forall₂ (ReportTable.TableOf catalog) (document.servedInterfaces catalog)
    generated.served
  /-- No two tables share the array that holds their descriptor. -/
  symbols : (generated.reports.map ReportTable.symbol).Nodup
  /-- An interface of the first device is a HID instance of the number under which its table is
  served. -/
  instances : ∀ device ∈ document.devices.head?, ∀ configuration ∈ device.2.configurations,
    ∀ interface ∈ configuration.2.interfaces, ∀ instanceNumber,
      ({ scope := "HID", tag := interface.1, host := false, ordinal := instanceNumber } :
          ClassEntry) ∈ generated.registry.entries ↔
        (generated.served[instanceNumber]?).map ReportTable.tag = some interface.1
  /-- The array from which the callback serves lists the tables in this order. -/
  array : generated.servedArrayLines =
    if (document.servedInterfaces catalog).isEmpty then []
    else
      ["static const uint8_t* const hid_reports[] = \x7b"
          ++ joined ", " ((document.servedInterfaces catalog).map fun entry =>
            ReportTable.symbolOf entry.1) ++ "\x7d;",
        ""]
  /-- The source has this array in front of the callback, which returns the item of the array at the
  place of its argument, or nothing without an array. -/
  callback : document.reportInterfaces catalog ≠ [] →
    generated.servedArrayLines ++
      ["// Invoked when received GET HID REPORT DESCRIPTOR",
        "const uint8_t* tud_hid_descriptor_report_cb(uint8_t inst)",
        "\x7b"] ++
      (if (document.servedInterfaces catalog).isEmpty then ["\t(void)inst;", "\treturn NULL;"]
      else ["\treturn (inst < TU_ARRAY_SIZE(hid_reports)) ? hid_reports[inst] : NULL;"]) ++
      ["\x7d"] <:+: textLines generated.hidReports
  /-- Without tables there is neither. -/
  empty : document.reportInterfaces catalog = [] →
    textLines generated.hidReports = ["// none", ""]

/-- The array and the callback stand at the end of the source of the reports as they are. -/
theorem Generated.isInfix_reportCallback {generated : Generated}
    (nonempty : generated.reports ≠ []) :
    generated.servedArrayLines ++
      ["// Invoked when received GET HID REPORT DESCRIPTOR",
        "const uint8_t* tud_hid_descriptor_report_cb(uint8_t inst)",
        "\x7b"] ++
      generated.reportCallbackLines ++ ["\x7d"] <:+: textLines generated.hidReports := by
  have single : ∀ line ∈ generated.servedArrayLines ++
      ["// Invoked when received GET HID REPORT DESCRIPTOR",
        "const uint8_t* tud_hid_descriptor_report_cb(uint8_t inst)",
        "\x7b"] ++
      generated.reportCallbackLines ++ ["\x7d"], SingleLine line := by
    simp only [List.forall_mem_append]
    refine ⟨⟨⟨?_, by decide⟩, ?_⟩, by decide⟩
    · exact fun line mem => (@isSourceLine_servedArrayLines _ (fun _ => True) line mem).1
    · unfold reportCallbackLines
      split
      · decide
      · decide
  rw [hidReports, if_neg (by simpa using nonempty)]
  refine isInfix_textLines_of_single ?_ single
  simp only [List.append_assoc]
  exact ((List.suffix_append _ _).trans (List.suffix_append _ _)).isInfix

namespace Generated.Registered

variable {generated : Generated} {document : Document} {catalog : Catalog}
  {groups : List (List ClassEntry)} {hosts : List ClassEntry}

/-- The objects of the first device stand in front of all others. -/
theorem exists_own (registered : generated.Registered document catalog groups hosts)
    {device : String × Device} (first : device ∈ document.devices.head?) :
    ∃ own others, groups = own ++ others ∧
      List.Forall₂ (fun entry group => entry.2.Objects catalog group) device.2.configurations own ∧
      document.allConfigurations = device.2.configurations ++
        (document.devices.tail.flatMap fun device => device.2.configurations) ∧
      List.Forall₂ (fun entry group => entry.2.Objects catalog group)
        (document.devices.tail.flatMap fun device => device.2.configurations) others := by
  have split : document.devices = device :: document.devices.tail :=
    (List.cons_head?_tail first).symm
  have configurations : document.allConfigurations = device.2.configurations ++
      document.devices.tail.flatMap fun device => device.2.configurations := by
    rw [Document.allConfigurations]
    conv_lhs => rw [split, List.flatMap_cons]
  have objects := registered.groups
  rw [configurations] at objects
  have own := List.forall₂_take_append _ _ _ objects.flip
  have others := List.forall₂_drop_append _ _ _ objects.flip
  exact ⟨_, _, (List.take_append_drop _ groups).symm, own.flip, configurations, others.flip⟩

/-- An interface of the first device is a HID instance of the number under which its table is
served. -/
theorem isInstance_iff (registered : generated.Registered document catalog groups hosts)
    (hid : catalog.ReportsAreHid) (distinct : (document.allInterfaces.map Prod.fst).Nodup)
    (single : ∀ device ∈ document.devices, (device.2.configurations.filter fun entry =>
      entry.2.carriesReports catalog).length ≤ 1)
    {device : String × Device} (first : device ∈ document.devices.head?)
    {configuration : String × Configuration}
    (configurationMem : configuration ∈ device.2.configurations)
    {interface : String × Interface} (interfaceMem : interface ∈ configuration.2.interfaces)
    {instanceNumber : Nat} :
    ({ scope := "HID", tag := interface.1, host := false, ordinal := instanceNumber } :
        ClassEntry) ∈ generated.registry.entries ↔
      (generated.served[instanceNumber]?).map ReportTable.tag = some interface.1 := by
  rcases registered.exists_own first with ⟨own, others, rfl, owned, configurations, foreign⟩
  have servedInterfaces : document.servedInterfaces catalog =
      device.2.reportInterfaces catalog := by
    rw [Document.servedInterfaces, ← List.cons_head?_tail first]
  have hidOwn := ClassEntry.filter_scope_flatten hid owned (single device (List.mem_of_mem_head? first))
  have place : (generated.served[instanceNumber]?).map ReportTable.tag =
      ((device.2.reportInterfaces catalog).map Prod.fst)[instanceNumber]? := by
    rw [← List.getElem?_map, ReportTable.map_tag_of_tables registered.served, servedInterfaces]
  rw [place, ← ClassEntry.mem_hidObjects_iff, Device.reportInterfaces, ← hidOwn,
    registered.registry, List.flatten_append]
  simp only [List.mem_append, List.mem_filter, decide_true, and_true]
  constructor
  · rintro ((ownMem | foreignMem) | hostMem)
    · exact ownMem
    · -- The tag would stand in two devices.
      have ownTag : interface.1 ∈
          (device.2.configurations.flatMap fun entry => entry.2.interfaces).map Prod.fst :=
        List.mem_map.mpr ⟨interface,
          List.mem_flatMap.mpr ⟨configuration, configurationMem, interfaceMem⟩, rfl⟩
      have foreignTag : interface.1 ∈ ((document.devices.tail.flatMap
          fun device => device.2.configurations).flatMap fun entry => entry.2.interfaces).map
            Prod.fst := by
        rw [← ClassEntry.map_tag_of_objects foreign]
        exact List.mem_map.mpr ⟨_, foreignMem, rfl⟩
      rw [Document.allInterfaces, configurations, List.flatMap_append, List.map_append] at distinct
      exact absurd rfl ((List.nodup_append.mp distinct).2.2 _ ownTag _ foreignTag)
    · rcases Related.exists_left registered.hosts hostMem with ⟨_, -, -, isHost⟩
      exact absurd isHost Bool.false_ne_true
  · intro ownMem
    exact .inl (.inl ownMem)

end Generated.Registered

namespace Document

theorem interface_tags_of_read {catalog : Catalog} {text : String} {document : Document}
    (found : read catalog text = .ok document) :
    (document.allInterfaces.map fun entry => identifier entry.1).Nodup := by
  have parts := (interface_tags_sublist.map identifier).nodup (nodup_identifier_tags_of_read found)
  rwa [List.map_map] at parts

/-- A successful run on a document that is read against the built-in catalog serves the report table
of every HID instance of the first device under its instance number. -/
theorem servesReports_of_read {text : String} {document : Document} {generated : Generated}
    (found : read Catalog.builtin text = .ok document)
    (run : document.generate Catalog.builtin = .ok generated) :
    generated.ServesReports document Catalog.builtin := by
  rcases registered_of_generate run with ⟨groups, hosts, registered⟩
  have single := single_of_generate run
  have identifiers := interface_tags_of_read found
  have distinct : (document.allInterfaces.map Prod.fst).Nodup := by
    apply List.Nodup.of_map identifier
    rwa [List.map_map]
  have symbols := ReportTable.map_symbol_of_tables registered.served
  have unserved : generated.served.isEmpty =
      (document.servedInterfaces Catalog.builtin).isEmpty := by
    rw [← List.isEmpty_map (f := ReportTable.symbol), symbols, List.isEmpty_map]
  constructor
  case single => exact single
  case listed => exact registered.reports
  case served => exact registered.served
  case symbols =>
    have reported : ((document.reportInterfaces Catalog.builtin).map
        fun entry => identifier entry.1).Nodup := by
      refine List.Nodup.sublist (List.Sublist.map _ ?_) identifiers
      exact List.Sublist.flatMap_right _ fun entry _ => List.filter_sublist
    have symbols := reported.map (f := fun id => "desc_hid_report_" ++ id) fun _ _ same =>
      (String.append_right_inj _).mp same
    rw [List.map_map] at symbols
    rw [ReportTable.map_symbol_of_tables registered.reports]
    exact symbols
  case instances =>
    intro device first configuration configurationMem interface interfaceMem instanceNumber
    exact registered.isInstance_iff Catalog.reportsAreHid_builtin distinct single first
      configurationMem interfaceMem
  case array => rw [Generated.servedArrayLines, symbols, unserved]
  case callback =>
    intro reporting
    have inside := Generated.isInfix_reportCallback fun none => reporting <| by
      rw [← List.forall₂_nil_right_iff, ← none]
      exact registered.reports
    rw [Generated.reportCallbackLines, unserved] at inside
    exact inside
  case empty =>
    intro none
    have unlisted : generated.reports = [] := by
      rw [← List.forall₂_nil_left_iff, ← none]
      exact registered.reports
    rw [Generated.hidReports, unlisted, List.isEmpty_nil, if_pos rfl]
    decide

/-- A keyboard and a pointer in one configuration. -/
def inputsValue : Value :=
  let interfaces : Value := .object [
    ("keys", .object [("template", .string "hid"), ("reports", .array [.string "keyboard"])]),
    ("pointer", .object [("template", .string "hid_inout"), ("reports", .array [.string "mouse"])])]
  let configurations : Value := .object [("config1", .object [("interfaces", interfaces)])]
  .object [("devices", .object [("dev0", .object [
    ("vendor", .number (.integer 1)), ("configurations", configurations)])])]

theorem runs_inputsValue : ∃ document generated,
    read Catalog.builtin inputsValue.compact = .ok document ∧
      document.generate Catalog.builtin = .ok generated := by
  have success : (read Catalog.builtin inputsValue.compact >>= fun document =>
      document.generate Catalog.builtin).isOk = true := by decide +kernel
  rcases outcome_isOk_iff.mp success with ⟨generated, ran⟩
  rcases outcome_bind_iff.mp ran with ⟨document, found, run⟩
  exact ⟨document, generated, found, run⟩

theorem servesReports_inputsValue : ∃ document generated,
    read Catalog.builtin inputsValue.compact = .ok document ∧
      document.generate Catalog.builtin = .ok generated ∧
      generated.ServesReports document Catalog.builtin := by
  rcases runs_inputsValue with ⟨document, generated, found, run⟩
  exact ⟨document, generated, found, run, servesReports_of_read found run⟩

end Document

end UsbDescriptors
