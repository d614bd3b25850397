import UsbDescriptors.Generated
import UsbDescriptors.Proofs.Outcomes

/-!
# Steps

Planning, evaluation and generation are sequences of steps that may fail. This file takes a
successful sequence apart: every step of it was successful, and each one started where the step
before it had ended. There is one equivalence for every step that touches the registers; the theory
of runs unfolds no step by any other way. An evaluation that fails leaves its registers as they
were before the step that failed.
-/

namespace UsbDescriptors

variable {α : Type}

namespace Planning

theorem lift_ok_iff {outcome : Except Fault α} {result : α} {before after : List Event} :
    lift outcome before = .ok result after ↔ outcome = .ok result ∧ before = after := by
  cases outcome with
  | ok value => simp [lift]
  | error fault => simp [lift]

theorem report_ok_iff {event : Event} {result : Unit} {before after : List Event} :
    report event before = .ok result after ↔ before ++ [event] = after := by
  simp [report]

end Planning

namespace Evaluation

theorem lift_ok_iff {outcome : Except Fault α} {result : α} {before after : Registers} :
    lift outcome before = .ok result after ↔ outcome = .ok result ∧ before = after := by
  cases outcome with
  | ok value => simp [lift]
  | error fault => simp [lift]

theorem lift_error_iff {outcome : Except Fault α} {fault : Fault} {before after : Registers} :
    lift outcome before = .error fault after ↔ outcome = .error fault ∧ before = after := by
  cases outcome with
  | ok value => simp [lift]
  | error other => simp [lift]

theorem addString_ok_iff {owner : String} {string : String × Option String} {id : String}
    {before after : Registers} :
    addString owner string before = .ok id after ↔
      ∃ strings, before.strings.add owner string.1 string.2 = .ok (id, strings) ∧
        { before with strings } = after := by
  unfold addString
  cases before.strings.add owner string.1 string.2 with
  | ok added => simp [Prod.ext_iff, and_assoc]
  | error fault => simp

/-- A string that is refused leaves the registers as they were. -/
theorem addString_error_iff {owner : String} {string : String × Option String} {fault : Fault}
    {before after : Registers} :
    addString owner string before = .error fault after ↔
      before.strings.add owner string.1 string.2 = .error fault ∧ before = after := by
  unfold addString
  cases before.strings.add owner string.1 string.2 with
  | ok added => simp
  | error other => simp

theorem allocate_ok_iff {tag symbol : String} {direction : Direction} {endpoint : Endpoint}
    {before after : Registers} :
    allocate tag direction symbol before = .ok endpoint after ↔
      endpoint = { symbol, address := (before.endpoints.allocate direction).1 } ∧
        after = { before with
          endpoints := (before.endpoints.allocate direction).2
          events := before.events ++ [.endpoint tag endpoint] } := by
  simp only [allocate, EStateM.Result.ok.injEq]
  constructor
  · rintro ⟨rfl, rfl⟩
    exact ⟨rfl, rfl⟩
  · rintro ⟨rfl, rfl⟩
    exact ⟨rfl, rfl⟩

theorem recordGlobal_ok_iff {name value tag : String} {result : Unit}
    {before after : Registers} :
    recordGlobal name value tag before = .ok result after ↔
      ∃ globals, before.globals.record name value tag = .ok globals ∧
        { before with globals } = after := by
  unfold recordGlobal
  cases before.globals.record name value tag with
  | ok globals => simp
  | error fault => simp

theorem recordGlobal_error_iff {name value tag : String} {fault : Fault}
    {before after : Registers} :
    recordGlobal name value tag before = .error fault after ↔
      before.globals.record name value tag = .error fault ∧ before = after := by
  unfold recordGlobal
  cases before.globals.record name value tag with
  | ok globals => simp
  | error other => simp

end Evaluation

namespace Generation

theorem evaluation_ok_iff {step : Evaluation α} {result : α} {before after : Session} :
    evaluation step before = .ok result after ↔
      ∃ registers, step before.registers = .ok result registers ∧
        { before with registers } = after := by
  unfold evaluation
  cases step before.registers with
  | ok value registers => simp [and_assoc]
  | error fault registers => simp

theorem planning_ok_iff {step : Planning α} {result : α} {before after : Session} :
    planning step before = .ok result after ↔
      ∃ events, step before.registers.events = .ok result events ∧
        { before with registers := { before.registers with events } } = after := by
  simp only [planning]
  cases step before.registers.events with
  | ok value events => simp [and_assoc]
  | error fault events => simp

theorem change_ok_iff {update : Session → Session} {result : Unit} {before after : Session} :
    change update before = .ok result after ↔ update before = after := by
  simp [change]

theorem report_ok_iff {event : Event} {result : Unit} {before after : Session} :
    report event before = .ok result after ↔
      { before with
        registers := { before.registers with events := before.registers.events ++ [event] } } =
          after := by
  simp [report, planning_ok_iff, Planning.report_ok_iff]

theorem restartEndpoints_ok_iff {result : Unit} {before after : Session} :
    restartEndpoints before = .ok result after ↔
      { before with registers := { before.registers with endpoints := .fresh } } = after := by
  refine evaluation_ok_iff.trans ?_
  simp

/-- The check at the end of a configuration is passed if the endpoint numbers fit, and it changes
nothing. -/
theorem finishEndpoints_ok_iff {tag : String} {result : Unit} {before after : Session} :
    finishEndpoints tag before = .ok result after ↔
      before.registers.endpoints.slots ≤ EndpointAllocator.maxSlots ∧ before = after := by
  refine evaluation_ok_iff.trans ?_
  simp only [EndpointAllocator.finish]
  by_cases exceeded : EndpointAllocator.maxSlots < before.registers.endpoints.slots
  · simp [exceeded, Nat.not_le.mpr exceeded]
  · simp [exceeded, Nat.not_lt.mp exceeded]

/-- A successful run plans everything, generates the devices, and then enters the host sections. -/
theorem document_steps {catalog : Catalog} {content : Document} {generated : Generated}
    {before after : Session} (run : document catalog content before = .ok generated after) :
    ∃ plans events announced devices servedReports middle,
      planDocument catalog content before.registers.events = .ok plans events ∧
      announce plans { before with registers := { before.registers with events } } =
        .ok () announced ∧
      servedDevices plans announced = .ok (devices, servedReports) middle ∧
      hosts catalog content.hosts middle = .ok () after ∧
      generated = {
        devices, servedReports
        reports := after.reports
        strings := after.registers.strings
        globals := after.registers.globals
        counts := after.counts
        registry := after.registry
        deviceEnabled := !content.devices.isEmpty
        hostEnabled := !content.hosts.isEmpty } := by
  simp only [document, step_bind_iff, planning_ok_iff] at run
  rcases run with ⟨plans, _, ⟨events, planned, rfl⟩, _, announced, announcing,
    ⟨devices, servedReports⟩, middle, made, ending⟩
  rcases step_bind_iff.mp ending with ⟨_, last, hosted, finished⟩
  cases finished
  exact ⟨plans, events, announced, devices, servedReports, middle, planned, announcing, made,
    hosted, rfl⟩

end Generation

namespace Document

variable {document : Document} {catalog : Catalog}

/-- A document is generated by a run that starts with nothing. -/
theorem generate_ok_iff {generated : Generated} :
    document.generate catalog = .ok generated ↔
      ∃ session, Generation.document catalog document {} = .ok generated session := by
  unfold generate generateWithEvents
  cases Generation.document catalog document {} with
  | ok result session => simp
  | error fault session => simp

theorem generate_error_iff {fault : Fault} :
    document.generate catalog = .error fault ↔
      ∃ session, Generation.document catalog document {} = .error fault session := by
  unfold generate generateWithEvents
  cases Generation.document catalog document {} with
  | ok result session => simp
  | error other session => simp

end Document

end UsbDescriptors
