import UsbDescriptors.Proofs.Related
import UsbDescriptors.Proofs.Strings.Tables

/-!
# Evaluations of interfaces

A successful evaluation enters the arguments of all fields, records the global defines, and gives
an interface that is made of these and of the template alone. Strings and global defines leave the
endpoint numbers untouched.
-/

namespace UsbDescriptors

/-- What a field makes of an interface: a fixed text, an endpoint in the direction that the name of
the field tells, or the strings or the text that an expression becomes. -/
theorem ResolvedInterface.argument_ok {interface : ResolvedInterface} {context : Context}
    {field : Field} {argument : Argument} (found : interface.argument context field = .ok argument) :
    (∃ value, field.source = .literal value ∧ argument = .text value.plainText) ∨
    (∃ direction, field.source = .endpoint ∧ Direction.ofFieldName? field.name = some direction ∧
      argument = .endpoint direction (endpointSymbol interface.tag field.name)) ∨
    (∃ expression text, field.source = .string expression ∧
      substitute context expression = .ok text ∧ argument = stringArgument field.name text) ∨
    ∃ expression text, field.source = .text expression ∧
      substitute context expression = .ok text ∧ argument = .text text := by
  unfold ResolvedInterface.argument at found
  cases source : field.source with
  | literal value =>
      rw [source] at found
      exact Or.inl ⟨value, rfl, (Except.ok.inj found).symm⟩
  | endpoint =>
      rw [source] at found
      cases named : Direction.ofFieldName? field.name with
      | none => simp [named] at found
      | some direction =>
          simp only [named, Except.ok.injEq] at found
          exact Or.inr (Or.inl ⟨direction, rfl, rfl, found.symm⟩)
  | string expression =>
      rw [source] at found
      cases filled : substitute context expression with
      | error fault => simp [filled, Except.map] at found
      | ok text =>
          simp only [filled, Except.map, Except.ok.injEq] at found
          exact Or.inr (Or.inr (Or.inl ⟨expression, text, rfl, filled, found.symm⟩))
  | text expression =>
      rw [source] at found
      cases filled : substitute context expression with
      | error fault => simp [filled, Except.map] at found
      | ok text =>
          simp only [filled, Except.map, Except.ok.injEq] at found
          exact Or.inr (Or.inr (Or.inr ⟨expression, text, rfl, filled, found.symm⟩))

/-- What an argument of an interface is in the call of the macro. -/
def Argument.inCall (tag : String) : Argument → String
  | .text value => value
  | .endpoint _ symbol => symbol
  | .strings first _ => StringTable.symbol tag first.1

/-- The symbol of the endpoint that an argument asks for. -/
def Argument.endpointSymbol? : Argument → Option String
  | .endpoint _ symbol => some symbol
  | .text _ | .strings _ _ => none

namespace Evaluation

theorem addStrings_ok {owner : String} {strings : List (String × Option String)} {result : Unit}
    {before after : Registers} (run : addStrings owner strings before = .ok result after) :
    ∃ table, after = { before with strings := table } := by
  induction strings generalizing before with
  | nil =>
      rcases step_pure_iff.mp run with ⟨-, rfl⟩
      exact ⟨before.strings, rfl⟩
  | cons string rest ih =>
      simp only [addStrings, step_bind_iff, addString_ok_iff] at run
      rcases run with ⟨_, _, ⟨_, -, rfl⟩, others⟩
      rcases ih others with ⟨table, rfl⟩
      exact ⟨table, rfl⟩

theorem enter_ok {tag : String} {argument : Argument} {entered : String × Option Endpoint}
    {before after : Registers} (run : enter tag argument before = .ok entered after) :
    entered.1 = argument.inCall tag ∧
      entered.2.map Endpoint.symbol = argument.endpointSymbol? := by
  cases argument with
  | text value =>
      rcases step_pure_iff.mp run with ⟨rfl, -⟩
      exact ⟨rfl, rfl⟩
  | endpoint direction symbol =>
      simp only [enter, step_bind_iff, step_pure_iff, allocate_ok_iff] at run
      rcases run with ⟨_, _, ⟨rfl, -⟩, rfl, -⟩
      exact ⟨rfl, rfl⟩
  | strings first rest =>
      simp only [enter, step_bind_iff, step_pure_iff, addString_ok_iff] at run
      rcases run with ⟨id, _, ⟨_, added, -⟩, _, _, -, rfl, -⟩
      exact ⟨(StringTable.add_ok added).1, rfl⟩

/-- Entering a field: its argument is found first, and the others follow. -/
theorem enterFields_cons_ok {interface : ResolvedInterface} {context : Context} {field : Field}
    {rest : List Field} {all : List (String × Option Endpoint)} {before after : Registers}
    (run : enterFields interface context (field :: rest) before = .ok all after) :
    ∃ argument entered middle others,
      interface.argument context field = .ok argument ∧
      enter interface.tag argument before = .ok entered middle ∧
      enterFields interface context rest middle = .ok others after ∧
      all = entered :: others := by
  simp only [enterFields, step_bind_iff, step_pure_iff, lift_ok_iff] at run
  rcases run with ⟨argument, _, ⟨found, rfl⟩, entered, middle, first, others, _, more, rfl, rfl⟩
  exact ⟨argument, entered, middle, others, found, first, more, rfl⟩

/-- The fields are entered one by one, each as what its argument is in the call. -/
theorem related_of_enterFields {interface : ResolvedInterface} {context : Context}
    {fields : List Field} {all : List (String × Option Endpoint)} {before after : Registers}
    (run : enterFields interface context fields before = .ok all after) :
    List.Forall₂ (fun field entered => ∃ argument,
      interface.argument context field = .ok argument ∧
        entered.1 = argument.inCall interface.tag ∧
        entered.2.map Endpoint.symbol = argument.endpointSymbol?) fields all := by
  induction fields generalizing all before with
  | nil =>
      rcases step_pure_iff.mp run with ⟨rfl, -⟩
      exact .nil
  | cons field rest ih =>
      rcases enterFields_cons_ok run with
        ⟨argument, entered, middle, others, found, first, more, rfl⟩
      exact .cons ⟨argument, found, enter_ok first⟩ (ih more)

end Evaluation

namespace ResolvedInterface

theorem recordGlobals_ok {tag : String} {defines : List (String × String)} {result : Unit}
    {before after : Registers} (run : recordGlobals tag defines before = .ok result after) :
    ∃ globals, after = { before with globals } := by
  induction defines generalizing before with
  | nil =>
      rcases step_pure_iff.mp run with ⟨-, rfl⟩
      exact ⟨before.globals, rfl⟩
  | cons define rest ih =>
      simp only [recordGlobals, step_bind_iff, Evaluation.recordGlobal_ok_iff] at run
      rcases run with ⟨_, _, ⟨_, -, rfl⟩, others⟩
      rcases ih others with ⟨globals, rfl⟩
      exact ⟨globals, rfl⟩

/-- A successful evaluation: all fields are entered, then the global defines are recorded. -/
theorem evaluate_ok {interface : ResolvedInterface} {device configuration : String}
    {evaluated : EvaluatedInterface} {before after : Registers}
    (run : interface.evaluate device configuration before = .ok evaluated after) :
    ∃ entered middle descriptor length,
      Evaluation.enterFields interface (interface.context device configuration)
        interface.template.fields before = .ok entered middle ∧
      recordGlobals interface.tag interface.globalDefines middle = .ok () after ∧
      substitute (interface.context device configuration) interface.template.descriptor =
        .ok descriptor ∧
      substitute (interface.context device configuration) interface.template.length =
        .ok length ∧
      evaluated = {
        tag := interface.tag
        className := interface.template.className
        scope := interface.template.scopeName
        descriptor
        arguments := entered.map Prod.fst
        length
        interfaceNumbers := interface.interfaceNumbers
        endpoints := entered.filterMap Prod.snd } := by
  simp only [evaluate, step_bind_iff, step_pure_iff, Evaluation.lift_ok_iff] at run
  rcases run with ⟨entered, middle, fields, _, _, recorded, descriptor, _, ⟨named, rfl⟩, length, _,
    ⟨measured, rfl⟩, rfl, rfl⟩
  exact ⟨entered, middle, descriptor, length, fields, recorded, named, measured, rfl⟩

end ResolvedInterface

end UsbDescriptors
