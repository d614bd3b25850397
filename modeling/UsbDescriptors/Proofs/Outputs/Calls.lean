import UsbDescriptors.Proofs.Outputs.CallReading
import UsbDescriptors.Proofs.Outputs.Symbols
import UsbDescriptors.Proofs.Runs.Registration

/-!
# Calls of descriptor macros

The descriptor of an interface is the call of a macro, and its arguments hold texts that are made of
values of a document. These values have no say in how the call is read. Whether the arguments of a
template can be read back is a property of the template: its expressions balance, and they refer
only to variables whose values hold no parentheses, no commas and no line feeds, whatever is given
for them. An expression is followed by the depth of its parentheses; a value does not change it.
-/

namespace UsbDescriptors

open Json (Value)
open Expression (pieces)

section Values

/-- Numbers and truth values are arguments. -/
theorem plainArgument_scalar {value : Value} (scalar : PropertyKind.scalar.accepts value = true) :
    PlainArgument value.plainText := by
  cases value with
  | boolean value => cases value <;> exact ⟨⟨_, rfl, by decide⟩, by decide⟩
  | number number =>
      have written : (Value.number number).plainText.toList = number.write := by
        simp [Value.plainText, Value.compact, Value.write]
      have plain : ∀ c ∈ number.write, isPlainChar c = true ∧ c ≠ ' ' := fun c mem =>
        isPlainChar_of_isNumberChar (number.isNumberChar_write c mem)
      constructor
      · rw [written]
        rcases List.exists_cons_of_ne_nil number.write_ne_nil with ⟨first, rest, split⟩
        rw [split] at plain ⊢
        exact ⟨first, rfl, (plain first List.mem_cons_self).2⟩
      · intro c mem
        rw [written] at mem
        exact (plain c mem).1
  | _ => cases scalar

/-- Flags behind a plain start are arguments, whatever the items are. -/
theorem plainArgument_flagMask {start : String} (argument : PlainArgument start)
    (items : List Value) : PlainArgument (flagMask start items) := by
  have flags : ∀ flag ∈ (itemIdentifiers items).map fun id => start ++ id, PlainArgument flag := by
    simp only [itemIdentifiers, List.map_map]
    refine List.forall_mem_map.mpr fun item _ => ?_
    exact argument.append (plainText_of_identifierTail (identifierTail_identifier _))
  unfold flagMask
  cases items with
  | nil => exact (⟨⟨'0', by decide, by decide⟩, by decide⟩ : PlainArgument "0")
  | cons first rest =>
      constructor
      · have front : ∃ more, joined " | " ((itemIdentifiers (first :: rest)).map
            fun id => start ++ id) = start ++ more := by
          simp only [itemIdentifiers, List.map_cons, joined]
          exact ⟨_, String.intercalate_cons_append⟩
        rcases front with ⟨more, written⟩
        rcases argument.starts with ⟨c, head, other⟩
        exact ⟨c, written ▸ head?_append head more, other⟩
      · refine joined_induction (by decide) (fun flag mem => (flags flag mem).plain) ?_
        intro left right plain others
        exact plainText_append.mpr ⟨plainText_append.mpr ⟨plain, by decide⟩, others⟩

end Values

namespace Expression

/-- Whether the parentheses of an expression balance, from a depth on, and no comma stands outside
of them, when references stand for plain texts. -/
def closes : (depth : Nat) → List Piece → Bool
  | depth, [] => depth = 0
  | depth, .reference _ :: rest => closes depth rest
  | depth, .literal c :: rest => (depthBehind? depth c).any fun next => closes next rest

variable {context : Context} {depth : Nat} {parts : List Piece} {filled rest : List Char}

/-- The values of references do not change how an expression is taken apart. -/
theorem outerParts?_of_closes (closed : closes depth parts = true)
    (plain : ∀ key, .reference key ∈ parts → ∀ value,
      context.get? (String.ofList key) = some value → PlainText value)
    (run : context.fill parts = .ok filled) :
    outerParts? depth (filled ++ rest) = putInFront filled (outerParts? 0 rest) := by
  induction parts generalizing depth filled with
  | nil =>
      cases run
      have balanced : depth = 0 := by simpa [closes] using closed
      rw [balanced, List.nil_append, putInFront_nil]
  | cons piece more ih =>
      have behind := fun key mem => plain key (List.mem_cons_of_mem piece mem)
      cases piece with
      | literal c =>
          rcases (Option.any_eq_true _ _).mp closed with ⟨next, goes, continued⟩
          rcases Context.fill_literal_ok run with ⟨others, later, rfl⟩
          rw [List.cons_append, outerParts?_cons goes, ih continued behind later]
          exact putInFront_putInFront [c] others _
      | reference key =>
          rcases Context.fill_reference_ok run with ⟨value, others, found, later, rfl⟩
          have own := plain key List.mem_cons_self value found
          rw [List.append_assoc, outerParts?_plain own, ih closed behind later]
          exact putInFront_putInFront value.toList others _

/-- A filled expression is written with the characters of its literals and of its values. -/
theorem forall_mem_of_fill {kind : Char → Prop} (literals : ∀ c, .literal c ∈ parts → kind c)
    (values : ∀ key, .reference key ∈ parts → ∀ value,
      context.get? (String.ofList key) = some value → ∀ c ∈ value.toList, kind c)
    (run : context.fill parts = .ok filled) : ∀ c ∈ filled, kind c := by
  induction parts generalizing filled with
  | nil =>
      cases run
      exact List.forall_mem_nil _
  | cons piece more ih =>
      have later := fun others => @ih others
        (fun c mem => literals c (List.mem_cons_of_mem piece mem))
        (fun key mem => values key (List.mem_cons_of_mem piece mem))
      cases piece with
      | literal c =>
          rcases Context.fill_literal_ok run with ⟨others, rest, rfl⟩
          exact List.forall_mem_cons.mpr ⟨literals c List.mem_cons_self, later others rest⟩
      | reference key =>
          rcases Context.fill_reference_ok run with ⟨value, others, found, rest, rfl⟩
          exact List.forall_mem_append.mpr
            ⟨values key List.mem_cons_self value found, later others rest⟩

end Expression

section Templates

/-- The variables of a property whose values are arguments by themselves. -/
def Property.wholeVariables (entry : String × Property) : List String :=
  match entry.2.kind with
  | .scalar => [entry.1]
  | .array => if PlainArgument (entry.2.mask.getD "") then [entry.1 ++ ".mask"] else []
  | .string => []

/-- The variables of a property whose values can stand in an argument. -/
def Property.plainVariables (entry : String × Property) : List String :=
  match entry.2.kind with
  | .string => [entry.1 ++ ".id"]
  | _ => wholeVariables entry

namespace Template

def wholeVariables (template : Template) : List String :=
  "itfnum" :: template.properties.flatMap Property.wholeVariables

def plainVariables (template : Template) : List String :=
  "itfnum" :: "tag.id" :: template.properties.flatMap Property.plainVariables

end Template

/-- Whether a piece of an expression can stand in an argument. -/
def Piece.fitsArgument (template : Template) : Piece → Bool
  | .literal c => isPrintableAscii c
  | .reference key => decide (String.ofList key ∈ template.plainVariables)

/-- Whether an argument can start with a piece. -/
def Piece.startsArgument (template : Template) : Piece → Bool
  | .literal c => c ≠ ' '
  | .reference key => decide (String.ofList key ∈ template.wholeVariables)

/-- An expression that makes one argument of whatever its variables stand for. -/
@[mk_iff]
structure Expression.MakesArgument (template : Template) (expression : String) : Prop where
  closes : closes 0 (pieces expression.toList) = true
  fits : (pieces expression.toList).all (Piece.fitsArgument template) = true
  starts : (pieces expression.toList).head?.any (Piece.startsArgument template) = true

instance (template : Template) (expression : String) :
    Decidable (Expression.MakesArgument template expression) :=
  decidable_of_iff' _ (Expression.makesArgument_iff template expression)

namespace FieldSource

/-- A source that makes one argument of whatever a document gives. -/
def MakesArgument (template : Template) : FieldSource → Prop
  | .literal value => PropertyKind.scalar.accepts value = true
  | .endpoint | .string _ => True
  | .text expression => Expression.MakesArgument template expression

instance (template : Template) : (source : FieldSource) → Decidable (source.MakesArgument template)
  | .literal _ => inferInstanceAs (Decidable (_ = true))
  | .endpoint => inferInstanceAs (Decidable True)
  | .string _ => inferInstanceAs (Decidable True)
  | .text expression => inferInstanceAs (Decidable (Expression.MakesArgument template expression))

end FieldSource

/-- A template that calls a macro with at least one argument, all of them made in this way. -/
@[mk_iff]
structure Template.MakesCall (template : Template) : Prop where
  descriptor : isCIdentifier template.descriptor = true
  nonempty : template.fields ≠ []
  fields : ∀ field ∈ template.fields, field.source.MakesArgument template
  distinct : template.variables.Nodup
  properties : template.properties.keys.Nodup

instance (template : Template) : Decidable template.MakesCall :=
  decidable_of_iff' _ template.makesCall_iff

theorem Catalog.makesCall_builtin : ∀ entry ∈ builtin.templates, entry.2.MakesCall := by
  decide +kernel

end Templates

namespace ResolvedInterface

variable {interface : ResolvedInterface} {device configuration name value : String}

/-- The variables that a property defines have the values that come with its own. -/
theorem exists_get?_property (kinds : interface.HasKinds)
    (makes : interface.template.MakesCall) {property : String × Property}
    (mem : property ∈ interface.template.properties) :
    ∃ given, property.2.kind.accepts given = true ∧
      ∀ entry ∈ (property.1, given.plainText) ::
        Context.derived property.1 property.2.mask given,
          (interface.context device configuration).get? entry.1 = some entry.2 := by
  rcases exists_value kinds mem with ⟨given, givenMem, accepted⟩
  refine ⟨given, accepted, fun entry entryMem => ?_⟩
  apply get?_context kinds makes.distinct
  exact List.mem_append_right _ (mem_propertyVariables makes.properties mem givenMem entryMem)

theorem plainArgument_of_property (kinds : interface.HasKinds)
    (makes : interface.template.MakesCall) {property : String × Property}
    (mem : property ∈ interface.template.properties)
    (nameMem : name ∈ Property.wholeVariables property)
    (defined : (interface.context device configuration).get? name = some value) :
    PlainArgument value := by
  rcases @exists_get?_property _ device configuration kinds makes _ mem with
    ⟨given, accepted, values⟩
  unfold Property.wholeVariables at nameMem
  cases kind : property.2.kind with
  | string => simp [kind] at nameMem
  | scalar =>
      simp only [kind, List.mem_singleton] at nameMem
      rw [kind] at accepted
      have own := values _ List.mem_cons_self
      rw [nameMem, own] at defined
      exact Option.some.inj defined ▸ plainArgument_scalar accepted
  | array =>
      simp only [kind] at nameMem
      rw [kind] at accepted
      split at nameMem
      next start =>
        rw [List.mem_singleton] at nameMem
        cases given with
        | array items =>
            have own := values (property.1 ++ ".mask", flagMask (property.2.mask.getD "") items)
              (by simp [Context.derived])
            rw [nameMem, own] at defined
            exact Option.some.inj defined ▸ plainArgument_flagMask start items
        | _ => cases accepted
      next => cases nameMem

theorem plainText_of_property (kinds : interface.HasKinds)
    (makes : interface.template.MakesCall) {property : String × Property}
    (mem : property ∈ interface.template.properties)
    (nameMem : name ∈ Property.plainVariables property)
    (defined : (interface.context device configuration).get? name = some value) :
    PlainText value := by
  unfold Property.plainVariables at nameMem
  split at nameMem
  next kind =>
    rw [List.mem_singleton] at nameMem
    rcases @exists_get?_property _ device configuration kinds makes _ mem with
      ⟨given, accepted, values⟩
    rw [kind] at accepted
    cases given with
    | string text =>
        have own := values (property.1 ++ ".id", identifier text) (by simp [Context.derived])
        rw [nameMem, own] at defined
        exact Option.some.inj defined ▸ plainText_of_identifierTail (identifierTail_identifier text)
    | _ => cases accepted
  next => exact (plainArgument_of_property kinds makes mem nameMem defined).plain

theorem get?_own (kinds : interface.HasKinds) (makes : interface.template.MakesCall)
    (mem : (name, value) ∈ interface.ownVariables device configuration) :
    (interface.context device configuration).get? name = some value :=
  get?_context kinds makes.distinct (List.mem_append_left _ mem)

theorem isName_interfaceSymbol (tag : String) : IsName (interfaceSymbol tag) :=
  IsName.append ⟨by decide, by decide⟩ (identifierTail_identifier tag)

/-- Whatever a document gives, the whole variables of a template are arguments. -/
theorem plainArgument_of_whole (kinds : interface.HasKinds)
    (makes : interface.template.MakesCall) (mem : name ∈ interface.template.wholeVariables)
    (defined : (interface.context device configuration).get? name = some value) :
    PlainArgument value := by
  rcases List.mem_cons.mp mem with rfl | own
  · have own := @get?_own _ device configuration "itfnum" (interfaceSymbol interface.tag) kinds
      makes (by simp [ownVariables])
    rw [own] at defined
    exact Option.some.inj defined ▸ (isName_interfaceSymbol interface.tag).plainArgument
  · rcases List.mem_flatMap.mp own with ⟨property, propertyMem, nameMem⟩
    exact plainArgument_of_property kinds makes propertyMem nameMem defined

/-- Whatever a document gives, the plain variables of a template take no part in the shape of a
call. -/
theorem plainText_of_plain (kinds : interface.HasKinds)
    (makes : interface.template.MakesCall) (mem : name ∈ interface.template.plainVariables)
    (defined : (interface.context device configuration).get? name = some value) :
    PlainText value := by
  rcases List.mem_cons.mp mem with rfl | other
  · exact (plainArgument_of_whole kinds makes List.mem_cons_self defined).plain
  rcases List.mem_cons.mp other with rfl | own
  · have own := @get?_own _ device configuration "tag.id" (identifier interface.tag) kinds makes
      (by simp [ownVariables])
    rw [own] at defined
    exact Option.some.inj defined ▸ plainText_of_identifierTail (identifierTail_identifier _)
  · rcases List.mem_flatMap.mp own with ⟨property, propertyMem, nameMem⟩
    exact plainText_of_property kinds makes propertyMem nameMem defined

/-- An expression that makes an argument makes one of all values. -/
theorem isArgument_of_substitute {expression text : String} (kinds : interface.HasKinds)
    (makes : interface.template.MakesCall)
    (makesArgument : Expression.MakesArgument interface.template expression)
    (filled : substitute (interface.context device configuration) expression = .ok text) :
    IsArgument text := by
  rw [substitute_eq_ok_iff] at filled
  have fits := List.all_eq_true.mp makesArgument.fits
  have plain : ∀ key, .reference key ∈ pieces expression.toList → ∀ value,
      (interface.context device configuration).get? (String.ofList key) = some value →
        PlainText value :=
    fun key mem value defined =>
      plainText_of_plain kinds makes (of_decide_eq_true (fits _ mem)) defined
  constructor
  · have starts := makesArgument.starts
    cases parts : pieces expression.toList with
    | nil => simp [parts] at starts
    | cons piece rest =>
        rw [parts] at filled starts
        cases piece with
        | literal c =>
            rcases Context.fill_literal_ok filled with ⟨others, -, written⟩
            rw [written]
            exact ⟨c, rfl, of_decide_eq_true starts⟩
        | reference key =>
            rcases Context.fill_reference_ok filled with ⟨value, others, found, -, written⟩
            have whole := plainArgument_of_whole kinds makes (of_decide_eq_true starts) found
            rcases whole.starts with ⟨c, head, other⟩
            rw [written, ← String.toList_ofList (l := others), ← String.toList_append]
            exact ⟨c, head?_append head _, other⟩
  · exact Expression.forall_mem_of_fill (fun c mem => fits _ mem)
      (fun key mem value defined c inside =>
        isPrintableAscii_of_plain (plain key mem value defined c inside)) filled
  · exact fun rest => Expression.outerParts?_of_closes makesArgument.closes plain filled

/-- Every argument that a template makes of an interface is an argument of its call. -/
theorem isArgument_of_argument (kinds : interface.HasKinds) (makes : interface.template.MakesCall)
    {field : Field} (mem : field ∈ interface.template.fields) {argument : Argument}
    (found : interface.argument (interface.context device configuration) field = .ok argument) :
    IsArgument (argument.inCall interface.tag) := by
  have source := makes.fields field mem
  rcases argument_ok found with ⟨given, literal, rfl⟩ | ⟨direction, endpoint, -, rfl⟩ |
    ⟨expression, text, string, -, rfl⟩ | ⟨expression, text, own, filled, rfl⟩
  · rw [literal] at source
    exact (plainArgument_scalar source).isArgument
  · have prefixed : IsName "EPNUM_" := ⟨by decide, by decide⟩
    have named : IsName (endpointSymbol interface.tag field.name) :=
      ((prefixed.append (identifierTail_identifier _)).append (by decide)).append
        (identifierTail_identifier _)
    exact named.plainArgument.isArgument
  · have prefixed : IsName "STRING_INDEX_" := ⟨by decide, by decide⟩
    have named : IsName (StringTable.symbol interface.tag field.name) :=
      ((prefixed.append (identifierTail_identifier _)).append (by decide)).append
        (identifierTail_identifier _)
    rw [inCall_stringArgument]
    exact named.plainArgument.isArgument
  · rw [own] at source
    exact isArgument_of_substitute kinds makes source filled

end ResolvedInterface

/-- What the descriptor of an interface is, as it is read: a line that calls the macro of the
template with one argument for every field, in the order of the fields. None of them is empty. -/
structure EvaluatedInterface.CallsMacro (evaluated : EvaluatedInterface)
    (interface : ResolvedInterface) (context : Context) : Prop where
  printable : ∀ c ∈ evaluated.statement.toList, isPrintableAscii c = true
  call : readCall? evaluated.statement =
    some (interface.template.descriptor, evaluated.arguments)
  arguments : List.Forall₂ (fun field argument => ∃ made,
    interface.argument context field = .ok made ∧ argument = made.inCall interface.tag)
      interface.template.fields evaluated.arguments
  nonempty : ∀ argument ∈ evaluated.arguments, argument ≠ ""

/-- The interfaces of a template that makes a call are evaluated to calls, whatever values they
have. -/
theorem ResolvedInterface.callsMacro_of_evaluate {interface : ResolvedInterface}
    {device configuration : String} {evaluated : EvaluatedInterface} {before after : Registers}
    (kinds : interface.HasKinds) (makes : interface.template.MakesCall)
    (run : interface.evaluate device configuration before = .ok evaluated after) :
    evaluated.CallsMacro interface (interface.context device configuration) := by
  rcases evaluate_ok run with ⟨entered, middle, descriptor, _, fields, -, named, -, rfl⟩
  have related : List.Forall₂ (fun field argument => ∃ made,
      interface.argument (interface.context device configuration) field = .ok made ∧
        argument = made.inCall interface.tag)
          interface.template.fields (entered.map Prod.fst) := by
    rw [List.forall₂_map_right_iff]
    refine (Evaluation.related_of_enterFields fields).imp ?_
    rintro field entered ⟨made, found, inCall, -⟩
    exact ⟨made, found, inCall⟩
  have each : ∀ argument ∈ entered.map Prod.fst, IsArgument argument := by
    intro argument mem
    have members := Related.imp_of_mem related
      (fun field fieldMem argument made => And.intro fieldMem made)
    rcases Related.exists_left members mem with ⟨field, -, fieldMem, made, found, rfl⟩
    exact isArgument_of_argument kinds makes fieldMem found
  have tail := ReportTable.identifierTail_of_isCIdentifier makes.descriptor
  have free : '$' ∉ interface.template.descriptor.toList :=
    fun mem => absurd (tail _ mem) (by decide)
  rw [substitute_plain free] at named
  cases named
  have nonempty : entered.map Prod.fst ≠ [] := by
    intro none
    rw [none] at related
    cases fieldsEmpty : interface.template.fields with
    | nil => exact makes.nonempty fieldsEmpty
    | cons field rest =>
        rw [fieldsEmpty] at related
        cases related
  refine ⟨?_, ?_, related, fun argument mem => (each argument mem).ne_empty⟩
  · have inner : ∀ c ∈ (joined ", " (entered.map Prod.fst)).toList, isPrintableAscii c = true := by
      refine @joined_induction (fun text => ∀ c ∈ text.toList, isPrintableAscii c = true) _ _
        (List.forall_mem_nil _) (fun argument mem => (each argument mem).printable) ?_
      intro first rest left right
      simp only [String.toList_append, List.forall_mem_append]
      exact ⟨⟨left, List.all_eq_true.mp (by decide)⟩, right⟩
    simp only [EvaluatedInterface.statement, String.toList_append, List.forall_mem_append]
    refine ⟨⟨⟨?_, List.all_eq_true.mp (by decide)⟩, inner⟩, List.all_eq_true.mp (by decide)⟩
    exact fun c mem => isPrintableAscii_of_isIdentifierTail (tail c mem)
  · exact IsArgument.readCall?_statement makes.descriptor nonempty each

namespace Document

/-- Every interface of a document that is read against the built-in catalog is evaluated to a call
of the macro of its template, whatever the document gives for its strings, numbers, arrays and
descriptions. -/
theorem callsMacro_of_read {text : String} {document : Document}
    (found : read Catalog.builtin text = .ok document) {entry : String × Interface}
    (mem : entry ∈ document.allInterfaces) {resolved : ResolvedInterface}
    (resolves : ResolvedInterface.resolve Catalog.builtin entry.1 entry.2 = .ok resolved)
    {device configuration : String} {evaluated : EvaluatedInterface} {before after : Registers}
    (run : resolved.evaluate device configuration before = .ok evaluated after) :
    evaluated.CallsMacro resolved (resolved.context device configuration) := by
  have kinds := ResolvedInterface.hasKinds_of_resolve Catalog.sound_builtin
    (fitsTemplate_of_read found entry mem) resolves
  rcases ResolvedInterface.resolve_ok resolves with ⟨-, -, -, present, -⟩
  have makes := Catalog.makesCall_builtin _ (OrderedMap.mem_of_get?_eq_some present)
  exact resolved.callsMacro_of_evaluate kinds makes run

/-- An interface whose values hold everything that could break a call. -/
def punctuatedValue : Value :=
  let interfaces : Value := .object [("dfu", .object [("template", .string "dfu_rt"),
    ("description", .string "a, (b\n"), ("timeout", .number (.integer (-5))),
    ("attributes", .array [.string "x), (y", .array [.null, .string "\n"]])])]
  let configurations : Value := .object [("config1", .object [("interfaces", interfaces)])]
  .object [("devices", .object [("dev0", .object [
    ("vendor", .number (.integer 1)), ("configurations", configurations)])])]

theorem callsMacro_punctuatedValue : ∃ document entry resolved device configuration before evaluated
    after, read Catalog.builtin punctuatedValue.compact = .ok document ∧
      entry ∈ document.allInterfaces ∧
      ResolvedInterface.resolve Catalog.builtin entry.1 entry.2 = .ok resolved ∧
      resolved.evaluate device configuration before = .ok evaluated after ∧
      evaluated.CallsMacro resolved (resolved.context device configuration) := by
  have success : (read Catalog.builtin punctuatedValue.compact).toOption.any (fun document =>
      !document.allInterfaces.isEmpty && (document.generate Catalog.builtin).isOk) = true := by
    decide +kernel
  rcases any_toOption_iff.mp success with ⟨document, found, holds⟩
  simp only [Bool.and_eq_true, Bool.not_eq_true', List.isEmpty_eq_false_iff,
    outcome_isOk_iff] at holds
  rcases holds with ⟨nonempty, generated, generates⟩
  rcases List.exists_mem_of_ne_nil _ nonempty with ⟨entry, mem⟩
  rcases evaluates_of_generate generates mem with
    ⟨device, configuration, plan, evaluated, planned, before, after, run⟩
  exact ⟨document, entry, plan.resolved, device, configuration, before, evaluated, after, found,
    mem, planned.resolved, run, callsMacro_of_read found mem planned.resolved run⟩

end Document

end UsbDescriptors
