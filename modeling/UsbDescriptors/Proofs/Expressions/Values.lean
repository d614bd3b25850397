import UsbDescriptors.Proofs.Document.Kinds
import UsbDescriptors.Proofs.Runs.Steps

/-!
# Values of expressions

What an expression becomes in a context. A text without dollar signs stands for itself and a
reference for the value of its variable, so the value of an expression that is put together from
these is put together from their values. For an interface whose template gives no variable twice
the context is nothing but the list of its variables with their values.
-/

namespace UsbDescriptors

open Expression (IsKey pieces referTo)

section Substitution

variable {context : Context} {expression text : String}

theorem Context.fill_append {first second : List Piece} :
    context.fill (first ++ second) =
      context.fill first >>= fun front => (context.fill second).map (front ++ ·) := by
  induction first with
  | nil => cases behind : context.fill second <;> simp [fill, behind, bind, Except.bind, Except.map]
  | cons piece rest ih =>
      cases piece with
      | literal c =>
          rw [List.cons_append, fill, ih, fill]
          cases context.fill rest <;> cases context.fill second <;> rfl
      | reference key =>
          rw [List.cons_append, fill, ih, fill]
          cases context.get? (String.ofList key) with
          | none => rfl
          | some value =>
              cases context.fill rest <;> cases context.fill second <;>
                simp [bind, Except.bind, Except.map]

theorem Context.fill_literals {chars : List Char} :
    context.fill (chars.map .literal) = .ok chars := by
  induction chars with
  | nil => rfl
  | cons c rest ih => rw [List.map_cons, fill, ih]

theorem substitute_eq_ok_iff : substitute context expression = .ok text ↔
    context.fill (pieces expression.toList) = .ok text.toList := by
  unfold substitute
  cases context.fill (pieces expression.toList) with
  | error key => simp
  | ok filled =>
      rw [Except.ok.injEq, Except.ok.injEq]
      exact ⟨fun same => same ▸ String.toList_ofList.symm, fun same => same ▸ String.ofList_toList⟩

/-- Pieces in front of an expression whose value is known. -/
theorem substitute_of_pieces {front : List Piece} {whole value : String}
    (split : pieces whole.toList = front ++ pieces expression.toList)
    (filled : context.fill front = .ok value.toList)
    (behind : substitute context expression = .ok text) :
    substitute context whole = .ok (value ++ text) := by
  rw [substitute_eq_ok_iff] at behind ⊢
  rw [split, Context.fill_append, filled, behind, String.toList_append]
  rfl

/-- A text without dollar signs stands for itself. -/
theorem substitute_plain_append {plain : String} (free : '$' ∉ plain.toList)
    (behind : substitute context expression = .ok text) :
    substitute context (plain ++ expression) = .ok (plain ++ text) := by
  refine substitute_of_pieces ?_ Context.fill_literals behind
  rw [String.toList_append, Expression.pieces_append_of_free free]

theorem prefix_of_substitute {plain : String} (free : '$' ∉ plain.toList)
    (filled : substitute context (plain ++ expression) = .ok text) :
    ∃ rest, text = plain ++ rest := by
  rw [substitute_eq_ok_iff, String.toList_append, Expression.pieces_append_of_free free,
    Context.fill_append, Context.fill_literals] at filled
  cases behind : context.fill (pieces expression.toList) with
  | error key =>
      rw [behind] at filled
      cases filled
  | ok rest =>
      rw [behind] at filled
      refine ⟨String.ofList rest, String.toList_injective ?_⟩
      rw [String.toList_append, String.toList_ofList]
      exact (Except.ok.inj filled).symm

/-- A reference stands for the value of its variable. -/
theorem substitute_referTo_append {key value : String} (isKey : IsKey key)
    (defined : context.get? key = some value)
    (behind : substitute context expression = .ok text) :
    substitute context (referTo key ++ expression) = .ok (value ++ text) := by
  refine @substitute_of_pieces _ _ _ [.reference key.toList] _ _ ?_ ?_ behind
  · rw [String.toList_append, Expression.pieces_referTo_append isKey]
    rfl
  · rw [Context.fill, String.ofList_toList, defined]
    simp [Context.fill]

theorem substitute_empty : substitute context "" = .ok "" := rfl

theorem substitute_referTo {key value : String} (isKey : IsKey key)
    (defined : context.get? key = some value) :
    substitute context (referTo key) = .ok value := by
  have whole := substitute_referTo_append isKey defined substitute_empty
  rwa [String.append_empty, String.append_empty] at whole

theorem substitute_plain {plain : String} (free : '$' ∉ plain.toList) :
    substitute context plain = .ok plain := by
  have whole := substitute_plain_append free (@substitute_empty context)
  rwa [String.append_empty] at whole

/-- A reference between texts without dollar signs. -/
theorem substitute_between {front key behind value : String} (frontFree : '$' ∉ front.toList)
    (behindFree : '$' ∉ behind.toList) (isKey : IsKey key)
    (defined : context.get? key = some value) :
    substitute context (front ++ referTo key ++ behind) = .ok (front ++ value ++ behind) := by
  have ending := substitute_plain_append behindFree (@substitute_empty context)
  have whole := substitute_plain_append frontFree (substitute_referTo_append isKey defined ending)
  simpa only [String.append_empty, String.append_assoc] using whole

end Substitution

namespace ResolvedInterface

variable {interface : ResolvedInterface}

/-- The variables that every interface has. -/
def ownVariables (interface : ResolvedInterface) (device configuration : String) :
    List (String × String) :=
  [("tag", interface.tag),
    ("tag.id", identifier interface.tag),
    ("description", interface.description.getD ""),
    ("itfnum", interfaceSymbol interface.tag),
    ("device", device),
    ("config", configuration)]

/-- The variables that the properties of an interface define. -/
def propertyVariables (interface : ResolvedInterface) : List (String × String) :=
  interface.properties.flatMap fun property =>
    (property.1, property.2.plainText) ::
      Context.derived property.1 ((interface.template.properties.get? property.1).bind Property.mask)
        property.2

theorem context_eq_ofList (interface : ResolvedInterface) (device configuration : String) :
    interface.context device configuration =
      OrderedMap.ofList (interface.ownVariables device configuration ++
        interface.propertyVariables) := by
  rw [OrderedMap.ofList, List.foldl_append, propertyVariables, List.foldl_flatMap]
  rfl

theorem keys_variables (kinds : interface.HasKinds) (device configuration : String) :
    OrderedMap.keys (interface.ownVariables device configuration ++ interface.propertyVariables) =
      interface.template.variables := by
  have properties : interface.propertyVariables.map Prod.fst =
      interface.template.properties.flatMap fun property =>
        property.2.kind.variables property.1 := by
    rw [propertyVariables, List.map_flatMap]
    refine (Related.flatMap_eq ?_ kinds).symm
    rintro declared property ⟨same, accepted⟩
    rw [same, ← Context.keys_derived accepted]
    rfl
  rw [OrderedMap.keys, List.map_append, properties]
  rfl

/-- The context of an interface whose template gives no variable twice lists the variables with
their values. -/
theorem context_eq (kinds : interface.HasKinds) (distinct : interface.template.variables.Nodup)
    (device configuration : String) :
    interface.context device configuration =
      interface.ownVariables device configuration ++ interface.propertyVariables := by
  rw [context_eq_ofList]
  apply OrderedMap.ofList_of_nodup
  rwa [keys_variables kinds]

theorem get?_context (kinds : interface.HasKinds) (distinct : interface.template.variables.Nodup)
    {device configuration name value : String}
    (mem : (name, value) ∈
      interface.ownVariables device configuration ++ interface.propertyVariables) :
    (interface.context device configuration).get? name = some value := by
  rw [context_eq kinds distinct]
  apply OrderedMap.get?_eq_some_of_mem _ mem
  rwa [keys_variables kinds]

end ResolvedInterface

/-- No template of the built-in catalog gives a variable twice. -/
theorem Catalog.distinct_variables_builtin :
    ∀ entry ∈ builtin.templates, entry.2.variables.Nodup := by
  decide +kernel

end UsbDescriptors
