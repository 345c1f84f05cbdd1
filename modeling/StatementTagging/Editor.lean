import StatementTagging.Rule.Definition
import StatementTagging.Shape

set_option autoImplicit false

/-! # Editing

What an editor sends and shows. Conditions and attributes arrive as records of fields, whose values are
checked only as far as the operation looks at them; stored expressions are turned back into forms.
-/

namespace StatementTagging

/-! ## Fields -/

/-- The entries of a record with the required fields and no fields but the known ones. -/
def knownEntries (required optional : List String) (d : Datum) :
    Except Fault (List (String × Datum)) :=
  match d with
  | .record es =>
    if es.all (fun e => (required ++ optional).contains e.1)
        && required.all (fun key => (es.lookup key).isSome) then .ok es
    else .error .wrongType
  | _ => .error .wrongType

/-- A text that must be one. -/
def expectText (d : Datum) : Except Fault String :=
  match d with
  | .text s => .ok s
  | _ => .error .wrongType

/-- A text that may be absent; whatever is not present counts as absent. -/
def optionalText (d : Datum) : Except Fault (Option String) :=
  if d.truthy then (expectText d).map some else .ok none

/-- The text of a value of any kind; whatever is not present counts as absent. -/
def shownText (d : Datum) : Option String := d.present?.map Datum.display

/-- The text if it is one. -/
def textDatum (s : Option String) : Datum :=
  match s with
  | some s => .text s
  | none => .null

/-! ## Conditions -/

/-- The parameters of a test as they arrive. -/
structure MatchFields where
  operation : Datum
  value : Datum := .text ""
  values : Datum := .null
  before : Datum := .null
  after : Datum := .null

/-- The operation with a name; a name of another kind than text is one of no known operation. -/
def MatchFields.operationOf (d : Datum) : Except Fault MatchOperation :=
  if d.isCompound then .error .wrongType
  else
    match d with
    | .text name => .ok (.ofName name)
    | d => .ok (.other d.display)

/-- The form that the parameters of a test make. Comparisons and texts fail in different ways if their
value is no text, and parameters that the operation ignores may be anything. -/
def MatchFields.form (f : MatchFields) : Except Fault MatchForm := do
  let operation ← operationOf f.operation
  match operation, f.value with
  | .compare c, .text s => return { operation := .compare c, value := s }
  | .compare _, _ => throw .lacksMember
  | .matchesPattern, value =>
    let value ← expectText value
    let values ← (← f.values.partsIfPresent).mapM expectText
    return { operation := .matchesPattern, value := value, values := some values }
  | .extractAndCompare, value =>
    return {
      operation := .extractAndCompare
      value := ← expectText value
      before := ← optionalText f.before
      after := ← optionalText f.after }
  | operation, value => return { operation := operation, value := ← expectText value }

/-- A test of a field as it arrives. -/
structure ConditionFields where
  field : Datum
  parameters : MatchFields

namespace ConditionFields

/-- The test that a record writes. -/
def ofDatum (d : Datum) : Except Fault ConditionFields := do
  let es ← knownEntries ["source_field", "operation"]
    ["value", "values", "prefix", "suffix", "verify_value"] d
  return {
    field := Datum.valueAt es "source_field"
    parameters := {
      operation := Datum.valueAt es "operation"
      value := (es.lookup "value").getD (.text "")
      values := Datum.valueAt es "values"
      before := Datum.valueAt es "prefix"
      after := Datum.valueAt es "suffix" } }

/-- The expression that a test is compiled to. -/
def compile (c : ConditionFields) : Except Fault Expression := do
  let form ← c.parameters.form
  return {
    field := c.field
    pattern := .text form.compile
    description := .text form.description }

end ConditionFields

/-! ## Attributes -/

/-- The parameters of an extraction as they arrive. -/
structure ExtractionFields where
  operation : Datum
  before : Datum := .null
  after : Datum := .null
  pattern : Datum := .null
  verify : Datum := .null

/-- The form that the parameters of an extraction make. -/
def ExtractionFields.form (f : ExtractionFields) : Except Fault ExtractionForm := do
  match f.operation with
  | .text name =>
    let operation := ExtractionOperation.ofName name
    let form : ExtractionForm :=
      { operation := operation, pattern := shownText f.pattern, verify := shownText f.verify }
    match operation with
    | .between | .betweenAndVerify =>
      return { form with before := ← optionalText f.before, after := ← optionalText f.after }
    | .after => return { form with before := ← optionalText f.before }
    | .before => return { form with after := ← optionalText f.after }
    | _ => return form
  | _ => throw .lacksMember

/-- An attribute as it arrives. -/
structure AttributeFields where
  tag : Datum
  field : Datum
  parameters : ExtractionFields
  mandatory : Datum := .bool false
  validation : Datum := .text "STRING"

namespace AttributeFields

/-- The attribute that a record writes. -/
def ofDatum (d : Datum) : Except Fault AttributeFields := do
  let es ← knownEntries ["attribute_tag", "source_field", "extraction_operation"]
    ["is_mandatory", "validation_kind", "prefix", "suffix", "pattern", "verify_value"] d
  return {
    tag := Datum.valueAt es "attribute_tag"
    field := Datum.valueAt es "source_field"
    parameters := {
      operation := Datum.valueAt es "extraction_operation"
      before := Datum.valueAt es "prefix"
      after := Datum.valueAt es "suffix"
      pattern := Datum.valueAt es "pattern"
      verify := Datum.valueAt es "verify_value" }
    mandatory := (es.lookup "is_mandatory").getD (.bool false)
    validation := (es.lookup "validation_kind").getD (.text "STRING") }

/-- The attribute that the fields are compiled to, with an identifier for its expression. -/
def compile (a : AttributeFields) (id : Datum) : Except Fault Attribute := do
  let form ← a.parameters.form
  return {
    tag := a.tag
    expression := {
      field := a.field
      pattern := .text form.compile
      id := id
      description := .text form.description }
    verify := a.parameters.verify.orElse .null
    mandatory := a.mandatory
    validation := a.validation }

end AttributeFields

/-- The identifier of an expression of a definition, by its role and its place. -/
def expressionId (definition : Datum) (role : String) (index : Nat) : String :=
  definition.display ++ "-" ++ role ++ "-" ++ toString index

/-- The attributes of a definition, numbered from `index` on. -/
def compileAttributes (definition : Datum) (index : Nat) :
    List AttributeFields → Except Fault (List Attribute)
  | [] => .ok []
  | a :: r => do
    let compiled ← a.compile (.text (expressionId definition "attr" index))
    return compiled :: (← compileAttributes definition (index + 1) r)

/-! ## From stored expressions -/

/-- The test that a stored expression shows. -/
def Expression.matchForm (e : Expression) : Except Fault MatchForm := do
  return decomposeMatch (← e.patternText)

/-- The extraction that an attribute shows; one with a value for verification verifies. -/
def Attribute.extractionForm (a : Attribute) : Except Fault ExtractionForm := do
  let form := decomposeExtraction (← a.expression.patternText)
  return if a.verify.truthy then { form with operation := .betweenAndVerify } else form

/-- The fields that an editor shows for an attribute. -/
def Attribute.fields (a : Attribute) : Except Fault AttributeFields := do
  let form ← a.extractionForm
  return {
    tag := a.tag
    field := a.expression.field
    parameters := {
      operation := .text form.operation.name
      before := textDatum form.before
      after := textDatum form.after
      pattern := textDatum form.pattern
      verify := a.verify }
    mandatory := a.mandatory
    validation := a.validation }

/-- The description of a stored expression: the one that is kept, or one made from the pattern. -/
def Expression.shown (e : Expression) : Except Fault Datum := do
  if e.description.truthy then return e.description
  return .text (describe (← e.patternText))

end StatementTagging
