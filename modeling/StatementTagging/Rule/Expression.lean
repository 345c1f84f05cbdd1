import StatementTagging.Criterion
import StatementTagging.Datum.Access

set_option autoImplicit false

/-! # Persisted expressions

An expression is one test of a rule as it is stored: a field, the text of a criterion, and what is kept
for display. Its parts come from documents and may be data of any kind.
-/

namespace StatementTagging

/-! ## Descriptions -/

/-- The description among details by language: the first one in English that is present, otherwise that
of the first detail. -/
def descriptionOf (details : Datum) : Except Fault Datum := do
  if !details.truthy then return .null
  let items ← details.parts
  for item in items do
    let language ← item.field "LanguageCode"
    if language.same (.text "en") then
      let description ← item.field "Description"
      if description.truthy then return description
  match items with
  | first :: _ => return ((← first.field "Description").orElse .null)
  | [] => return .null

/-- The details that hold a description. -/
def detailsOf (description : Datum) : Datum :=
  if description.truthy then
    .list [.record [("LanguageCode", .text "en"), ("Description", description)]]
  else .list []

/-! ## Expressions -/

/-- A stored test of one field. -/
structure Expression where
  field : Datum
  pattern : Datum
  id : Datum := .null
  description : Datum := .null
  prompt : Datum := .null

namespace Expression

/-- The expression that a datum writes. -/
def ofDatum (d : Datum) : Except Fault Expression := do
  let field ← d.entry "SourceField"
  let pattern ← d.field "Regex"
  let id ← d.field "ExpressionId"
  let description ← descriptionOf (← d.field "RegexDetails")
  let prompt ← d.field "ExpressionPrompt"
  return ⟨field, pattern.orElse (.text ""), id, description, prompt⟩

/-- The entries of a datum for an expression. -/
def entries (e : Expression) : List (String × Datum) :=
  [("SourceField", e.field), ("ExpressionPrompt", e.prompt), ("ExpressionId", e.id),
   ("Regex", e.pattern), ("RegexDetails", detailsOf e.description)]

/-- The datum for an expression. -/
def toDatum (e : Expression) : Datum := .record e.entries

/-- Two expressions are equal part by part. -/
def same (a b : Expression) : Bool :=
  a.field.same b.field && a.pattern.same b.pattern && a.id.same b.id
    && a.description.same b.description && a.prompt.same b.prompt

/-- The text of the pattern, which must be a text. -/
def patternText (e : Expression) : Except Fault (List Char) :=
  match e.pattern with
  | .text s => .ok s.toList
  | _ => .error .wrongType

/-- The row passes the test: it has a value in the field, and the criterion accepts it. -/
def accepts (e : Expression) (row : Row) : Except Fault Bool := do
  let value ← fieldOf row e.field
  if value.isNull then return false
  (Criterion.ofSource (← e.patternText)).accepts value

end Expression

/-! ## Rule sets -/

/-- Alternatives of which each is a list of tests that must all be passed. -/
abbrev RuleSet := List (List Expression)

/-- The first fault or the first failed test decides. -/
def groupAccepts (group : List Expression) (row : Row) : Except Fault Bool :=
  match group with
  | [] => .ok true
  | e :: r => do
    if ← e.accepts row then groupAccepts r row else return false

/-- The first fault or the first group that accepts the row decides. -/
def someGroupAccepts (groups : RuleSet) (row : Row) : Except Fault Bool :=
  match groups with
  | [] => .ok false
  | g :: r => do
    if ← groupAccepts g row then return true else someGroupAccepts r row

namespace RuleSet

/-- The rule set that a datum writes; a datum that is not present writes the empty one. -/
def ofDatum (d : Datum) : Except Fault RuleSet := do
  (← d.partsIfPresent).mapM fun group => do (← group.parts).mapM Expression.ofDatum

/-- The datum for a rule set. -/
def toDatum (rules : RuleSet) : Datum :=
  .list (rules.map fun group => .list (group.map Expression.toDatum))

/-- Some group accepts the row; without groups every row is accepted. -/
def accepts (rules : RuleSet) (row : Row) : Except Fault Bool :=
  if rules.isEmpty then .ok true else someGroupAccepts rules row

end RuleSet

end StatementTagging
