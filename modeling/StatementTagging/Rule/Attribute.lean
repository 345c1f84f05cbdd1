import StatementTagging.Operation
import StatementTagging.Rule.Expression

set_option autoImplicit false

/-! # Attributes

An attribute takes a value out of a field of a matching row: the first group of the leftmost match. The
value may be checked afterwards, against a fixed value or for being there at all.
-/

namespace StatementTagging

/-! ## Documents -/

/-- An attribute of a definition. -/
structure Attribute where
  tag : Datum
  expression : Expression
  /-- The value that the extracted one must be equal to, if present. -/
  verify : Datum := .null
  mandatory : Datum := .bool false
  validation : Datum := .text "STRING"
  listTag : Datum := .null

namespace Attribute

/-- The expression of an attribute and its value for verification. -/
def expressionOfDatum (d : Datum) : Except Fault (Expression × Datum) := do
  let verify ← d.field "VerifyValue"
  let expression ← Expression.ofDatum d
  return (expression, verify.orElse .null)

/-- The attribute that a datum writes. -/
def ofDatum (d : Datum) : Except Fault Attribute := do
  let rule ← d.field "ValidationRuleTag"
  let dataType ← d.field "DataType"
  let tag ← d.entry "AttributeTag"
  let (expression, verify) ← expressionOfDatum (← d.entry "AttributeRuleExpression")
  let mandatory ← d.field "IsMandatory"
  let listTag ← d.field "LOVTag"
  return {
    tag := tag
    expression := expression
    verify := verify
    mandatory := .bool mandatory.truthy
    validation := rule.orElse (dataType.orElse (.text "STRING"))
    listTag := listTag }

/-- The datum for an attribute. -/
def toDatum (a : Attribute) : Datum :=
  let verify := if a.verify.truthy then [("VerifyValue", a.verify)] else []
  .record
    [("AttributeTag", a.tag), ("IsMandatory", a.mandatory), ("LOVTag", a.listTag),
     ("ValidationRuleTag", a.validation),
     ("AttributeRuleExpression", .record (a.expression.entries ++ verify))]

/-- Two attributes are equal part by part. -/
def same (a b : Attribute) : Bool :=
  a.tag.same b.tag && a.expression.same b.expression && a.verify.same b.verify
    && a.mandatory.same b.mandatory && a.validation.same b.validation && a.listTag.same b.listTag

/-! ## Values -/

/-- The value of an attribute in a row. A value of the field that is not present gives none, nor does a
pattern that is malformed, has no group or does not match. -/
def extract (a : Attribute) (row : Row) : Except Fault (Option String) := do
  let value ← fieldOf row a.expression.field
  if !value.truthy then return none
  match ← compilePattern (← a.expression.patternText) with
  | some p => return (Pattern.firstGroup? p value.fieldText.toList).map String.ofList
  | none => return none

end Attribute

/-- Values under tags, in order of arrival. Tags come from documents; numbers that are equal are the
same tag. -/
abbrev TagTable (α : Type) := List (Datum × α)

/-- Puts a value under a tag, which must not be compound. -/
def TagTable.put {α : Type} (table : TagTable α) (tag : Datum) (value : α) :
    Except Fault (TagTable α) :=
  if tag.isCompound then .error .wrongType else .ok (upsert Datum.same tag value table)

/-- The value under a tag, which must not be compound. -/
def TagTable.find {α : Type} (table : TagTable α) (tag : Datum) : Except Fault (Option α) :=
  if tag.isCompound then .error .wrongType else .ok (lookupBy Datum.same tag table)

/-- The values of attributes in a row; the last attribute with a tag counts. -/
def extractAll (attributes : List Attribute) (row : Row) :
    Except Fault (TagTable (Option String)) :=
  attributes.foldlM (fun table a => do TagTable.put table a.tag (← a.extract row)) []

/-- The outcomes of the checks of extracted values. Attributes without a check are left out. -/
def verifyAll (attributes : List Attribute) (extracted : TagTable Datum) :
    Except Fault (TagTable Bool) :=
  attributes.foldlM (fun table a => do
    let value := (← TagTable.find extracted a.tag).getD .null
    if a.verify.truthy then TagTable.put table a.tag (value.same a.verify)
    else
      match a.expression.pattern.text?.bind PredefinedPattern.ofPattern? with
      | some p => if p.validates then TagTable.put table a.tag (!value.isNull) else return table
      | none => return table) []

/-- The datum for an extracted value. -/
def valueDatum : Option String → Datum
  | some s => .text s
  | none => .null

end StatementTagging
