import StatementTagging.Rule.Attribute
import StatementTagging.Rule.Context

set_option autoImplicit false

/-! # Definitions and libraries

A definition gives a tag to the rows it matches. A library is a list of definitions that share a
context. This module holds them with the documents they are read from and written to.
-/

namespace StatementTagging

/-! ## Validity -/

/-- The first and the last day on which a definition is in force, as texts; either may be absent. -/
structure Validity where
  start : Datum := .null
  stop : Datum := .null

namespace Validity

/-- The validity that a datum writes. -/
def ofDatum (d : Datum) : Except Fault Validity := do
  let d := d.orElse (.record [])
  let start ← d.field "StartDate"
  let stop ← d.field "EndDate"
  return ⟨start.orElse .null, stop.orElse .null⟩

/-- The datum for a validity. -/
def toDatum (v : Validity) : Datum := .record [("StartDate", v.start), ("EndDate", v.stop)]

/-- Two validities are equal part by part. -/
def same (a b : Validity) : Bool := a.start.same b.start && a.stop.same b.stop

end Validity

/-! ## Definitions -/

/-- A rule that gives a tag. -/
structure Definition where
  id : Datum
  tag : Datum
  context : Context := []
  status : Datum := .text "ACTIVE"
  certainty : Datum := .text "HIGH"
  validity : Validity := {}
  rules : RuleSet := []
  attributes : List Attribute := []

namespace Definition

/-- The context of a definition as a list of entries; older documents write a record instead. -/
def contextItems (d : Datum) : Datum :=
  match d with
  | .record es =>
    .list (es.map fun (key, value) => .record [("Key", .text key), ("Value", value)])
  | d => d

/-- The definition that a datum writes. -/
def ofDatum (d : Datum) : Except Fault Definition := do
  let rawContext ← d.field "Context"
  let id ← d.entry "Id"
  let tag ← d.entry "Tag"
  let context ← Context.ofDatum (contextItems rawContext)
  let status ← d.fieldOr "StatusTag" (.text "ACTIVE")
  let certainty ← d.fieldOr "CertaintyLevelTag" (.text "HIGH")
  let validity ← Validity.ofDatum (← d.field "Validity")
  let rules ← RuleSet.ofDatum (← d.field "TagRuleExpressions")
  let attributes ← (← (← d.field "Attributes").partsIfPresent).mapM Attribute.ofDatum
  return {
    id := id
    tag := tag
    context := context
    status := status
    certainty := certainty
    validity := validity
    rules := rules
    attributes := attributes }

/-- The datum for a definition. -/
def toDatum (d : Definition) : Datum :=
  .record
    [("Id", d.id), ("Context", d.context.toDatum), ("Tag", d.tag), ("StatusTag", d.status),
     ("CertaintyLevelTag", d.certainty), ("Validity", d.validity.toDatum),
     ("TagRuleExpressions", RuleSet.toDatum d.rules),
     ("Attributes", .list (d.attributes.map Attribute.toDatum))]

/-- Two definitions are equal part by part. -/
def same (a b : Definition) : Bool :=
  a.id.same b.id && a.tag.same b.tag && decide (a.context = b.context) && a.status.same b.status
    && a.certainty.same b.certainty && a.validity.same b.validity
    && a.rules.isEqv b.rules (fun g h => g.isEqv h Expression.same)
    && a.attributes.isEqv b.attributes Attribute.same

end Definition

/-! ## Libraries -/

/-- Definitions under a common context. -/
structure Library where
  context : Context := []
  definitions : List Definition := []
  id : Datum := .null

namespace Library

/-- The library that a datum writes. -/
def ofDatum (d : Datum) : Except Fault Library := do
  let context ← Context.ofDatum (← d.field "Context")
  let definitions ←
    (← (← d.field "TagSpecDefinitions").partsIfPresent).mapM Definition.ofDatum
  let id ← d.field "Id"
  return ⟨context, definitions, id⟩

/-- The datum for a library. -/
def toDatum (l : Library) : Datum :=
  let id := if l.id.isNull then [] else [("Id", l.id)]
  .record (id ++
    [("Context", l.context.toDatum),
     ("TagSpecDefinitions", .list (l.definitions.map Definition.toDatum))])

end Library

end StatementTagging
