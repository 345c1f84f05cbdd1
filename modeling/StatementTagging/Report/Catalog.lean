import StatementTagging.Editor
import StatementTagging.Field
import StatementTagging.Table.Frame
import StatementTagging.Variables

set_option autoImplicit false

/-! # Catalog of rules

One line for each test and each attribute of all rules, described for people, and whether the data has
the field that it looks at.
-/

namespace StatementTagging.Catalog

/-- The columns of the report. -/
def columns : List String :=
  ["Library_Context", "Definition_Id", "Tag", "Status", "Definition_Context", "Kind", "Group",
   "Source_Field", "Source_Label", "Description", "Field_In_Data"]

/-- The fields that the data is known to have. -/
def knownFields (f : Frame) : List String :=
  let fields := FieldMeta.ofRows f.rows
  fields.identifier :: fields.dataFields

/-- The cells that all lines of a definition begin with. -/
def baseCells (l : Library) (d : Definition) : Row :=
  [("Library_Context", .text l.context.format), ("Definition_Id", .text d.id.display),
   ("Tag", d.tag), ("Status", d.status), ("Definition_Context", .text d.context.format)]

/-- The line of a definition without tests. -/
def alwaysLine (base : Row) : Row :=
  base ++
    [("Kind", .text "CONDITION"), ("Group", .text ""), ("Source_Field", .text ""),
     ("Source_Label", .text ""), ("Description", .text "(always matches)"),
     ("Field_In_Data", .bool true)]

/-- The line of an expression. -/
def expressionLine (known : List String) (base : Row) (kind : String) (group : Datum)
    (e : Expression) : Except Fault Row := do
  let field ← expectText e.field
  return base ++
    [("Kind", .text kind), ("Group", group), ("Source_Field", e.field),
     ("Source_Label", .text (humanize field)), ("Description", ← e.shown),
     ("Field_In_Data", .bool (known.contains field))]

/-- The lines of the tests of a definition; groups count from one. -/
def ruleLines (known : List String) (base : Row) (rules : RuleSet) : Except Fault (List Row) := do
  let lines ← rules.zipIdx.mapM fun (group, i) =>
    group.mapM (expressionLine known base "CONDITION" (.int (i + 1)))
  return lines.flatten

/-- The lines of a definition. -/
def definitionLines (known : List String) (l : Library) (d : Definition) :
    Except Fault (List Row) := do
  let base := baseCells l d
  let always := if d.rules.isEmpty then [alwaysLine base] else []
  let tests ← ruleLines known base d.rules
  let attributes ← d.attributes.mapM fun a =>
    expressionLine known base ("ATTRIBUTE:" ++ a.tag.display) (.text "") a.expression
  return always ++ tests ++ attributes

/-- The lines of the report on a frame. -/
def lines (f : Frame) (libraries : List Library) : Except Fault (List Row) := do
  let known := knownFields f
  let lines ← libraries.mapM fun l => do
    return (← l.definitions.mapM (definitionLines known l)).flatten
  return lines.flatten

/-- The report with given lines. -/
def table (lines : List Row) : Except Fault Frame := Frame.ofRecords columns lines

/-- The report on a frame. -/
def report (f : Frame) (libraries : List Library) : Except Fault Frame := do
  table (← lines f libraries)

/-- The field of a line if the data lacks it. -/
def absentField? (line : Row) : Option String :=
  match Datum.valueAt line "Field_In_Data", Datum.valueAt line "Source_Field" with
  | .bool false, .text field => nonEmpty? field
  | _, _ => none

/-- The fields that rules look at but the data lacks, in the order of their characters' codes. -/
def absentFields (lines : List Row) : List String := sortedNames (lines.filterMap absentField?)

end StatementTagging.Catalog
