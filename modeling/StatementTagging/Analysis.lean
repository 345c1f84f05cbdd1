import StatementTagging.Rule.Definition

set_option autoImplicit false

/-! # Analysis of rows

Which definitions apply to a row on a given day, in the order of libraries and of the definitions in
them, and what they contribute: tags, extracted values and the outcomes of checks.
-/

namespace StatementTagging

/-! ## Applicability -/

/-- The text is before the datum, which must be a text. -/
def textBefore (s : String) (d : Datum) : Except Fault Bool :=
  match d with
  | .text t => .ok (s < t)
  | _ => .error .wrongType

/-- The text is after the datum, which must be a text. -/
def textAfter (s : String) (d : Datum) : Except Fault Bool :=
  match d with
  | .text t => .ok (t < s)
  | _ => .error .wrongType

/-- The day lies between the first and the last one; days are compared as texts. -/
def Validity.includes (v : Validity) (today : String) : Except Fault Bool := do
  if v.start.truthy then
    if ← textBefore today v.start then return false
  if v.stop.truthy then
    if ← textAfter today v.stop then return false
  return true

/-- The definition applies to the row on the day. -/
def Definition.applies (d : Definition) (row : Row) (today : String) : Except Fault Bool := do
  if !d.status.same (.text "ACTIVE") then return false
  if !(← d.validity.includes today) then return false
  if !d.context.matchesRow row then return false
  RuleSet.accepts d.rules row

/-! ## Results -/

/-- What the rules say about a row. The values of a later definition replace those of an earlier one
with the same tag. -/
structure Analysis where
  tags : List Datum := []
  attributes : TagTable (TagTable (Option String)) := []
  matched : List Definition := []
  verified : TagTable (TagTable Bool) := []

namespace Analysis

/-- Adds what a definition that applies contributes. -/
def add (a : Analysis) (d : Definition) (row : Row) : Except Fault Analysis := do
  let extracted ← extractAll d.attributes row
  let attributes ← a.attributes.put d.tag extracted
  let checks ← verifyAll d.attributes (extracted.map fun (tag, v) => (tag, valueDatum v))
  let verified ← a.verified.put d.tag checks
  return {
    tags := a.tags ++ [d.tag]
    attributes := attributes
    matched := a.matched ++ [d]
    verified := verified }

/-- Adds what the definitions of a library contribute, if its context matches. -/
def addLibrary (today : String) (row : Row) (a : Analysis) (l : Library) :
    Except Fault Analysis :=
  if l.context.matchesRow row then
    l.definitions.foldlM (fun a d => do
      if ← d.applies row today then a.add d row else return a) a
  else .ok a

end Analysis

/-- The analysis of a row. -/
def analyzeRow (libraries : List Library) (today : String) (row : Row) : Except Fault Analysis :=
  libraries.foldlM (Analysis.addLibrary today row) {}

/-- The analyses of rows on one day. -/
def analyzeRows (libraries : List Library) (today : String) (rows : List Row) :
    Except Fault (List Analysis) :=
  rows.mapM (analyzeRow libraries today)

/-- The library that a single definition is tried out in. -/
def previewLibrary (d : Definition) : Library :=
  { definitions := [d], id := .text "__preview__" }

end StatementTagging
