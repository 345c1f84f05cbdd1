set_option autoImplicit false

/-! # Operations

The tests and the extractions that an editor offers, with their names and labels.
-/

namespace StatementTagging

/-! ## Comparisons -/

/-- A comparison of a number with a threshold. -/
inductive Comparison where
  | greater
  | less
  | atLeast
  | atMost
deriving DecidableEq

namespace Comparison

/-- All comparisons. -/
def all : List Comparison := [greater, less, atLeast, atMost]

/-- The code of a comparison in persisted rules. -/
def code : Comparison → String
  | greater => "GT"
  | less => "LT"
  | atLeast => "GTE"
  | atMost => "LTE"

/-- The name of a comparison as an operation. -/
def name : Comparison → String
  | greater => "greater_than"
  | less => "less_than"
  | atLeast => "greater_than_or_equal"
  | atMost => "less_than_or_equal"

/-- The label of a comparison. -/
def label : Comparison → String
  | greater => "Greater than"
  | less => "Less than"
  | atLeast => "Greater than or equal to"
  | atMost => "Less than or equal to"

/-- The comparison with a code. -/
def ofCode? (code : String) : Option Comparison := all.find? (·.code == code)

/-- The number stands in the relation to the threshold. -/
def holds (c : Comparison) (number threshold : Float) : Bool :=
  match c with
  | greater => threshold < number
  | less => number < threshold
  | atLeast => threshold ≤ number
  | atMost => number ≤ threshold

end Comparison

/-! ## Tests -/

/-- A test of one field. -/
inductive MatchOperation where
  | beginsWith
  | endsWith
  | contains
  | doesNotContain
  | equals
  | doesNotEqual
  | matchesPattern
  | extractAndCompare
  | compare (c : Comparison)
  /-- A name that is none of the catalogue; such a test looks for its value. -/
  | other (name : String)
deriving DecidableEq

namespace MatchOperation

/-- The name of a test. -/
def name : MatchOperation → String
  | beginsWith => "begins_with"
  | endsWith => "ends_with"
  | contains => "contains"
  | doesNotContain => "does_not_contain"
  | equals => "equals"
  | doesNotEqual => "does_not_equal"
  | matchesPattern => "matches_pattern"
  | extractAndCompare => "extract_and_compare"
  | compare c => c.name
  | other name => name

/-- The label of a test. -/
def label : MatchOperation → String
  | beginsWith => "Starts with"
  | endsWith => "Ends with"
  | contains => "Contains"
  | doesNotContain => "Does not contain"
  | equals => "Equals"
  | doesNotEqual => "Does not equal"
  | matchesPattern => "Matches one of"
  | extractAndCompare => "Extract between and compare"
  | compare c => c.label
  | other name => name

/-- The tests of the catalogue in their order. -/
def catalogue : List MatchOperation :=
  [beginsWith, endsWith, contains, doesNotContain, equals, doesNotEqual, matchesPattern,
   extractAndCompare] ++ Comparison.all.map compare

/-- The test with a name. -/
def ofName (name : String) : MatchOperation :=
  (catalogue.find? (·.name == name)).getD (other name)

end MatchOperation

/-! ## Extractions -/

/-- A pattern that has a name of its own. -/
structure PredefinedPattern where
  key : String
  label : String
  pattern : String
  /-- A value that was extracted at all counts as verified. -/
  validates : Bool

/-- The predefined patterns. -/
def predefinedPatterns : List PredefinedPattern :=
  [⟨"predefined:ksa_iban", "Verify KSA IBAN", "(SA\\d\x7b22\x7d)", true⟩]

namespace PredefinedPattern

/-- The predefined pattern with a key. -/
def ofKey? (key : String) : Option PredefinedPattern :=
  predefinedPatterns.find? (·.key == key)

/-- The predefined pattern with a given text. -/
def ofPattern? (pattern : String) : Option PredefinedPattern :=
  predefinedPatterns.find? (·.pattern == pattern)

end PredefinedPattern

/-- A way of taking a value out of one field. -/
inductive ExtractionOperation where
  | between
  | after
  | before
  | matching
  | betweenAndVerify
  /-- A predefined pattern, by its key. -/
  | predefined (key : String)
  /-- A name that is none of the catalogue; such an extraction takes everything. -/
  | other (name : String)
deriving DecidableEq

namespace ExtractionOperation

/-- The name of an extraction. -/
def name : ExtractionOperation → String
  | between => "extract_between"
  | after => "extract_after"
  | before => "extract_before"
  | matching => "extract_matching"
  | betweenAndVerify => "extract_between_and_verify"
  | predefined key => key
  | other name => name

/-- The extractions of the catalogue in their order. -/
def catalogue : List ExtractionOperation := [between, after, before, matching, betweenAndVerify]

/-- The extraction with a name. -/
def ofName (name : String) : ExtractionOperation :=
  if "predefined:".toList.isPrefixOf name.toList then predefined name
  else (catalogue.find? (·.name == name)).getD (other name)

end ExtractionOperation

end StatementTagging
