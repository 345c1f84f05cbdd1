import StatementTagging.Condition
import StatementTagging.Extraction
import StatementTagging.Tagging

set_option autoImplicit false

/-! # Self-check

A small collection of rules and three transactions with known tags, to see that tagging works.
-/

namespace StatementTagging.SelfCheck

/-! ## Rules -/

/-- The expression for a test of a field. -/
def condition (field : String) (form : MatchForm) : Expression :=
  { field := .text field
    pattern := .text form.compile
    description := .text form.description }

/-- The attribute for an extraction from a field. -/
def extraction (tag field : String) (form : ExtractionForm) : Attribute :=
  { tag := .text tag
    expression :=
      { field := .text field
        pattern := .text form.compile
        description := .text form.description } }

/-- Rows that name who ordered a payment. -/
def orderingParty : Definition :=
  { id := .text "self-check-1"
    tag := .text "ORDERING_PARTY"
    validity := { start := .text "2000-01-01" }
    rules := [[condition "Field86" { operation := .beginsWith, value := "ORDP" }]]
    attributes :=
      [extraction "Reference" "Field86"
        { operation := .between, before := some "ORDP/", after := some "/" },
       extraction "IBAN" "Field86" { operation := .predefined "predefined:ksa_iban" }] }

/-- Rows with a large amount. -/
def largeCredit : Definition :=
  { id := .text "self-check-2"
    tag := .text "LARGE_CREDIT"
    validity := { start := .text "2000-01-01" }
    rules := [[condition "Amount" { operation := .compare .greater, value := "100" }]] }

/-- Both definitions, for credits at one bank. -/
def libraries : List Library :=
  [{ context := [⟨"BankSwiftCode", "ARNBSARI"⟩, ⟨"Side", "CR"⟩]
     definitions := [orderingParty, largeCredit] }]

/-! ## Transactions -/

/-- A transaction at the bank of the rules. -/
def transaction (side description amount : String) : Row :=
  [("BankSwiftCode", .text "ARNBSARI"), ("Side", .text side), ("Field86", .text description),
   ("Amount", .text amount)]

/-- A credit that both rules match, a debit, and a credit that no rule matches. -/
def transactions : List Row :=
  [transaction "CR" "ORDP/1234/SA0380000000608010167519" "150",
   transaction "DR" "ORDP/1234/" "150",
   transaction "CR" "OTHER" "abc"]

/-! ## The check -/

/-- The first cell of a column is what it should be. -/
def firstCellIs (f : Frame) (column : String) (expected : Datum) : Bool :=
  match f.column? column with
  | some (cell :: _) => cell.same expected
  | _ => false

/-- All that the tagged transactions must show. -/
def holds (f : Frame) : Except Fault Bool := do
  let tags ← ((f.column? "Tags").getD []).mapM splitTags
  return tags == [["ORDERING_PARTY", "LARGE_CREDIT"], [], []]
    && firstCellIs f (valueColumn orderingParty.tag (.text "Reference")) (.text "1234")
    && firstCellIs f (valueColumn orderingParty.tag (.text "IBAN"))
      (.text "SA0380000000608010167519")
    && firstCellIs f (checkColumn orderingParty.tag (.text "IBAN")) (.bool true)
    && firstCellIs f "Top_Certainty" (.text "HIGH")

/-- Tagging works on the transactions. -/
def passes : Except Fault Bool := do
  holds (← tagFrame (← Frame.ofRows transactions) libraries "2024-06-01")

end StatementTagging.SelfCheck
