import StatementTagging.Json.Fault
import StatementTagging.Text.Digit
import StatementTagging.Text.Quoted
import StatementTagging.Text.Utf8

set_option autoImplicit false

/-! # Faults

Everything that can go wrong while rules and rows are read, applied and written, as causes. `message`
is the wording of each; faults of a value's kind and of a code's range have none.
-/

namespace StatementTagging

/-- Why a part of a document is not a definition. -/
inductive Malformation where
  | missingEntry (key : String)
  | wrongType
  | lacksMember

/-- Why a text is not a rule document. -/
inductive DocumentFault where
  | notJson (f : Json.Fault)
  | notList (kind : String)
  | libraryNotRecord (index : Nat)
  | missingLists (index : Nat) (keys : List String)
  | definitionNotRecord (index library : Nat)
  | malformed (cause : Malformation)

/-- Why a text is not a table of comma-separated values. -/
inductive TableFault where
  | empty
  | tooManyFields (expected line seen : Nat)
  | openQuote (row : Nat)

/-- A cause of failure. -/
inductive Fault where
  /-- A record has no entry under a key that it must have. -/
  | missingEntry (key : String)
  /-- A value is not of a kind that the operation on it works for. -/
  | wrongType
  /-- A value has none of the parts that a record or a text has. -/
  | lacksMember
  /-- An integer is beyond the range of floating-point numbers. -/
  | numberTooLarge
  /-- A pattern repeats something too often. -/
  | repetitionTooLarge
  /-- A pattern asks for two character sets at once. -/
  | flagConflict
  /-- A pattern gives a code that is beyond the range of codes altogether. -/
  | codeTooLarge
  /-- A pattern holds a number with too many digits. -/
  | tooManyDigits (count : Nat)
  /-- A text is no rule document. -/
  | document (f : DocumentFault)
  /-- A text is not JSON. -/
  | json (f : Json.Fault)
  /-- Bytes are no text. -/
  | bytes (f : Text.ByteFault)
  /-- A text is no table. -/
  | table (f : TableFault)
  /-- A definition with the identifier is already there. -/
  | duplicateDefinition (id : String)
  /-- There is no definition with the identifier. -/
  | unknownDefinition (id : String)
  /-- A file of some role is not there. -/
  | fileMissing (role path : String)
  /-- A file holds no list of transactions. -/
  | noTransactionList (path : String)
  /-- An item of a list of key and value has another length. -/
  | pairLength (index length : Nat)
  /-- There are rows but no columns to put values beside. -/
  | lengthMismatch (values rows : Nat)
  /-- A cell holds several values where one is asked for. -/
  | severalValues
  /-- Columns that a report needs are not there. -/
  | columnsMissing (missing available : List String)
  /-- Settings that must be given are not. -/
  | settingsMissing
  /-- Settings of the whole pipeline are not given. -/
  | pipelineSettingsMissing
  /-- A stage has not left the file it should have written. -/
  | stageOutputMissing (path : String)
  /-- A command ended with a failure. -/
  | commandFailed (command : List String) (status : Nat)

/-- The wording of the parenthesis about a malformed definition. -/
def Malformation.text : Malformation → String
  | missingEntry key => "KeyError(" ++ Text.quoted key ++ ")"
  | wrongType => "TypeError"
  | lacksMember => "AttributeError"

/-- The wording of a fault in a rule document. -/
def DocumentFault.message : DocumentFault → String
  | notJson f => "Invalid rule collection: not valid JSON (" ++ f.message ++ ")"
  | notList kind => s!"Invalid rule collection: expected a JSON array of libraries, got {kind}"
  | libraryNotRecord index => s!"Invalid library at index {index}: expected an object"
  | missingLists index keys =>
    s!"Invalid library at index {index}: missing array(s) " ++ Text.quotedList keys
  | definitionNotRecord index library =>
    s!"Invalid definition at index {index} of library {library}: expected an object"
  | malformed cause => "Invalid rule collection: malformed definition (" ++ cause.text ++ ")"

/-- The wording of a fault in a table. -/
def TableFault.message : TableFault → String
  | empty => "No columns to parse from file"
  | tooManyFields expected line seen =>
    "Error tokenizing data. C error: "
      ++ s!"Expected {expected} fields in line {line}, saw {seen}\n"
  | openQuote row => s!"Error tokenizing data. C error: EOF inside string starting at row {row}"

/-- The wording of a fault, if it has one. -/
def Fault.message? : Fault → Option String
  | missingEntry key => some (Text.quoted key)
  | wrongType => none
  | lacksMember => none
  | numberTooLarge => some "int too large to convert to float"
  | repetitionTooLarge => some "the repetition number is too large"
  | flagConflict => some "ASCII and UNICODE flags are incompatible"
  | codeTooLarge => none
  | tooManyDigits count =>
    some (s!"Exceeds the limit ({Text.digitsLimit} digits) for integer string conversion: "
      ++ s!"value has {count} digits; use sys.set_int_max_str_digits() to increase the limit")
  | document f => some f.message
  | json f => some f.message
  | bytes f => some f.message
  | table f => some f.message
  | duplicateDefinition id => some ("Definition already exists: " ++ id)
  | unknownDefinition id => some (Text.quoted ("Unknown definition: " ++ id))
  | fileMissing role path => some (role ++ " file not found: " ++ path)
  | noTransactionList path =>
    some ("Invalid transactions file (expected a Transactions array): " ++ path)
  | pairLength index length =>
    some s!"dictionary update sequence element #{index} has length {length}; 2 is required"
  | lengthMismatch values rows =>
    some s!"Length of values ({values}) does not match length of index ({rows})"
  | severalValues =>
    some ("The truth value of an array with more than one element is ambiguous. "
      ++ "Use a.any() or a.all()")
  | columnsMissing missing available =>
    some ("Missing required columns for diagnostics: " ++ Text.quotedList missing
      ++ "\nAvailable columns: " ++ Text.quotedList available
      ++ "\nHint: Ensure input is tagged_transactions.csv produced by tag_transactions.py.")
  | settingsMissing => some "TAG_RULES_JSON, TAG_INPUT_PATH and TAG_OUTPUT_DIR must be provided"
  | pipelineSettingsMissing =>
    some "Missing TAG_RULES_JSON / TAG_INPUT_PATH / TAG_OUTPUT_DIR in code/.env"
  | stageOutputMissing path => some s!"Expected {path} from Stage 1 but not found."
  | commandFailed command status =>
    some ("Command '" ++ Text.quotedList command ++ "' returned non-zero exit status "
      ++ toString status ++ ".")

end StatementTagging
