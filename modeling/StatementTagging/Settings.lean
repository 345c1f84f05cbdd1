import StatementTagging.Fault
import StatementTagging.Path
import StatementTagging.Variables

set_option autoImplicit false

/-! # Settings

Where rules and transactions are read from, where results go, and two choices with a default. What a
caller gives goes before variables, and an empty text counts as not given.
-/

namespace StatementTagging

/-- The field of descriptions unless another one is chosen. -/
def defaultDescriptionField : String := "Field86"

/-- The settings of a command. -/
structure Settings where
  rules : Path
  input : Path
  output : Path
  descriptionField : String
  /-- The day for which definitions must be in force, if it is not the current one. -/
  asOf : Option String

/-- What a caller gives. -/
structure GivenSettings where
  rules : Option String := none
  input : Option String := none
  output : Option String := none
  descriptionField : Option String := none
  asOf : Option String := none

/-- The first of a caller's text and a variable that is given and not empty. -/
def choose (text : Option String) (env : Variables) (name : String) : Option String :=
  (text.bind nonEmpty?).or (env.given? name)

/-- The settings from what a caller gives and from variables. -/
def Settings.resolve (given : GivenSettings) (env : Variables) : Except Fault Settings :=
  match choose given.rules env "TAG_RULES_JSON",
    choose given.input env "TAG_INPUT_PATH",
    choose given.output env "TAG_OUTPUT_DIR" with
  | some rules, some input, some output =>
    .ok {
      rules := Path.ofText rules
      input := Path.ofText input
      output := Path.ofText output
      descriptionField :=
        (choose given.descriptionField env "TAG_DESCRIPTION_FIELD").getD
          defaultDescriptionField
      asOf := choose given.asOf env "TAG_AS_OF_DATE" }
  | _, _, _ => .error .settingsMissing

end StatementTagging
