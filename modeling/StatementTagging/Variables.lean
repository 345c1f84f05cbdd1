import StatementTagging.Datum

set_option autoImplicit false

/-! # Variables

Texts under names that a command finds around it. An empty variable counts as one that is not given,
but it is there all the same and a file of variables does not replace it.
-/

namespace StatementTagging

/-- The text if it is not empty. -/
def nonEmpty? (s : String) : Option String := if s = "" then none else some s

/-- Texts under names. -/
abbrev Variables := List (String × String)

namespace Variables

/-- The text of a variable that is not empty. -/
def given? (env : Variables) (name : String) : Option String :=
  (env.lookup name).bind nonEmpty?

/-- The variables with others that are not there yet; those without a text are left out. -/
def withMissing (env : Variables) (others : List (String × Option String)) : Variables :=
  env ++ others.filterMap fun (name, text) =>
    if (env.lookup name).isSome then none else text.map fun t => (name, t)

end Variables

end StatementTagging
