import StatementTagging.Text.Digit
import StatementTagging.Text.Pieces

set_option autoImplicit false

/-! # Options on a command line

The arguments of a command are options with values. An option may be shortened to a beginning of its
name that no other option shares, and its value may follow an equals sign or be the next argument. After
two dashes alone nothing is an option any more. There are no arguments besides options.
-/

namespace StatementTagging

/-- An option that a command takes. -/
structure OptionSpec where
  /-- The name with its two dashes. -/
  name : String
  required : Bool := false

/-- Why arguments give no values. -/
inductive OptionsStop where
  /-- The caller asks for help. -/
  | help
  /-- The arguments make no sense. -/
  | misuse

/-- Values under the names of options, the last one first. -/
abbrev OptionValues := List (String × String)

namespace Options

/-! ## Arguments by themselves -/

/-- An option that an argument names. -/
inductive OptionName where
  | help
  | valued (name : String)

/-- What an argument has after the name of an option. -/
inductive Attached where
  | nothing
  /-- A text after an equals sign. -/
  | assigned (text : List Char)
  /-- A text right after a short name. -/
  | joined (text : List Char)

/-- The role of an argument. -/
inductive Argument where
  | value (text : List Char)
  | separator
  | option (name : OptionName) (attached : Attached)
  /-- Something like an option that there is not. -/
  | unknown

/-- What follows a name, given the text after the equals sign if there is one. -/
def Attached.ofAssigned : Option (List Char) → Attached
  | some text => assigned text
  | none => nothing

/-- The names of all options. -/
def allNames (specs : List OptionSpec) : List (List Char × OptionName) :=
  ("-h".toList, .help) :: ("--help".toList, .help) ::
    specs.map fun s => (s.name.toList, .valued s.name)

/-- The options whose names a long argument may shorten, with the text after its equals sign. -/
def longCandidates (names : List (List Char × OptionName)) (arg : List Char) : List Argument :=
  let (stem, attached) := Text.splitFirst '=' arg
  (names.filter fun n => stem.isPrefixOf n.1).map fun n => .option n.2 (.ofAssigned attached)

/-- The options that an argument with one dash may name: the one made of its first two characters, with
the others as its text, and those that begin with all of it. -/
def shortCandidates (names : List (List Char × OptionName)) (arg : List Char) : List Argument :=
  names.filterMap fun (name, option) =>
    if name == arg.take 2 then some (.option option (.joined (arg.drop 2)))
    else if arg.isPrefixOf name then some (.option option .nothing)
    else none

/-- The options that an argument may name if it is not exactly one. -/
def candidates (names : List (List Char × OptionName)) (arg : List Char) : List Argument :=
  match arg with
  | '-' :: '-' :: _ => longCandidates names arg
  | _ => shortCandidates names arg

/-- The characters make a number without a sign. -/
def isNumber (s : List Char) : Bool :=
  match Text.splitFirst '.' s with
  | (whole, none) => !whole.isEmpty && whole.all Text.isDigit
  | (whole, some places) =>
    whole.all Text.isDigit && !places.isEmpty && places.all Text.isDigit

/-- The option that an argument names exactly, possibly before an equals sign. -/
def exactOption? (names : List (List Char × OptionName)) (arg : List Char) : Option Argument :=
  match names.lookup arg with
  | some option => some (.option option .nothing)
  | none =>
    match Text.splitFirst '=' arg with
    | (stem, some text) => (names.lookup stem).map fun option => .option option (.assigned text)
    | _ => none

/-- The role of an argument that may be an option. It must not name several; numbers and texts with a
space that name none are values. -/
def classifyDashed (names : List (List Char × OptionName)) (arg : List Char) :
    Except OptionsStop Argument :=
  match exactOption? names arg with
  | some a => .ok a
  | none =>
    match candidates names arg with
    | [a] => .ok a
    | [] =>
      if isNumber arg.tail || arg.contains ' ' then .ok (.value arg) else .ok .unknown
    | _ => .error .misuse

/-- The role of an argument. -/
def classify (names : List (List Char × OptionName)) (arg : List Char) :
    Except OptionsStop Argument :=
  match arg with
  | '-' :: _ :: _ => classifyDashed names arg
  | _ => .ok (.value arg)

/-- The roles of all arguments. -/
def classifyAll (names : List (List Char × OptionName)) :
    List (List Char) → Except OptionsStop (List Argument)
  | [] => .ok []
  | arg :: r =>
    if arg = ['-', '-'] then .ok (.separator :: r.map .value)
    else do
      let first ← classify names arg
      return first :: (← classifyAll names r)

/-! ## Arguments together -/

/-- What comes of a request for help with a text joined to it. The text is read as further requests in
their short form; the first character that is none is left aside, but a dash or an equals sign makes no
sense there. -/
def joinedHelp : List Char → OptionsStop
  | [] => .misuse
  | '-' :: _ => .misuse
  | 'h' :: r =>
    match r with
    | [] => .help
    | '=' :: _ => .misuse
    | r => joinedHelp r
  | _ => .help

/-- What comes of a request for help. -/
def helpStop : Attached → OptionsStop
  | .nothing => .help
  | .assigned _ => .misuse
  | .joined text => joinedHelp text

/-- Collects the values of options; `extra` says that something else was among the arguments, which
counts only at their end. -/
def collect (values : OptionValues) (extra : Bool) :
    List Argument → Except OptionsStop OptionValues
  | [] => if extra then .error .misuse else .ok values
  | .option .help attached :: _ => .error (helpStop attached)
  | .option (.valued name) (.assigned text) :: r =>
    collect ((name, String.ofList text) :: values) extra r
  | .option (.valued name) (.joined text) :: r =>
    collect ((name, String.ofList text) :: values) extra r
  | .option (.valued name) .nothing :: .value text :: r =>
    collect ((name, String.ofList text) :: values) extra r
  | .option (.valued _) .nothing :: _ => .error .misuse
  | .value _ :: r => collect values true r
  | .separator :: r => collect values true r
  | .unknown :: r => collect values true r

/-- The values that arguments give to options. -/
def read (specs : List OptionSpec) (args : List String) : Except OptionsStop OptionValues := do
  let roles ← classifyAll (allNames specs) (args.map (·.toList))
  let values ← collect [] false roles
  if specs.all fun s => !s.required || (values.lookup s.name).isSome then return values
  else throw .misuse

end Options

/-- The value of an option. -/
def OptionValues.value? (values : OptionValues) (name : String) : Option String :=
  values.lookup name

end StatementTagging
