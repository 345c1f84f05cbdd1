import StatementTagging.Text.Lower
import StatementTagging.Text.Pieces

set_option autoImplicit false

/-! # Paths

A path is a list of names that leads to a file, from the current directory or from the root. Empty names
and single dots are left out when a path is read; double dots stay, because where they lead depends on
the directories that exist.
-/

namespace StatementTagging

/-- Where a path starts. -/
inductive PathStart where
  | current
  | root
  /-- Two slashes, which are not the same as one. -/
  | doubleSlash
deriving DecidableEq

/-- A path. -/
structure Path where
  start : PathStart
  names : List String
deriving DecidableEq

/-- How a start is written. -/
def PathStart.text : PathStart → String
  | current => ""
  | root => "/"
  | doubleSlash => "//"

namespace Path

/-! ## Reading and writing -/

/-- The start of a text. -/
def startOf : List Char → PathStart
  | '/' :: '/' :: '/' :: _ => .root
  | '/' :: '/' :: _ => .doubleSlash
  | '/' :: _ => .root
  | _ => .current

/-- The names in a text. -/
def namesOf (s : List Char) : List String :=
  ((Text.pieces '/' s).map String.ofList).filter fun name => name != "" && name != "."

/-- The path that a text writes. -/
def ofText (s : String) : Path := ⟨startOf s.toList, namesOf s.toList⟩

/-- The text of a path; that of the current directory is a dot. -/
def text (p : Path) : String :=
  let s := p.start.text ++ String.intercalate "/" p.names
  if s = "" then "." else s

/-! ## Parts -/

/-- The path to something in the directory to which this path leads. -/
def child (p : Path) (name : String) : Path := { p with names := p.names ++ [name] }

/-- The path to the directory around that to which this path leads. -/
def parent (p : Path) : Path := { p with names := p.names.dropLast }

/-- The last name, empty if there is none. -/
def lastName (p : Path) : String := p.names.getLast?.getD ""

/-- The end of a name from its last dot on, last character first. It is empty if that dot is the first
or the last character. -/
def suffixOf (name : List Char) : List Char :=
  let ending := name.reverse.takeWhile (· != '.')
  if ending.isEmpty || name.length ≤ ending.length + 1 then []
  else ending ++ ['.']

/-- The end of the last name from its last dot on. -/
def suffix (p : Path) : List Char := (suffixOf p.lastName.toList).reverse

/-- The last name ends in a suffix, in letters of any case. -/
def hasSuffix (p : Path) (suffix : String) : Bool :=
  p.suffix.map Text.lowerChar == suffix.toList

end Path

end StatementTagging
