set_option autoImplicit false

/-! # Escaping in patterns

A text becomes a pattern for itself when a backslash is put before every character that has a meaning
of its own. Taking these backslashes away gives the text back.
-/

namespace StatementTagging.Pattern

/-- The characters with a meaning of their own in patterns. -/
def isSpecial (c : Char) : Bool :=
  ['.', '*', '+', '?', '^', '$', '\x7b', '\x7d', '(', ')', '|', '[', ']', '\\'].contains c

/-- The pattern for a text. -/
def escape (text : List Char) : List Char :=
  text.flatMap fun c => if isSpecial c then ['\\', c] else [c]

/-- Takes away the backslashes before special characters. -/
def unescape : List Char → List Char
  | [] => []
  | ['\\'] => ['\\']
  | '\\' :: c :: r => if isSpecial c then c :: unescape r else '\\' :: unescape (c :: r)
  | c :: r => c :: unescape r

end StatementTagging.Pattern
