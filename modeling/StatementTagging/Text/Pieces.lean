set_option autoImplicit false

/-! # Pieces of texts

Cutting a text at a mark, and bringing all line breaks into one form.
-/

namespace StatementTagging.Text

/-- The pieces of a text between the occurrences of a mark. -/
def pieces (mark : Char) : List Char → List (List Char)
  | [] => [[]]
  | c :: r =>
    if c = mark then [] :: pieces mark r
    else
      match pieces mark r with
      | piece :: rest => (c :: piece) :: rest
      | [] => [[c]]

/-- The text before the first mark, and the text after it if there is one. -/
def splitFirst (mark : Char) : List Char → List Char × Option (List Char)
  | [] => ([], none)
  | c :: r =>
    if c = mark then ([], some r)
    else
      let (before, rest) := splitFirst mark r
      (c :: before, rest)

/-- The text with a line feed for every line break. -/
def unifyBreaks : List Char → List Char
  | [] => []
  | '\r' :: '\n' :: r => '\n' :: unifyBreaks r
  | c :: r => (if c = '\r' then '\n' else c) :: unifyBreaks r

end StatementTagging.Text
