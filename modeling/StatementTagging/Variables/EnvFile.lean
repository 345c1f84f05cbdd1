import StatementTagging.Text.Blank
import StatementTagging.Text.Pieces
import StatementTagging.Variables

set_option autoImplicit false

/-! # Files of variables

A file of variables has a binding on each line: a name, and after an equals sign a text that may be
quoted. A quoted text may go over several lines. Lines that are no binding are skipped. A text may refer
to variables as `${NAME}` or, with another text for the case that there is none, `${NAME:-OTHER}`.
-/

namespace StatementTagging.EnvFile

/-! ## Characters -/

/-- The end of a line. -/
def isBreak (c : Char) : Bool := c == '\n' || c == '\r'

/-- A blank that does not end the line. -/
def isLineBlank (c : Char) : Bool := Text.isBlank c && !isBreak c

/-- The text after the blanks of the line. -/
def skipBlanks (s : List Char) : List Char := s.dropWhile isLineBlank

/-- The text after a line break. -/
def skipBreak : List Char → List Char
  | '\r' :: '\n' :: r => r
  | s => s.tail

/-- The text after the current line. -/
def skipLine (s : List Char) : List Char := skipBreak (s.dropWhile (!isBreak ·))

/-! ## Names -/

/-- What a step of reading gives: a result with the text after it, or the text at which it failed. -/
abbrev Reading (α : Type) := Except (List Char) (α × List Char)

/-- The text after the word that may stand before a name. -/
def skipExport (s : List Char) : List Char :=
  match List.isPrefixOf? "export".toList s with
  | some r => if (r.head?.map isLineBlank).getD false then skipBlanks r else s
  | none => s

/-- A character of a name without quotation marks. -/
def isNameChar (c : Char) : Bool := c != '=' && c != '#' && !Text.isBlank c

/-- Reads a name, which is missing before a comment. -/
def readName (s : List Char) : Reading (Option String) :=
  match s with
  | '#' :: _ => .ok (none, s)
  | '\'' :: r =>
    match Text.splitFirst '\'' r with
    | (c :: name, some rest) => .ok (some (String.ofList (c :: name)), rest)
    | _ => .error s
  | s =>
    let name := s.takeWhile isNameChar
    if name.isEmpty then .error s
    else .ok (some (String.ofList name), s.dropWhile isNameChar)

/-! ## Texts -/

/-- Splits a text at the mark that closes a quotation: the first one without a backslash before it, or
else the last one. -/
def closeQuote (mark : Char) : List Char → Option (List Char × List Char)
  | [] => none
  | '\\' :: c :: r =>
    if c = mark then
      match closeQuote mark r with
      | some (text, rest) => some ('\\' :: c :: text, rest)
      | none => some (['\\'], r)
    else (closeQuote mark (c :: r)).map fun (text, rest) => ('\\' :: text, rest)
  | c :: r =>
    if c = mark then some ([], r)
    else (closeQuote mark r).map fun (text, rest) => (c :: text, rest)

/-- Replaces a backslash and the character after it by what they stand for. -/
def unescape (meaning? : Char → Option Char) : List Char → List Char
  | [] => []
  | '\\' :: c :: r =>
    match meaning? c with
    | some d => d :: unescape meaning? r
    | none => '\\' :: unescape meaning? (c :: r)
  | c :: r => c :: unescape meaning? r

/-- Escapes between apostrophes. -/
def singleEscape? (c : Char) : Option Char := if c == '\\' || c == '\'' then some c else none

/-- Escapes between double quotation marks. -/
def doubleEscape? : Char → Option Char
  | '\\' => some '\\'
  | '\'' => some '\''
  | '"' => some '"'
  | 'a' => some '\x07'
  | 'b' => some '\x08'
  | 'f' => some '\x0c'
  | 'n' => some '\n'
  | 'r' => some '\r'
  | 't' => some '\t'
  | 'v' => some '\x0b'
  | _ => none

/-- The text before a comment; a comment has a blank before it. -/
def cutComment : List Char → List Char
  | [] => []
  | c :: r =>
    if Text.isBlank c && (r.dropWhile Text.isBlank).head? == some '#' then []
    else c :: cutComment r

/-- Reads a text between marks. -/
def readQuoted (mark : Char) (meaning? : Char → Option Char) (s r : List Char) :
    Reading (List Char) :=
  match closeQuote mark r with
  | some (text, rest) => .ok (unescape meaning? text, rest)
  | none => .error s

/-- Reads the text of a variable. -/
def readText (s : List Char) : Reading (List Char) :=
  match s with
  | '\'' :: r => readQuoted '\'' singleEscape? s r
  | '"' :: r => readQuoted '"' doubleEscape? s r
  | s =>
    .ok (Text.stripEnd (cutComment (s.takeWhile (!isBreak ·))), s.dropWhile (!isBreak ·))

/-! ## Bindings -/

/-- Reads the equals sign and the text after a name, if they are there. -/
def readAssigned (s : List Char) : Reading (Option (List Char)) :=
  match s with
  | '=' :: r => (readText (skipBlanks r)).map fun (text, rest) => (some text, rest)
  | s => .ok (none, s)

/-- Reads the end of a line, before which there may be a comment. -/
def readEnd (s : List Char) : Reading Unit :=
  let rest := match skipBlanks s with
    | '#' :: r => r.dropWhile (!isBreak ·)
    | r => r
  match rest with
  | [] => .ok ((), [])
  | c :: r => if isBreak c then .ok ((), skipBreak (c :: r)) else .error s

/-- A name with its text before references are resolved. -/
abbrev Binding := String × Option (List Char)

/-- Reads a binding, which may be missing. -/
def readBinding (s : List Char) : Except (List Char) (Option Binding × List Char) := do
  let (name, s) ← readName (skipExport s)
  let (text, s) ← readAssigned (skipBlanks s)
  let (_, s) ← readEnd s
  return (name.map fun n => (n, text), s)

/-- The bindings of a text; every line takes at most one step of the fuel. -/
def bindingsFrom : Nat → List Char → List Binding
  | 0, _ => []
  | fuel + 1, s =>
    let s := s.dropWhile Text.isBlank
    if s.isEmpty then []
    else
      match readBinding s with
      | .ok (binding, rest) => binding.toList ++ bindingsFrom fuel rest
      | .error rest => bindingsFrom fuel (skipLine rest)

/-- The bindings of a text. -/
def bindings (s : List Char) : List Binding := bindingsFrom (s.length + 1) s

/-! ## References -/

/-- A reference to a variable: its name, and the text for the case that there is none. -/
structure Reference where
  name : String
  other : List Char

/-- Reads a reference after its opening. -/
def readReference? (s : List Char) : Option (Reference × List Char) :=
  let name := String.ofList (s.takeWhile fun c => c != '\x7d' && c != ':')
  match s.dropWhile fun c => c != '\x7d' && c != ':' with
  | '\x7d' :: rest => some (⟨name, []⟩, rest)
  | ':' :: '-' :: r =>
    match Text.splitFirst '\x7d' r with
    | (other, some rest) => some (⟨name, other⟩, rest)
    | _ => none
  | _ => none

/-- A character of a text, or a reference in it. -/
inductive Piece where
  | char (c : Char)
  | reference (r : Reference)

/-- The pieces of a text; every step takes at least one character. -/
def piecesFrom : Nat → List Char → List Piece
  | 0, _ => []
  | _, [] => []
  | fuel + 1, c :: r =>
    let reference :=
      match c, r with
      | '$', '\x7b' :: r => readReference? r
      | _, _ => none
    match reference with
    | some (reference, rest) => .reference reference :: piecesFrom fuel rest
    | none => .char c :: piecesFrom fuel r

/-- The pieces of a text. -/
def pieces (s : List Char) : List Piece := piecesFrom (s.length + 1) s

/-- The text with all references resolved. -/
def expand (resolve : Reference → List Char) (s : List Char) : List Char :=
  (pieces s).flatMap fun
    | .char c => [c]
    | .reference r => resolve r

/-- The variables that a text refers to. -/
def referredNames (s : List Char) : List String :=
  (pieces s).filterMap fun
    | .char _ => none
    | .reference r => some r.name

/-- The text for a reference: variables around the command go before those of the file, and one of the
file that has no text is empty. -/
def resolveIn (around : Variables) (read : List (String × Option String)) (r : Reference) :
    List Char :=
  match around.lookup r.name with
  | some text => text.toList
  | none =>
    match read.lookup r.name with
    | some text => (text.getD "").toList
    | none => r.other

/-- The variables of bindings after those already read; a later binding of a name replaces an earlier
one in its place. -/
def variablesFrom (around : Variables) (read : List (String × Option String)) :
    List Binding → List (String × Option String)
  | [] => read
  | (name, text) :: r =>
    let text := text.map fun t => String.ofList (expand (resolveIn around read) t)
    variablesFrom around (upsert (· == ·) name text read) r

/-- The names that matter to a text: those it binds and those it refers to. -/
def namesIn (text : List Char) : List String :=
  (bindings text).flatMap fun (name, value) => name :: referredNames (value.getD [])

/-- The variables around a command together with those of a file, which never replace them. -/
def addTo (around : Variables) (text : List Char) : Variables :=
  around.withMissing (variablesFrom around [] (bindings text))

end StatementTagging.EnvFile
