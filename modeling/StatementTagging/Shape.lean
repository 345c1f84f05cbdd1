import StatementTagging.Criterion
import StatementTagging.Extraction

set_option autoImplicit false

/-! # Shapes of patterns

From the text of a pattern back to the form an editor shows. Shapes are tried in a fixed order, the
most special first; a text of no other shape is taken as a test for containing it. Only what the
compilation of forms writes is recovered exactly.
-/

namespace StatementTagging

open Pattern (unescape)

/-! ## Parts of texts -/

/-- The text does not cross a line. -/
def isOneLine (cs : List Char) : Bool := !cs.contains '\n'

/-- The rest of a text after `lead`. -/
def dropLead? (lead cs : List Char) : Option (List Char) :=
  if lead.isPrefixOf cs then some (cs.drop lead.length) else none

/-- The part of a text before `tail`. -/
def dropTail? (tail cs : List Char) : Option (List Char) :=
  if tail.isSuffixOf cs then some (cs.take (cs.length - tail.length)) else none

/-- A text that can stand for a dot repeated at least once. -/
def line? (cs : List Char) : Option (List Char) :=
  if !cs.isEmpty && isOneLine cs then some cs else none

/-- A backslash stands before the character after this text, and is not itself escaped. -/
def escapesNext (cs : List Char) : Bool := (cs.reverse.takeWhile (· == '\\')).length % 2 == 1

/-- The text before an anchor at the end that is not escaped. -/
def beforeAnchor? (cs : List Char) : Option (List Char) :=
  match dropTail? ['$'] cs with
  | some r => if r.isEmpty || escapesNext r then none else some r
  | none => none

/-- The string without the backslashes before special characters. -/
def plainText (cs : List Char) : String := String.ofList (unescape cs)

/-! ## Splitting -/

/-- Splits at the bars that are not escaped; `odd` says that an odd number of backslashes stands right
before the text. -/
def splitBars (odd : Bool) : List Char → List (List Char)
  | [] => [[]]
  | c :: r =>
    if c = '|' ∧ !odd then [] :: splitBars false r
    else
      match splitBars (c == '\\' && !odd) r with
      | part :: parts => (c :: part) :: parts
      | [] => [[c]]

/-- The alternatives of a pattern. -/
def alternatives (cs : List Char) : List (List Char) := splitBars false cs

/-- The text is made of single characters and of backslashes with the character after them on the same
line. -/
def isUnits : List Char → Bool
  | [] => true
  | ['\\'] => false
  | '\\' :: c :: r => c != '\n' && isUnits r
  | _ :: r => isUnits r

/-- The inside of a group that begins at the front of the text and ends with it. -/
def wholeGroup? (cs : List Char) : Option (List Char) :=
  (dropLead? "(?:".toList cs).bind fun r =>
    (dropTail? [')'] r).bind fun inner => if isUnits inner then some inner else none

/-- Splits a text into a line and a group at the end; of several ways the one with the longest
line. -/
def splitLastGroup : List Char → Option (List Char × List Char)
  | [] => none
  | c :: r =>
    match (if c = '\n' then none else splitLastGroup r) with
    | some (lead, inner) => some (c :: lead, inner)
    | none => (wholeGroup? (c :: r)).map fun inner => ([], inner)

/-- A line that is not empty, and the inside of the group after it. -/
def lineAndGroup? : List Char → Option (List Char × List Char)
  | [] => none
  | c :: r =>
    if c = '\n' then none
    else (splitLastGroup r).map fun (lead, inner) => (c :: lead, inner)

/-- The inside of the first group, given the text from there on, the line after it, and the inside of
the group at the end. The first group is as short as possible. -/
def twoGroups? : List Char → Option (List Char × List Char × List Char)
  | [] => none
  | ['\\'] => none
  | '\\' :: c :: r =>
    if c = '\n' then none
    else (twoGroups? r).map fun (first, rest) => ('\\' :: c :: first, rest)
  | c :: r =>
    match (if c = ')' then lineAndGroup? r else none) with
    | some (lead, inner) => some ([], lead, inner)
    | none => (twoGroups? r).map fun (first, rest) => (c :: first, rest)

/-- The parts of a text around the first occurrence of `mid`. -/
def around? (mid : List Char) : List Char → Option (List Char × List Char)
  | [] => none
  | c :: r =>
    if mid.isPrefixOf (c :: r) then some ([], (c :: r).drop mid.length)
    else (around? mid r).map fun (lead, rest) => (c :: lead, rest)

/-! ## Tests -/

/-- The shape of a comparison. -/
def comparison? (p : List Char) : Option MatchForm :=
  match Criterion.ofSource p with
  | .comparison c threshold => some { operation := .compare c, value := String.ofList threshold }
  | .pattern _ => none

/-- The shape of a value between two groups. -/
def extractAndCompare? (p : List Char) : Option MatchForm :=
  ((dropLead? "(?:".toList p).bind twoGroups?).map fun (first, value, last) =>
    { operation := .extractAndCompare
      value := plainText value
      before := some (plainText first)
      after := some (plainText last) }

/-- The shape of a test for not containing. -/
def doesNotContain? (p : List Char) : Option MatchForm :=
  (((dropLead? "^(?!.*".toList p).bind (dropTail? [')'])).bind line?).map fun v =>
    { operation := .doesNotContain, value := plainText v }

/-- The shape of a test for not being equal. -/
def doesNotEqual? (p : List Char) : Option MatchForm :=
  (((dropLead? "^(?!".toList p).bind (dropTail? ['$', ')'])).bind line?).bind fun v =>
    if escapesNext v then none else some { operation := .doesNotEqual, value := plainText v }

/-- The shape of a test for being equal. -/
def equals? (p : List Char) : Option MatchForm :=
  ((dropLead? ['^'] p).bind beforeAnchor?).map fun v =>
    { operation := .equals, value := plainText v }

/-- The shape of a test for the beginning. -/
def beginsWith? (p : List Char) : Option MatchForm :=
  (dropLead? ['^'] p).bind fun v =>
    if v.isEmpty then none else some { operation := .beginsWith, value := plainText v }

/-- The shape of a test for the end. -/
def endsWith? (p : List Char) : Option MatchForm :=
  (beforeAnchor? p).map fun v => { operation := .endsWith, value := plainText v }

/-- The shape of a test for one of several values. -/
def matchesPattern? (p : List Char) : Option MatchForm :=
  match alternatives p with
  | v :: w :: r =>
    some
      { operation := .matchesPattern
        value := plainText v
        values := some ((v :: w :: r).map plainText) }
  | _ => none

/-- The test that is left when no shape fits. -/
def containsForm (p : List Char) : MatchForm := { operation := .contains, value := plainText p }

/-! ## Extractions -/

/-- The shape of an extraction between two texts. -/
def extractBetween? (p : List Char) : Option ExtractionForm :=
  match p with
  | [] => none
  | c :: r =>
    match around? ExtractionForm.lazyGroup r with
    | some (lead, rest) =>
      if isOneLine (c :: lead) && !rest.isEmpty && isOneLine rest then
        some
          { operation := .between
            before := some (plainText (c :: lead))
            after := some (plainText rest) }
      else none
    | none => none

/-- The shape of an extraction after a text. -/
def extractAfter? (p : List Char) : Option ExtractionForm :=
  ((dropTail? ExtractionForm.greedyGroup p).bind line?).map fun lead =>
    { operation := .after, before := some (plainText lead) }

/-- The shape of an extraction before a text. -/
def extractBefore? (p : List Char) : Option ExtractionForm :=
  ((dropLead? ExtractionForm.lazyGroup p).bind line?).map fun rest =>
    { operation := .before, after := some (plainText rest) }

/-- The shape of an extraction of one kind or another. -/
def extraction? (p : List Char) : Option ExtractionForm :=
  extractBetween? p <|> extractAfter? p <|> extractBefore? p

/-! ## Recognition -/

/-- The shapes that are tried before those of extractions. -/
def specialTest? (p : List Char) : Option MatchForm :=
  comparison? p <|> extractAndCompare? p <|> doesNotContain? p <|> doesNotEqual? p

/-- The shapes that are tried after those of extractions. -/
def generalTest (p : List Char) : MatchForm :=
  (equals? p <|> beginsWith? p <|> endsWith? p <|> matchesPattern? p).getD (containsForm p)

/-- The test behind a pattern. -/
def decomposeMatch (p : List Char) : MatchForm := (specialTest? p).getD (generalTest p)

/-- The extraction behind a pattern. -/
def decomposeExtraction (p : List Char) : ExtractionForm :=
  match PredefinedPattern.ofPattern? (String.ofList p) with
  | some q => { operation := .predefined q.key }
  | none =>
    match extraction? p with
    | some form => form
    | none =>
      let inner := ((dropLead? ['('] p).bind (dropTail? [')'])).bind line?
      { operation := .matching, pattern := some (String.ofList (inner.getD p)) }

/-- A pattern recognised as a test or as an extraction. -/
inductive Recognised where
  | test (form : MatchForm)
  | extraction (form : ExtractionForm)
deriving DecidableEq

/-- What a pattern of unknown purpose looks like. -/
def recognise (p : List Char) : Recognised :=
  match specialTest? p with
  | some form => .test form
  | none =>
    match extraction? p with
    | some form => .extraction form
    | none => .test (generalTest p)

/-! ## Descriptions -/

/-- The description of a test recovered from a pattern. -/
def MatchForm.rendering (f : MatchForm) : String :=
  match f.operation with
  | .compare c => c.label ++ " " ++ f.value
  | .matchesPattern =>
    "Matches one of: " ++ String.intercalate ", " ((f.values.getD []).map between)
  | .extractAndCompare =>
    "Extract between " ++ between (f.before.getD "") ++ " and " ++ between (f.after.getD "")
      ++ " equals " ++ between f.value
  | .doesNotContain => "Does not contain " ++ between f.value
  | .doesNotEqual => "Does not equal " ++ between f.value
  | .equals => "Equals " ++ between f.value
  | .beginsWith => "Starts with " ++ between f.value
  | .endsWith => "Ends with " ++ between f.value
  | .contains | .other _ => "Contains " ++ between f.value

/-- The description of what was recognised. -/
def Recognised.rendering : Recognised → String
  | test form => form.rendering
  | extraction form => form.description

/-- The description of a pattern. -/
def describe (p : List Char) : String :=
  match PredefinedPattern.ofPattern? (String.ofList p) with
  | some q => q.label
  | none => (recognise p).rendering

end StatementTagging
