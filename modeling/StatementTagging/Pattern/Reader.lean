import StatementTagging.Pattern.Syntax
import StatementTagging.Pattern.Token
import StatementTagging.Text.CharName
import StatementTagging.Text.Name

set_option autoImplicit false

/-! # Reading patterns

From the text of a pattern to its syntax. Alternatives, sequences and groups read each other by
recursion; `fuel` bounds the depth and the number of tokens is always enough. The first fault found
from left to right decides; faults that concern the pattern as a whole are looked for at the end.
-/

namespace StatementTagging.Pattern

open Text

/-! ## What is known while reading -/

/-- The options in force at some place of a pattern. -/
structure Flags where
  ignoreCase : Bool := false
  multiLine : Bool := false
  dotAll : Bool := false
  ascii : Bool := false
  verbose : Bool := false

namespace Flags

/-- How letters are compared. -/
def caseRule (f : Flags) : CaseRule :=
  if f.ignoreCase then (if f.ascii then .ascii else .unicode) else .exact

/-- Switches one option on. -/
def add (f : Flags) (letter : Char) : Flags :=
  match letter with
  | 'i' => { f with ignoreCase := true }
  | 'm' => { f with multiLine := true }
  | 's' => { f with dotAll := true }
  | 'a' => { f with ascii := true }
  | 'u' => { f with ascii := false }
  | 'x' => { f with verbose := true }
  | _ => f

/-- Switches one option off. -/
def remove (f : Flags) (letter : Char) : Flags :=
  match letter with
  | 'i' => { f with ignoreCase := false }
  | 'm' => { f with multiLine := false }
  | 's' => { f with dotAll := false }
  | 'x' => { f with verbose := false }
  | _ => f

end Flags

/-- What has been learned from the part of the pattern already read. -/
structure Progress where
  /-- The options set for the whole pattern. -/
  flags : Flags := {}
  /-- The letters of those options. -/
  letters : List Char := []
  /-- The numbers of the named groups. -/
  names : List (List Char × Nat) := []
  /-- The widths of the groups in order of opening; absent while a group is open. -/
  widths : List (Option Width) := []
  /-- Inside a look-behind, the number of groups opened before it, plus one. -/
  behindLimit : Option Nat := none
  /-- The groups that conditionals ask for. -/
  asked : List Nat := []
  /-- Some look-behind has no fixed width. -/
  uneven : Bool := false

namespace Progress

/-- The width of a closed group. -/
def closedWidth? (st : Progress) (group : Nat) : Option Width :=
  if group = 0 then none else (st.widths[group - 1]?).join

/-- Inside a look-behind only groups closed before it may be asked for. -/
def mayAskFor (st : Progress) (group : Nat) : Bool :=
  match st.behindLimit with
  | some limit => (st.closedWidth? group).isSome && group < limit
  | none => true

end Progress

/-! ## Escapes -/

/-- The characters with an escape letter of their own, in classes and outside. -/
def controlEscape? (c : Char) : Option Char :=
  match c with
  | 'a' => some '\x07'
  | 'f' => some '\x0c'
  | 'n' => some '\n'
  | 'r' => some '\r'
  | 't' => some '\t'
  | 'v' => some '\x0b'
  | '\\' => some '\\'
  | _ => none

/-- The escapes of kinds of characters; an upper-case letter negates. -/
def kindEscape? (ascii : Bool) (c : Char) : Option ClassItem :=
  match c with
  | 'd' => some (.kind .digit ascii false)
  | 'D' => some (.kind .digit ascii true)
  | 's' => some (.kind .space ascii false)
  | 'S' => some (.kind .space ascii true)
  | 'w' => some (.kind .word ascii false)
  | 'W' => some (.kind .word ascii true)
  | _ => none

/-- The escapes of anchors. -/
def anchorEscape? (ascii : Bool) (c : Char) : Option Anchor :=
  match c with
  | 'A' => some .textStart
  | 'Z' => some .textEnd
  | 'b' => some (.wordEdge ascii)
  | 'B' => some (.noWordEdge ascii)
  | _ => none

def isOctal (c : Char) : Bool := '0' ≤ c && c ≤ '7'

/-- Codes from this one on do not fit into a signed word. -/
def codesLimit : Nat := 0x80000000

/-- The code given by exactly `count` hexadecimal digits. A token is looked at before the one in front of it is
used, so that a backslash at the end is found first. -/
def hexCode (count : Nat) (ts : List Token) : Except ReadFault (Nat × List Token) :=
  let (digits, rest) := takePlain isHexDigit count ts
  let n := numeral 16 digits
  if digits.length ≠ count then .error .malformed
  else if n < 0x110000 then .ok (n, rest)
  else if n < codesLimit ∨ rest.head? = some .dangling then .error .malformed
  else .error .codeTooLarge

/-- The code of the character whose name stands between braces. -/
def namedCode (ts : List Token) : Except ReadFault (Nat × List Token) :=
  match ts with
  | .plain '{' :: ts =>
    match nameUntil? '}' ts with
    | some (name, ts) =>
      match codeNamed? name with
      | some n => .ok (n, ts)
      | none => .error .malformed
    | none => .error .malformed
  | _ => .error .malformed

/-- The escapes that stand for a code, apart from octal ones: `\x`, `\u`, `\U`, `\N`, the control letters,
and every character that is not a basic letter or digit. -/
def codeEscape (c : Char) (ts : List Token) : Except ReadFault (Nat × List Token) :=
  match controlEscape? c with
  | some d => .ok (d.toNat, ts)
  | none =>
    if c = 'x' then hexCode 2 ts
    else if c = 'u' then hexCode 4 ts
    else if c = 'U' then hexCode 8 ts
    else if c = 'N' then namedCode ts
    else if isBasicLetter c || isBasicDigit c then .error .malformed
    else .ok (c.toNat, ts)

/-- The character with a code, under the rule in force. Codes that are no characters match nothing. -/
def literal (flags : Flags) (n : Nat) : Node :=
  if n.isValidChar then .char (Char.ofNat n) flags.caseRule else .never

/-! ## Classes -/

/-- One end of a range or a member of a class, given its first token. -/
def classAtom (flags : Flags) (t : Token) (ts : List Token) :
    Except ReadFault (ClassItem × List Token) :=
  match t with
  | .dangling => .error .malformed
  | .plain c => .ok (.single c.toNat, ts)
  | .escaped c =>
    match kindEscape? flags.ascii c with
    | some item => .ok (item, ts)
    | none =>
      if c = 'b' then .ok (.single 8, ts)
      else if isOctal c then
        let (digits, rest) := takePlain isOctal 2 ts
        let n := numeral 8 (c :: digits)
        if n ≤ 0o377 then .ok (.single n, rest) else .error .malformed
      else (codeEscape c ts).map fun (n, rest) => (.single n, rest)

/-- The range between two ends, which must be characters in order. -/
def rangeOf (low high : ClassItem) : Except ReadFault ClassItem :=
  match low, high with
  | .range a _, .range b _ => if a ≤ b then .ok (.range a b) else .error .malformed
  | _, _ => .error .malformed

/-- The members of a class up to its closing bracket; `items` are those read so far, last first. A
closing bracket at the very start is a member. -/
def classItems (flags : Flags) : Nat → List ClassItem → List Token →
    Except ReadFault (List ClassItem × List Token)
  | 0, _, _ => .error .malformed
  | _ + 1, _, [] => .error .malformed
  | fuel + 1, items, t :: ts =>
    if t = .plain ']' ∧ !items.isEmpty then .ok (items.reverse, ts)
    else do
      let (low, ts) ← classAtom flags t ts
      match ts with
      | .plain '-' :: .plain ']' :: ts => .ok ((.single '-'.toNat :: low :: items).reverse, ts)
      | [.plain '-'] => .error .malformed
      | .plain '-' :: u :: ts =>
        let (high, ts) ← classAtom flags u ts
        let range ← rangeOf low high
        classItems flags fuel (range :: items) ts
      | ts => classItems flags fuel (low :: items) ts

/-- A class, given the tokens after its opening bracket. A class of one character is that
character. -/
def readClass (flags : Flags) (ts : List Token) : Except ReadFault (Node × List Token) := do
  let (negated, ts) := match ts with
    | .plain '^' :: ts => (true, ts)
    | ts => (false, ts)
  let (items, ts) ← classItems flags (ts.length + 1) [] ts
  return (.oneOf negated items flags.caseRule, ts)

/-! ## Repetitions -/

/-- Numbers of rounds from this one on are too large. -/
def roundsLimit : Nat := 4294967295

/-- The number of rounds that digits write, which must not be too large. -/
def roundsOf (digits : List Char) : Except ReadFault Nat :=
  if digitsLimit < digits.length then .error (.tooManyDigits digits.length)
  else if roundsLimit ≤ numeral 10 digits then .error .repetitionTooLarge
  else .ok (numeral 10 digits)

/-- Numbers of rounds between braces, given the tokens after the opening one: the bounds, or nothing
if the brace stands for itself. -/
def braceBounds (ts : List Token) :
    Except ReadFault (Option (Nat × Option Nat × List Token)) :=
  let (low, afterLow) := takePlain isBasicDigit ts.length ts
  let (high, rest) := match afterLow with
    | .plain ',' :: r => takePlain isBasicDigit r.length r
    | r => (low, r)
  match rest with
  | .plain '}' :: rest =>
    if ts.head? = some (.plain '}') then .ok none
    else if rest.head? = some .dangling then .error .malformed
    else do
      let least ← roundsOf low
      let most ← if high.isEmpty then pure none else some <$> roundsOf high
      if most.getD least < least then throw .malformed
      return some (least, most, rest)
  | _ => .ok none

/-- The mark after a number of rounds that says how they are chosen. -/
def readGreed : List Token → Greed × List Token
  | .plain '?' :: ts => (.lazy, ts)
  | .plain '+' :: ts => (.possessive, ts)
  | ts => (.greedy, ts)

/-- A node of a sequence, with what a repetition after it has to know: anchors and repetitions cannot
be repeated. -/
structure Item where
  node : Node
  repeatable : Bool

/-- Repeats the last item; `items` are in reverse order. -/
def repeatLast (least : Nat) (most : Option Nat) (items : List Item) (ts : List Token) :
    Except ReadFault (List Item × List Token) :=
  match items with
  | ⟨node, true⟩ :: items =>
    let (greed, ts) := readGreed ts
    .ok (⟨.rounds least most greed node, false⟩ :: items, ts)
  | _ => .error .malformed

/-! ## Escapes outside classes -/

/-- A reference to a group, which must be closed. -/
def backref (flags : Flags) (st : Progress) (group : Nat) : Except ReadFault Node :=
  match st.closedWidth? group with
  | some w => if st.mayAskFor group then .ok (.backref group w flags.caseRule) else .error .malformed
  | none => .error .malformed

/-- A number after a backslash: three octal digits are a code, otherwise one or two digits are a
group. -/
def numberEscape (flags : Flags) (st : Progress) (c : Char) (ts : List Token) :
    Except ReadFault (Node × List Token) :=
  match ts with
  | .plain d :: ts' =>
    if isBasicDigit d then
      match isOctal c && isOctal d, ts' with
      | true, .plain e :: ts'' =>
        if isOctal e then
          let n := numeral 8 [c, d, e]
          if n ≤ 0o377 then .ok (literal flags n, ts'') else .error .malformed
        else (backref flags st (numeral 10 [c, d])).map (·, ts')
      | _, _ => (backref flags st (numeral 10 [c, d])).map (·, ts')
    else (backref flags st (numeral 10 [c])).map (·, ts)
  | _ => (backref flags st (numeral 10 [c])).map (·, ts)

/-- The item an escape stands for. -/
def readEscape (flags : Flags) (st : Progress) (c : Char) (ts : List Token) :
    Except ReadFault (Item × List Token) :=
  match anchorEscape? flags.ascii c, kindEscape? flags.ascii c with
  | some a, _ => .ok (⟨.anchor a, false⟩, ts)
  | none, some item => .ok (⟨.oneOf false [item] .exact, true⟩, ts)
  | none, none =>
    if c = '0' then
      let (digits, ts) := takePlain isOctal 2 ts
      .ok (⟨literal flags (numeral 8 digits), true⟩, ts)
    else if isBasicDigit c then
      (numberEscape flags st c ts).map fun (n, ts) => (⟨n, true⟩, ts)
    else (codeEscape c ts).map fun (n, ts) => (⟨literal flags n, true⟩, ts)

/-! ## Groups -/

/-- The letters of options. -/
def isFlagLetter (c : Char) : Bool := ['i', 'm', 's', 'x', 'a', 't', 'u'].contains c

/-- Letters of options that choose between character sets; they exclude each other and cannot be
switched off. -/
def isSetLetter (c : Char) : Bool := c == 'a' || c == 'u'

/-- The letter of an option that is only for whole patterns, and with which nothing may be repeated. -/
def isTemplateLetter (c : Char) : Bool := c == 't'

/-- Options inside a group mark: those switched on, those switched off, and whether they are meant for
the whole pattern. -/
structure FlagChange where
  added : List Char
  removed : List Char
  wholePattern : Bool

/-- The letters at the front. -/
def flagLetters (ts : List Token) : List Char × List Token := takePlain isFlagLetter ts.length ts

/-- A change of options, given the tokens after `(?`. -/
def readFlags (ts : List Token) : Except ReadFault (FlagChange × List Token) :=
  let (added, ts) := flagLetters ts
  if added.contains 'a' && added.contains 'u' then .error .malformed
  else
    match ts with
    | .plain ')' :: ts => if added.isEmpty then .error .malformed else .ok (⟨added, [], true⟩, ts)
    | .plain ':' :: ts =>
      if added.isEmpty || added.any isTemplateLetter then .error .malformed
      else .ok (⟨added, [], false⟩, ts)
    | .plain '-' :: ts =>
      let (removed, ts) := flagLetters ts
      match ts with
      | .plain ':' :: ts =>
        if removed.isEmpty || (added ++ removed).any isTemplateLetter || removed.any isSetLetter
            || removed.any added.contains then
          .error .malformed
        else .ok (⟨added, removed, false⟩, ts)
      | _ => .error .malformed
    | _ => .error .malformed

/-- The number that digits write, with single underscores allowed between them; `n` is the value of
the digits already read. -/
def groupedNumber? (n : Nat) : List Char → Option Nat
  | [] => some n
  | '_' :: c :: r => (digitValue? c).bind fun d => groupedNumber? (10 * n + d) r
  | c :: r => (digitValue? c).bind fun d => groupedNumber? (10 * n + d) r

/-- Numbers of groups from this one on are too large. -/
def groupsLimit : Nat := 1073741823

/-- The number of a group in decimal digits, for a conditional. -/
def groupNumber? (name : List Char) : Option Nat :=
  let digits := strip name
  let digits := if digits.head? = some '+' then digits.tail else digits
  match digits with
  | [] => none
  | '_' :: _ => none
  | ds =>
    if digitsLimit < ds.countP (· ≠ '_') then none
    else (groupedNumber? 0 ds).filter (· < groupsLimit)

/-- What a parenthesis has opened: an item, nothing at all (a comment), or options for the whole
pattern. -/
inductive Piece where
  | item (i : Item)
  | comment
  | options

/-- A closing parenthesis. -/
def closing (ts : List Token) : Except ReadFault (List Token) :=
  match ts with
  | .plain ')' :: ts => .ok ts
  | _ => .error .malformed

/-- Blanks that a verbose pattern leaves out. -/
def isPatternBlank (c : Char) : Bool := [' ', '\t', '\n', '\r', '\x0b', '\x0c'].contains c

mutual

/-- Alternatives between bars. `top` says that no group is open, `first` that nothing has been read. -/
def readAlternatives : Nat → Flags → Bool → Bool → Progress → List Token →
    Except ReadFault (Node × Progress × List Token)
  | 0, _, _, _, _, _ => .error .malformed
  | fuel + 1, flags, top, first, st, ts => do
    let (node, st, ts) ← readSequence fuel flags first st [] ts
    match ts with
    | .plain '|' :: ts =>
      let (others, st, ts) ←
        readAlternatives fuel (if top then st.flags else flags) top false st ts
      return (.alt node others, st, ts)
    | ts => return (node, st, ts)

/-- Items one after the other, up to a bar, a closing parenthesis or the end; `items` are those read
so far, last first. -/
def readSequence : Nat → Flags → Bool → Progress → List Item → List Token →
    Except ReadFault (Node × Progress × List Token)
  | 0, _, _, _, _, _ => .error .malformed
  | fuel + 1, flags, first, st, items, ts =>
    let finish := .ok (.sequence (items.reverse.map (·.node)), st, ts)
    match ts with
    | [] => finish
    | .dangling :: _ => .error .malformed
    | .escaped c :: ts => do
      let (item, ts) ← readEscape flags st c ts
      readSequence fuel flags first st (item :: items) ts
    | .plain c :: ts =>
      if c = '|' ∨ c = ')' then finish
      else if flags.verbose && isPatternBlank c then readSequence fuel flags first st items ts
      else if flags.verbose && c == '#' then
        readSequence fuel flags first st items ((afterPlain? '\n' ts).getD (ts.filter (· = .dangling)))
      else
        match c with
        | '[' => do
          let (node, ts) ← readClass flags ts
          readSequence fuel flags first st (⟨node, true⟩ :: items) ts
        | '*' => do
          let (items, ts) ← repeatLast 0 none items ts
          readSequence fuel flags first st items ts
        | '+' => do
          let (items, ts) ← repeatLast 1 none items ts
          readSequence fuel flags first st items ts
        | '?' => do
          let (items, ts) ← repeatLast 0 (some 1) items ts
          readSequence fuel flags first st items ts
        | '{' => do
          match ← braceBounds ts with
          | some (least, most, ts) =>
            let (items, ts) ← repeatLast least most items ts
            readSequence fuel flags first st items ts
          | none => readSequence fuel flags first st (⟨literal flags c.toNat, true⟩ :: items) ts
        | '.' => readSequence fuel flags first st (⟨.any flags.dotAll, true⟩ :: items) ts
        | '^' =>
          let a := if flags.multiLine then Anchor.lineStart else .textStart
          readSequence fuel flags first st (⟨.anchor a, false⟩ :: items) ts
        | '$' =>
          let a := if flags.multiLine then Anchor.lineEnd else .lastLineEnd
          readSequence fuel flags first st (⟨.anchor a, false⟩ :: items) ts
        | '(' => do
          let (piece, st, ts) ← readGroup fuel flags (first && items.isEmpty) st ts
          match piece with
          | .item i => readSequence fuel flags first st (i :: items) ts
          | .comment => readSequence fuel flags first st items ts
          | .options => readSequence fuel st.flags first st items ts
        | _ => readSequence fuel flags first st (⟨literal flags c.toNat, true⟩ :: items) ts

/-- A group, given the tokens after its opening parenthesis. `mayOption` says that options for the
whole pattern may stand here. -/
def readGroup : Nat → Flags → Bool → Progress → List Token →
    Except ReadFault (Piece × Progress × List Token)
  | 0, _, _, _, _ => .error .malformed
  | fuel + 1, flags, mayOption, st, ts =>
    match ts with
    | .plain '?' :: .plain 'P' :: .plain '<' :: ts =>
      match nameUntil? '>' ts with
      | some (name, ts) =>
        if isName name && (st.names.lookup name).isNone then
          let st := { st with names := (name, st.widths.length + 1) :: st.names }
          readCapture fuel flags st ts
        else .error .malformed
      | none => .error .malformed
    | .plain '?' :: .plain 'P' :: .plain '=' :: ts =>
      match nameUntil? ')' ts with
      | some (name, ts) =>
        match st.names.lookup name with
        | some group => do
          let node ← backref flags st group
          return (.item ⟨node, true⟩, st, ts)
        | none => .error .malformed
      | none => .error .malformed
    | .plain '?' :: .plain ':' :: ts => readUncaptured fuel flags st ts id
    | .plain '?' :: .plain '>' :: ts => readUncaptured fuel flags st ts .atomic
    | .plain '?' :: .plain '=' :: ts => readUncaptured fuel flags st ts (.ahead false)
    | .plain '?' :: .plain '!' :: ts => readUncaptured fuel flags st ts (.ahead true)
    | .plain '?' :: .plain '<' :: .plain '=' :: ts => readBehind fuel flags false st ts
    | .plain '?' :: .plain '<' :: .plain '!' :: ts => readBehind fuel flags true st ts
    | .plain '?' :: .plain '#' :: ts =>
      match afterPlain? ')' ts with
      | some ts => .ok (.comment, st, ts)
      | none => .error .malformed
    | .plain '?' :: .plain '(' :: ts => readConditional fuel flags st ts
    | .plain '?' :: ts => do
      let (change, ts) ← readFlags ts
      if change.wholePattern then
        if mayOption then
          let st := { st with
            flags := change.added.foldl Flags.add st.flags
            letters := change.added ++ st.letters }
          return (.options, st, ts)
        else .error .malformed
      else
        let inner := change.removed.foldl Flags.remove (change.added.foldl Flags.add flags)
        readUncaptured fuel inner st ts id
    | ts => readCapture fuel flags st ts

/-- A capturing group, given the tokens of its body. -/
def readCapture : Nat → Flags → Progress → List Token →
    Except ReadFault (Piece × Progress × List Token)
  | 0, _, _, _ => .error .malformed
  | fuel + 1, flags, st, ts => do
    let index := st.widths.length + 1
    let (body, st, ts) ←
      readAlternatives fuel flags false false { st with widths := st.widths ++ [none] } ts
    let ts ← closing ts
    let st := { st with widths := st.widths.set (index - 1) (some body.width) }
    return (.item ⟨.capture index body, true⟩, st, ts)

/-- A group that captures nothing, given the tokens of its body and what becomes of it. -/
def readUncaptured : Nat → Flags → Progress → List Token → (Node → Node) →
    Except ReadFault (Piece × Progress × List Token)
  | 0, _, _, _, _ => .error .malformed
  | fuel + 1, flags, st, ts, wrap => do
    let (body, st, ts) ← readAlternatives fuel flags false false st ts
    let ts ← closing ts
    return (.item ⟨wrap body, true⟩, st, ts)

/-- A look-behind, given the tokens of its body. -/
def readBehind : Nat → Flags → Bool → Progress → List Token →
    Except ReadFault (Piece × Progress × List Token)
  | 0, _, _, _, _ => .error .malformed
  | fuel + 1, flags, negated, st, ts => do
    let outer := st.behindLimit
    let limit := outer.getD (st.widths.length + 1)
    let (body, st, ts) ←
      readAlternatives fuel flags false false { st with behindLimit := some limit } ts
    let ts ← closing ts
    let st := { st with behindLimit := outer }
    match body.width.fixed? with
    | some w =>
      return (.item ⟨.behind negated w body, true⟩, { st with uneven := st.uneven || roundsLimit < w }, ts)
    | none => return (.item ⟨.never, true⟩, { st with uneven := true }, ts)

/-- A conditional, given the tokens after its second opening parenthesis. -/
def readConditional : Nat → Flags → Progress → List Token →
    Except ReadFault (Piece × Progress × List Token)
  | 0, _, _, _ => .error .malformed
  | fuel + 1, flags, st, ts =>
    match nameUntil? ')' ts with
    | none => .error .malformed
    | some (name, ts) =>
      let group := if isName name then st.names.lookup name else groupNumber? name
      match group with
      | none => .error .malformed
      | some 0 => .error .malformed
      | some group => do
        if !st.mayAskFor group then throw .malformed
        let st := { st with asked := group :: st.asked }
        let (yes, st, ts) ← readSequence fuel flags false st [] ts
        match ts with
        | .plain '|' :: ts =>
          let (no, st, ts) ← readSequence fuel flags false st [] ts
          let ts ← closing ts
          return (.item ⟨.ifGroup group yes no, true⟩, st, ts)
        | ts =>
          let ts ← closing ts
          return (.item ⟨.ifGroup group yes .empty, true⟩, st, ts)

end

/-! ## Whole patterns -/

/-- The pattern that a text writes. -/
def read (text : List Char) : Except ReadFault Pattern := do
  let ts := tokens text
  let (root, st, rest) ← readAlternatives (4 * ts.length + 4) {} true true {} ts
  if st.letters.contains 'a' && st.letters.contains 'u' then throw .flagConflict
  let groups := st.widths.length
  let forbidden := st.letters.any isTemplateLetter && root.repeats
  if rest.isEmpty && st.asked.all (· ≤ groups) && !st.uneven && !forbidden then return ⟨root, groups⟩
  else throw .malformed

end StatementTagging.Pattern
