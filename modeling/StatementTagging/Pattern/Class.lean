import StatementTagging.Text.Blank
import StatementTagging.Text.Digit
import StatementTagging.Text.Lower
import StatementTagging.Text.Word

set_option autoImplicit false

/-! # Classes of characters in patterns

What a single position of a pattern accepts: one character, a class given by ranges and kinds of
characters, and how both behave when the case of letters does not count.
-/

namespace StatementTagging.Pattern

open Text

/-! ## Kinds of characters -/

/-- The kinds of characters that have an escape of their own. -/
inductive CharKind where
  | digit
  | space
  | word

/-- The character is of the kind; `ascii` restricts the kind to the first 128 characters. -/
def CharKind.holds (k : CharKind) (ascii : Bool) (c : Char) : Bool :=
  (!ascii || c.toNat < 128) &&
    match k with
    | digit => isDigit c
    | space => isBlank c && !(ascii && 28 ≤ c.toNat && c.toNat ≤ 31)
    | word => isWord c

/-- A member of a class between brackets. -/
inductive ClassItem where
  | range (low high : Nat)
  | kind (k : CharKind) (ascii negated : Bool)

namespace ClassItem

/-- The single character with the given code. -/
def single (n : Nat) : ClassItem := range n n

/-- The item accepts the character as it stands. -/
def contains : ClassItem → Char → Bool
  | range low high, c => low ≤ c.toNat && c.toNat ≤ high
  | kind k ascii negated, c => k.holds ascii c != negated

end ClassItem

/-! ## Case -/

/-- How letters are compared: as they stand, without regard to the case of the basic letters, or
without regard to case at all. -/
inductive CaseRule where
  | exact
  | ascii
  | unicode

/-- The lower case of a basic letter. -/
def lowerBasic (c : Char) : Char := if 'A' ≤ c ∧ c ≤ 'Z' then Char.ofNat (c.toNat + 32) else c

/-- A basic letter. -/
def isBasicLetter (c : Char) : Bool := ('A' ≤ c && c ≤ 'Z') || ('a' ≤ c && c ≤ 'z')

/-- Some code between `low` and `high` belongs to the run. -/
def runMeets (r : Text.CaseRun) (low high : Nat) : Bool :=
  let start := if low ≤ r.first then r.first
    else r.first + (low - r.first + r.step - 1) / r.step * r.step
  start ≤ r.last && start ≤ high

namespace CaseRule

/-- The character of the text is accepted where the pattern has the character `x`. A character
without case stands for itself alone. -/
def accepts (rule : CaseRule) (x c : Char) : Bool :=
  match rule with
  | exact => x == c
  | ascii => if isBasicLetter x then lowerBasic x == lowerBasic c else x == c
  | unicode => if isCased x then (sameLower (lowerChar x)).contains (lowerChar c) else x == c

/-- Two characters of the text repeat each other. -/
def repeats (rule : CaseRule) (x c : Char) : Bool :=
  match rule with
  | exact => x == c
  | ascii => lowerBasic x == lowerBasic c
  | unicode => lowerChar x == lowerChar c

/-- The item holds a letter, so that case matters for its class. -/
def hasCase (rule : CaseRule) : ClassItem → Bool
  | .kind _ _ _ => false
  | .range low high =>
    match rule with
    | exact => false
    | ascii => (low ≤ 90 && 65 ≤ high) || (low ≤ 122 && 97 ≤ high)
    | unicode =>
      lowerRuns.any (runMeets · low high) || upperRuns.any (runMeets · low high)
        || upperTexts.any fun t => low ≤ t.1 && t.1 ≤ high

/-- The item accepts a character of which only the lower case is known. -/
def acceptsLower (rule : CaseRule) (item : ClassItem) (lower : Char) : Bool :=
  match item, rule with
  | .kind _ _ _, _ => item.contains lower
  | .range _ _, exact => item.contains lower
  | .range _ _, ascii =>
    (item.contains lower && lowerBasic lower == lower)
      || ('a' ≤ lower && lower ≤ 'z' && item.contains (Char.ofNat (lower.toNat - 32)))
  | .range _ _, unicode =>
    (sameLower lower).any fun d => item.contains d || (lowerPreimages d).any item.contains

/-- The class with the given items accepts the character. -/
def classAccepts (rule : CaseRule) (items : List ClassItem) (c : Char) : Bool :=
  if items.any rule.hasCase then
    let lower := match rule with
      | exact => c
      | ascii => lowerBasic c
      | unicode => lowerChar c
    items.any (rule.acceptsLower · lower)
  else items.any (·.contains c)

end CaseRule

end StatementTagging.Pattern
