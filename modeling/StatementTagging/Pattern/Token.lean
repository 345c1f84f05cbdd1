set_option autoImplicit false

/-! # Tokens of patterns

A pattern is read token by token: a backslash belongs to the character after it.
-/

namespace StatementTagging.Pattern

/-- A character, a character after a backslash, or a backslash at the end. -/
inductive Token where
  | plain (c : Char)
  | escaped (c : Char)
  | dangling
deriving DecidableEq

/-- The tokens of a text. -/
def tokens : List Char → List Token
  | [] => []
  | ['\\'] => [.dangling]
  | '\\' :: c :: r => .escaped c :: tokens r
  | c :: r => .plain c :: tokens r

/-- Up to `most` plain characters from a class at the front, with the tokens after them. -/
def takePlain (accepts : Char → Bool) : Nat → List Token → List Char × List Token
  | 0, ts => ([], ts)
  | most + 1, .plain c :: r =>
    if accepts c then
      let (cs, rest) := takePlain accepts most r
      (c :: cs, rest)
    else ([], .plain c :: r)
  | _, ts => ([], ts)

/-- The tokens after the first plain `c`; nothing if there is none. -/
def afterPlain? (c : Char) : List Token → Option (List Token)
  | [] => none
  | t :: r => if t = .plain c then some r else afterPlain? c r

/-- Plain characters up to a plain `stop`, with the tokens after it. There must be at least one. -/
def nameUntil? (stop : Char) : List Token → Option (List Char × List Token)
  | .plain c :: r =>
    if c = stop then none
    else if r.head? = some (.plain stop) then some ([c], r.tail)
    else (nameUntil? stop r).map fun (cs, rest) => (c :: cs, rest)
  | _ => none

end StatementTagging.Pattern
