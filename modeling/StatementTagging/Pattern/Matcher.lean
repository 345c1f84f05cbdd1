import StatementTagging.Pattern.Syntax

set_option autoImplicit false

/-! # Matching

A pattern is run on a text by backtracking. `Node.run` tries to match a node at a place and hands
every way of doing so, best first, to a continuation, until the continuation succeeds. The search
tries the places of the text from left to right, so that the leftmost match is found, and at one
place the match that comes first by the order of alternatives and the greed of repetitions.
-/

namespace StatementTagging.Pattern

/-! ## Places -/

/-- Where a group was last entered and where it was last left. -/
structure Mark where
  start : Option Nat
  stop : Option Nat

/-- The marks of groups that have not been entered. -/
def freshMarks (groups : Nat) : List Mark := List.replicate groups ⟨none, none⟩

/-- A place in a text: the characters before it, the nearest first, those after it, and what the
groups have captured on the way. -/
structure Place where
  before : List Char
  rest : List Char
  pos : Nat
  marks : List Mark

namespace Place

/-- The whole text. -/
def text (p : Place) : List Char := p.before.reverse ++ p.rest

/-- The place after the next character `c`. -/
def advance (p : Place) (c : Char) (rest : List Char) : Place :=
  { p with before := c :: p.before, rest := rest, pos := p.pos + 1 }

/-- The place `n` characters further back. -/
def back (p : Place) (n : Nat) : Place :=
  { p with
    before := p.before.drop n
    rest := (p.before.take n).reverse ++ p.rest
    pos := p.pos - n }

/-- Enters group `i`. -/
def enter (p : Place) (i : Nat) : Place :=
  { p with marks := p.marks.modify (i - 1) fun m => { m with start := some p.pos } }

/-- Leaves group `i`. -/
def leave (p : Place) (i : Nat) : Place :=
  { p with marks := p.marks.modify (i - 1) fun m => { m with stop := some p.pos } }

/-- What group `i` has captured, if it has taken part in the match. -/
def captured? (p : Place) (i : Nat) : Option (List Char) :=
  match p.marks[i - 1]? with
  | some ⟨some a, some b⟩ => if a ≤ b then some ((p.text.drop a).take (b - a)) else none
  | _ => none

/-- A word character stands right before the place. -/
def wordBefore (p : Place) (ascii : Bool) : Bool :=
  match p.before with
  | c :: _ => CharKind.word.holds ascii c
  | [] => false

/-- A word character stands right after the place. -/
def wordAfter (p : Place) (ascii : Bool) : Bool :=
  match p.rest with
  | c :: _ => CharKind.word.holds ascii c
  | [] => false

end Place

/-- The condition holds at the place. An empty text has neither edges of words nor places that are
none. -/
def Anchor.holds (a : Anchor) (p : Place) : Bool :=
  match a with
  | textStart => p.before.isEmpty
  | lineStart => p.before.isEmpty || p.before.head? == some '\n'
  | textEnd => p.rest.isEmpty
  | lastLineEnd => p.rest.isEmpty || p.rest == ['\n']
  | lineEnd => p.rest.isEmpty || p.rest.head? == some '\n'
  | wordEdge ascii => p.wordBefore ascii != p.wordAfter ascii
  | noWordEdge ascii =>
    !(p.before.isEmpty && p.rest.isEmpty) && p.wordBefore ascii == p.wordAfter ascii

/-! ## Repetition -/

/-- What happens after a match. -/
abbrev Continuation := Place → Option Place

/-- A way of matching, given what happens afterwards. -/
abbrev Matcher := Continuation → Continuation

/-- Another round is allowed after `count` ones. -/
def roomFor (most : Option Nat) (count : Nat) : Bool :=
  match most with
  | some m => count < m
  | none => true

/-- Repetition with as many rounds as possible first. Beyond the least number of rounds, a round that
starts where the one before it started is not tried, so a round that matches nothing is the last.
`last` is where the previous optional round started. -/
def greedyRounds (body : Matcher) (least : Nat) (most : Option Nat) (k : Continuation) :
    Nat → Nat → Option Nat → Place → Option Place
  | 0, _, _, _ => none
  | fuel + 1, count, last, p =>
    if count < least then body (greedyRounds body least most k fuel (count + 1) last) p
    else if roomFor most count && last != some p.pos then
      match body (greedyRounds body least most k fuel (count + 1) (some p.pos)) p with
      | some r => some r
      | none => k p
    else k p

/-- Repetition with as few rounds as possible first. -/
def lazyRounds (body : Matcher) (least : Nat) (most : Option Nat) (k : Continuation) :
    Nat → Nat → Option Nat → Place → Option Place
  | 0, _, _, _ => none
  | fuel + 1, count, last, p =>
    if count < least then body (lazyRounds body least most k fuel (count + 1) last) p
    else
      match k p with
      | some r => some r
      | none =>
        if roomFor most count && last != some p.pos then
          body (lazyRounds body least most k fuel (count + 1) (some p.pos)) p
        else none

/-- Repetition with as many rounds as possible, each taken as it first matches. -/
def possessiveRounds (body : Matcher) (least : Nat) (most : Option Nat) (k : Continuation) :
    Nat → Nat → Option Nat → Place → Option Place
  | 0, _, _, _ => none
  | fuel + 1, count, last, p =>
    if count < least then
      match body some p with
      | some q => possessiveRounds body least most k fuel (count + 1) last q
      | none => none
    else if roomFor most count && last != some p.pos then
      match body some p with
      | some q => possessiveRounds body least most k fuel (count + 1) (some p.pos) q
      | none => k p
    else k p

/-- The rounds a repetition can need at a place: the least number, one for each character left, and
a last one that matches nothing. -/
def roundsFuel (least : Nat) (p : Place) : Nat := least + p.rest.length + 3

/-- The repetition of a body. -/
def repetition (greed : Greed) (body : Matcher) (least : Nat) (most : Option Nat) : Matcher :=
  fun k p =>
    match greed with
    | .greedy => greedyRounds body least most k (roundsFuel least p) 0 none p
    | .lazy => lazyRounds body least most k (roundsFuel least p) 0 none p
    | .possessive => possessiveRounds body least most k (roundsFuel least p) 0 none p

/-! ## Nodes -/

/-- Matches one character that satisfies a test. -/
def takeChar (accepts : Char → Bool) : Matcher := fun k p =>
  match p.rest with
  | c :: r => if accepts c then k (p.advance c r) else none
  | [] => none

/-- Matches the characters of a text one by one. -/
def takeText (rule : CaseRule) : List Char → Matcher
  | [] => fun k p => k p
  | x :: r => takeChar (rule.repeats x) ∘ takeText rule r

/-- Matches a node. A look-around keeps what its groups captured when it succeeds; a negated one
never does. What a way that fails has captured is forgotten. -/
def Node.run : Node → Continuation → Place → Option Place
  | .empty, k, p => k p
  | .char x rule, k, p => takeChar (rule.accepts x) k p
  | .oneOf negated items rule, k, p =>
    takeChar (fun c => rule.classAccepts items c != negated) k p
  | .any acrossLines, k, p => takeChar (fun c => acrossLines || c != '\n') k p
  | .anchor a, k, p => if a.holds p then k p else none
  | .seq a b, k, p => a.run (fun q => b.run k q) p
  | .alt a b, k, p =>
    match a.run k p with
    | some r => some r
    | none => b.run k p
  | .capture i b, k, p => b.run (fun q => k (q.leave i)) (p.enter i)
  | .atomic b, k, p =>
    match b.run some p with
    | some q => k q
    | none => none
  | .ahead negated b, k, p =>
    match b.run some p, negated with
    | some q, false => k { p with marks := q.marks }
    | some _, true => none
    | none, false => none
    | none, true => k p
  | .behind negated width b, k, p =>
    match (if p.pos < width then none else b.run some (p.back width)), negated with
    | some q, false => k { p with marks := q.marks }
    | some _, true => none
    | none, false => none
    | none, true => k p
  | .backref i _ rule, k, p =>
    match p.captured? i with
    | some s => takeText rule s k p
    | none => none
  | .ifGroup i yes no, k, p =>
    match p.captured? i with
    | some _ => yes.run k p
    | none => no.run k p
  | .rounds least most greed b, k, p => repetition greed (fun k q => b.run k q) least most k p

/-! ## Search -/

/-- Tries a node at a place and at the places after it, with `rest` the characters left. -/
def Node.searchFrom (n : Node) (groups : Nat) (before : List Char) (pos : Nat) :
    List Char → Option Place
  | [] => n.run some ⟨before, [], pos, freshMarks groups⟩
  | c :: r =>
    match n.run some ⟨before, c :: r, pos, freshMarks groups⟩ with
    | some found => some found
    | none => n.searchFrom groups (c :: before) (pos + 1) r

/-- The end of the leftmost match in a text, with what its groups captured. -/
def search (p : Pattern) (text : List Char) : Option Place :=
  p.root.searchFrom p.groups [] 0 text

/-- Some part of the text matches. -/
def matchesIn (p : Pattern) (text : List Char) : Bool := (search p text).isSome

/-- What the first group captures in the leftmost match. -/
def firstGroup? (p : Pattern) (text : List Char) : Option (List Char) :=
  if p.groups = 0 then none else (search p text).bind fun found => found.captured? 1

end StatementTagging.Pattern
