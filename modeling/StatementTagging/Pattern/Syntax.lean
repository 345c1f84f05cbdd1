import StatementTagging.Pattern.Class

set_option autoImplicit false

/-! # Patterns

The syntax of patterns after reading. Flags have been resolved: every node carries the rule it needs.
-/

namespace StatementTagging.Pattern

/-- Conditions on a place between two characters. -/
inductive Anchor where
  /-- The start of the text. -/
  | textStart
  /-- The start of the text or of a line. -/
  | lineStart
  /-- The end of the text. -/
  | textEnd
  /-- The end of the text or the place before a line break that ends it. -/
  | lastLineEnd
  /-- The end of the text or of a line. -/
  | lineEnd
  /-- A word starts or ends here. -/
  | wordEdge (ascii : Bool)
  /-- No word starts or ends here. -/
  | noWordEdge (ascii : Bool)

/-- How a repetition chooses the number of rounds: as many as possible first, as few as possible
first, or as many as possible without ever taking a round back. -/
inductive Greed where
  | greedy
  | lazy
  | possessive

/-- The least and the greatest number of characters, without a greatest if `high` is absent. -/
structure Width where
  low : Nat
  high : Option Nat

namespace Width

def zero : Width := ⟨0, some 0⟩

def one : Width := ⟨1, some 1⟩

/-- One after the other. -/
def append (a b : Width) : Width :=
  ⟨a.low + b.low, a.high.bind fun m => b.high.map (m + ·)⟩

/-- Either of the two. -/
def union (a b : Width) : Width :=
  ⟨min a.low b.low, a.high.bind fun m => b.high.map (max m ·)⟩

/-- Between `least` and `most` rounds. -/
def rounds (w : Width) (least : Nat) (most : Option Nat) : Width :=
  ⟨w.low * least,
    match w.high, most with
    | some 0, _ => some 0
    | _, some 0 => some 0
    | some n, some m => some (n * m)
    | _, _ => none⟩

/-- The width if there is only one. -/
def fixed? (w : Width) : Option Nat := if w.high = some w.low then some w.low else none

end Width

/-- A pattern. Sequences and alternatives are binary; groups are numbered from one. -/
inductive Node where
  | empty
  | char (c : Char) (rule : CaseRule)
  | oneOf (negated : Bool) (items : List ClassItem) (rule : CaseRule)
  | any (acrossLines : Bool)
  | anchor (a : Anchor)
  | seq (first second : Node)
  | alt (first second : Node)
  | capture (index : Nat) (body : Node)
  | atomic (body : Node)
  | ahead (negated : Bool) (body : Node)
  | behind (negated : Bool) (width : Nat) (body : Node)
  | backref (index : Nat) (width : Width) (rule : CaseRule)
  | ifGroup (index : Nat) (yes no : Node)
  | rounds (least : Nat) (most : Option Nat) (greed : Greed) (body : Node)

namespace Node

/-- A node that accepts nothing. -/
def never : Node := oneOf false [] .exact

/-- The nodes one after the other. -/
def sequence : List Node → Node
  | [] => empty
  | n :: r => seq n (sequence r)

/-- Something is repeated in the node. -/
def repeats : Node → Bool
  | empty => false
  | char _ _ => false
  | oneOf _ _ _ => false
  | any _ => false
  | anchor _ => false
  | seq a b => a.repeats || b.repeats
  | alt a b => a.repeats || b.repeats
  | capture _ b => b.repeats
  | atomic b => b.repeats
  | ahead _ b => b.repeats
  | behind _ _ b => b.repeats
  | backref _ _ _ => false
  | ifGroup _ yes no => yes.repeats || no.repeats
  | rounds _ _ _ _ => true

/-- The widths of the texts a node can match. -/
def width : Node → Width
  | empty => .zero
  | char _ _ => .one
  | oneOf _ _ _ => .one
  | any _ => .one
  | anchor _ => .zero
  | seq a b => a.width.append b.width
  | alt a b => a.width.union b.width
  | capture _ b => b.width
  | atomic b => b.width
  | ahead _ _ => .zero
  | behind _ _ _ => .zero
  | backref _ w _ => w
  | ifGroup _ yes no => yes.width.union no.width
  | rounds least most _ b => b.width.rounds least most

end Node

/-- Why a text is no pattern. Only a malformed one is told apart from a failure of the reader itself. -/
inductive ReadFault where
  | malformed
  | repetitionTooLarge
  | flagConflict
  | codeTooLarge
  | tooManyDigits (count : Nat)
deriving DecidableEq

end StatementTagging.Pattern

namespace StatementTagging

/-- A pattern with the number of its groups. -/
structure Pattern where
  root : Pattern.Node
  groups : Nat

end StatementTagging
