import StatementTagging.Text.CharName.Letters
import StatementTagging.Text.CharName.Notations
import StatementTagging.Text.CharName.Scripts
import StatementTagging.Text.CharName.Second
import StatementTagging.Text.CharName.Syllables
import StatementTagging.Text.CharName.Symbols
import StatementTagging.Text.Digit
import StatementTagging.Text.Pieces
import StatementTagging.Text.Ranges

set_option autoImplicit false

/-! # Characters by their names

A character can be given by the name that it has in version 14 of the Unicode standard. The names of Korean
syllables are put together from those of their letters, the names of ideographs from their codes; all others
stand in tables, in which the case of letters makes no difference.
-/

namespace StatementTagging.Text

/-! ## Korean syllables -/

/-- The names of the letters that a syllable begins with, in order. -/
def leadNames : List String :=
  ["G", "GG", "N", "D", "DD", "R", "M", "B", "BB", "S", "SS", "", "J", "JJ", "C", "K", "T", "P", "H"]

/-- The names of the vowels of a syllable. -/
def vowelNames : List String :=
  ["A", "AE", "YA", "YAE", "EO", "E", "YEO", "YE", "O", "WA", "WAE", "OE", "YO", "U", "WEO", "WE", "WI",
   "YU", "EU", "YI", "I"]

/-- The names of the letters that a syllable ends with; the first one is for none. -/
def tailNames : List String :=
  ["", "G", "GG", "GS", "N", "NJ", "NH", "D", "L", "LG", "LM", "LB", "LS", "LT", "LP", "LH", "M", "B", "BS",
   "S", "SS", "NG", "J", "C", "K", "T", "P", "H"]

/-- The code of the syllable whose letters have these names. -/
def syllableNamed? (letters : List Char) : Option Nat :=
  leadNames.zipIdx.findSome? fun (lead, l) =>
    (lead.toList.isPrefixOf? letters).bind fun rest =>
      vowelNames.zipIdx.findSome? fun (vowel, v) =>
        (vowel.toList.isPrefixOf? rest).bind fun tail =>
          (tailNames.idxOf? (String.ofList tail)).map fun t =>
            0xAC00 + (l * vowelNames.length + v) * tailNames.length + t

/-! ## Ideographs -/

/-- The ideographs that are named by their codes. -/
def ideographRanges : List (Nat × Nat) :=
  [(0x3400, 0x4DBF), (0x4E00, 0x9FFF), (0x20000, 0x2A6DF), (0x2A700, 0x2B738), (0x2B740, 0x2B81D),
   (0x2B820, 0x2CEA1), (0x2CEB0, 0x2EBE0), (0x30000, 0x3134A)]

/-- The code of an ideograph, from its four or five digits. -/
def ideographNamed? (digits : List Char) : Option Nat :=
  let isDigit (c : Char) : Bool := isBasicDigit c || ('A' ≤ c && c ≤ 'F')
  let code := numeral 16 digits
  if (digits.length = 4 ∨ digits.length = 5) ∧ digits.all isDigit ∧ inRanges ideographRanges code then
    some code
  else none

/-! ## Tables -/

/-- The entries of a table whose lines keep them between semicolons. -/
def entriesOfLines (lines : List String) : List (List Char) := lines.flatMap fun l => pieces ';' l.toList

/-- The code of the first character in a row whose name has these words. `code` is the code of the first
character that is left, `before` are the words of the last name before it. -/
def codeInRow? (words : List (List Char)) : Nat → List (List Char) → List (List Char) → Option Nat
  | _, _, [] => none
  | code, before, [] :: rest => codeInRow? words (code + 1) before rest
  | code, before, (shared :: new) :: rest =>
    let own := before.take (hexValue shared) ++ pieces ' ' new
    if own = words then some code else codeInRow? words (code + 1) own rest

/-- The code of the character with a name of its own. -/
def tableNamed? (name : List Char) : Option Nat :=
  let words := pieces ' ' name
  (letterNames ++ symbolNames ++ syllableNames ++ scriptNames ++ notationNames).findSome?
    fun (first, lines) => codeInRow? words first [] (entriesOfLines lines)

/-- The code of the character with a second name. -/
def secondNamed? (name : List Char) : Option Nat :=
  (entriesOfLines secondNames).findSome? fun entry =>
    let (code, own) := splitFirst ' ' entry
    if own = some name then some (numeral 16 code) else none

/-- The code of the character with a name. -/
def codeNamed? (name : List Char) : Option Nat :=
  match "HANGUL SYLLABLE ".toList.isPrefixOf? name with
  | some letters => syllableNamed? letters
  | none =>
    match "CJK UNIFIED IDEOGRAPH-".toList.isPrefixOf? name with
    | some digits => ideographNamed? digits
    | none =>
      let upper := name.map Char.toUpper
      (tableNamed? upper).or (secondNamed? upper)

end StatementTagging.Text
