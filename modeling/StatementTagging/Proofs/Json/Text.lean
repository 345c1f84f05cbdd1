import Mathlib
import StatementTagging.Json.Reader
import StatementTagging.Json.Writer

set_option autoImplicit false

/-! # Strings in JSON texts

A string is written character by character, and reading goes through the written form of one character
at a time: whatever the form, it adds the code of the character to what is read from the rest
(`readUnits_writeChar`). No character of a string is half of a pair, so joining the codes gives the
characters again (`joinUnits_map_toNat`).
-/

namespace StatementTagging.Json

open Text

/-! ## Codes -/

theorem charOfCode_toNat (c : Char) : charOfCode c.toNat = c := by
  rw [charOfCode, if_pos (show c.toNat.isValidChar from c.valid), Char.ofNat_toNat]

theorem isHighHalf_toNat (c : Char) : isHighHalf c.toNat = false := by
  have hvalid : c.toNat < 0xd800 ∨ 0xdfff < c.toNat ∧ c.toNat < 0x110000 := c.valid
  rw [isHighHalf, Bool.and_eq_false_iff, decide_eq_false_iff_not, decide_eq_false_iff_not]
  omega

/-- Codes of characters are joined one by one. -/
theorem joinUnits_map_toNat (cs : List Char) : joinUnits (cs.map Char.toNat) = cs := by
  induction cs with
  | nil => rfl
  | cons c r ih =>
      cases r with
      | nil => exact congrArg (fun c => [c]) (charOfCode_toNat c)
      | cons d r =>
          rw [List.map_cons, List.map_cons, joinUnits, isHighHalf_toNat, Bool.false_and,
            if_neg Bool.false_ne_true, charOfCode_toNat]
          exact congrArg (List.cons c) ih

/-! ## Written characters -/

/-- The escape with a code is read back as the code. -/
theorem hex_spec : ∀ n : Fin 32,
    (hex 4 n).length = 4 ∧ (hex 4 n).all isHexDigit = true ∧ numeral 16 (hex 4 n) = n := by
  decide

/-- Reading one written character adds its code to what the rest gives. -/
theorem readUnits_writeChar (opening : List Char) (c : Char) {r : List Char} (hr : r ≠ []) :
    readUnits opening (writeChar c ++ r)
      = (readUnits opening r).map fun (units, rest) => (c.toNat :: units, rest) := by
  rw [writeChar]
  split_ifs with h1 h2 h3 h4 h5 h6 h7 h8
  · rw [beq_iff_eq.mp h1]
    rfl
  · rw [beq_iff_eq.mp h2]
    rfl
  · rw [beq_iff_eq.mp h3]
    rfl
  · rw [beq_iff_eq.mp h4]
    rfl
  · rw [beq_iff_eq.mp h5]
    rfl
  · rw [beq_iff_eq.mp h6]
    rfl
  · rw [beq_iff_eq.mp h7]
    rfl
  · obtain ⟨hlength, hdigits, hvalue⟩ := hex_spec ⟨c.toNat, h8⟩
    dsimp only at hlength hdigits hvalue
    obtain ⟨w, x, y, z, hwxyz⟩ := List.length_eq_four.mp hlength
    rw [hwxyz] at hdigits hvalue ⊢
    show readUnits opening ('\\' :: 'u' :: w :: x :: y :: z :: r) = _
    rw [readUnits, if_pos (by rw [hdigits, List.isEmpty_eq_false_iff.mpr hr]; rfl), hvalue]
  · have hquote : c ≠ '"' := fun h => h1 (beq_iff_eq.mpr h)
    have hbackslash : c ≠ '\\' := fun h => h2 (beq_iff_eq.mpr h)
    show readUnits opening (c :: r) = _
    rw [readUnits, if_neg h8]
    · exact hquote
    · exact fun h _ => hbackslash h
    · exact fun _ _ _ _ _ h _ => hbackslash h
    · exact fun _ _ h _ => hbackslash h

theorem readUnits_flatMap_writeChar (opening cs rest : List Char) :
    readUnits opening (cs.flatMap writeChar ++ '"' :: rest) = .ok (cs.map Char.toNat, rest) := by
  induction cs with
  | nil => rfl
  | cons c r ih =>
      rw [List.flatMap_cons, List.append_assoc, readUnits_writeChar opening c
        (List.append_ne_nil_of_right_ne_nil _ (List.cons_ne_nil _ _)), ih]
      rfl

/-- **A written string is read back.** -/
theorem readString_writeString (s : String) (rest : List Char) :
    readString (writeString s ++ rest) = .ok (s, rest) := by
  have hunits := readUnits_flatMap_writeChar (writeString s ++ rest) s.toList rest
  have htail : (writeString s ++ rest).tail = s.toList.flatMap writeChar ++ '"' :: rest := by
    rw [writeString, List.cons_append, List.tail_cons, List.append_assoc]
    rfl
  rw [readString, htail, hunits]
  show Except.ok (String.ofList (joinUnits (s.toList.map Char.toNat)), rest) = _
  rw [joinUnits_map_toNat, String.ofList_toList]

end StatementTagging.Json
