import StatementTagging.Proofs.Text.Upper
import StatementTagging.Proofs.Text.Words
import StatementTagging.Report.Description

set_option autoImplicit false

/-! # Descriptions in their normal form

Before descriptions are counted they are written in upper case, with single spaces, and cut off. What
comes out is short, has no blank in front and no two of them side by side, and is its own upper case. It
is a normal form, with no blank at its end either and not changed if this is done again, exactly if the
text was not cut off behind a space (`normalizeDescription_normal_iff`): cutting comes last, so that
nothing takes away a space that it lays bare.
-/

namespace StatementTagging

/-- The text in upper case and with single spaces, before it is cut off. -/
def fullDescription (s : List Char) : List Char := Text.respaced (Text.upper s)

/-! ## What is always so -/

theorem normalizeText_eq (s : List Char) : normalizeText s = (fullDescription s).take descriptionLength := by
  rw [normalizeText, Text.words_strip]
  rfl

theorem singleSpaced_fullDescription (s : List Char) : Text.SingleSpaced (fullDescription s) :=
  Text.singleSpaced_respaced _

theorem length_normalizeText_le (s : List Char) : (normalizeText s).length ≤ descriptionLength := by
  rw [normalizeText_eq]
  exact List.length_take_le _ _

/-- What is left of a text is its own upper case. -/
theorem upper_normalizeText (s : List Char) : Text.upper (normalizeText s) = normalizeText s := by
  refine Text.upper_eq_self fun c hc => ?_
  rw [normalizeText_eq] at hc
  rcases Text.mem_intercalate (List.mem_of_mem_take hc) with rfl | ⟨w, hw, hcw⟩
  · decide +kernel
  · exact Text.upperChar_of_mem_upper ((Text.mem_words hw).2.subset hcw)

/-! ## When it is final -/

/-- A short text in upper case is left as it is exactly if it has single spaces. -/
theorem normalizeText_eq_self_iff {s : List Char} (hupper : Text.upper s = s)
    (hlength : s.length ≤ descriptionLength) : normalizeText s = s ↔ Text.SingleSpaced s := by
  have hwhole : normalizeText s = Text.respaced s := by
    rw [normalizeText_eq, fullDescription, hupper]
    exact List.take_of_length_le ((Text.length_respaced_le s).trans hlength)
  rw [hwhole, Text.respaced_eq_self_iff]

theorem normalizeText_normalizeText_iff (s : List Char) :
    normalizeText (normalizeText s) = normalizeText s ↔ Text.SingleSpaced (normalizeText s) :=
  normalizeText_eq_self_iff (upper_normalizeText s) (length_normalizeText_le s)

/-! ## The main result -/

theorem normalizeDescription_text (s : String) :
    normalizeDescription (.text s) = .ok (String.ofList (normalizeText s.toList)) := rfl

/-- **Descriptions are normal forms**, save those that are cut off behind a space. Every text has a
description of at most eighty characters, with no blank in front and no two blanks side by side; and
that there is none at the end, and that the description of the description is the same, both hold
exactly if the eightieth character of the full description is not a space. -/
theorem normalizeDescription_normal_iff (s : String) :
    ∃ t : String, normalizeDescription (.text s) = .ok t
      ∧ t.toList.length ≤ 80
      ∧ (∀ c ∈ t.toList.head?, Text.isBlank c = false)
      ∧ (t.toList.IsChain fun c d => Text.isBlank c = true → Text.isBlank d = false)
      ∧ ((∀ c ∈ t.toList.getLast?, Text.isBlank c = false) ↔ (fullDescription s.toList)[79]? ≠ some ' ')
      ∧ (normalizeDescription (.text t) = .ok t ↔ (fullDescription s.toList)[79]? ≠ some ' ') := by
  have hfull := singleSpaced_fullDescription s.toList
  have hcut : normalizeText s.toList = (fullDescription s.toList).take (79 + 1) := normalizeText_eq _
  have hback : (∀ c ∈ (normalizeText s.toList).getLast?, Text.isBlank c = false)
      ↔ (fullDescription s.toList)[79]? ≠ some ' ' := by
    rw [hcut]
    exact hfull.back_take_iff 79
  refine ⟨String.ofList (normalizeText s.toList), rfl, ?_⟩
  rw [String.toList_ofList]
  refine ⟨length_normalizeText_le _, ?_, ?_, hback, ?_⟩
  · rw [hcut]
    exact hfull.front_take 79
  · rw [hcut]
    exact hfull.apart.take 80
  · rw [normalizeDescription_text, String.toList_ofList, Except.ok.injEq, String.ofList_inj,
      normalizeText_normalizeText_iff, ← hback, hcut]
    exact hfull.take_iff 79

/-- A text that is cut off between two words: its description ends with a space, and the description of that
description does not. -/
theorem description_ends_with_space :
    let letters := List.replicate 79 'A'
    let t := String.ofList (letters ++ [' '])
    normalizeDescription (.text (String.ofList (letters ++ " FEE".toList))) = .ok t
      ∧ t.toList.getLast? = some ' ' ∧ Text.isBlank ' ' = true
      ∧ normalizeDescription (.text t) = .ok (String.ofList letters) ∧ t ≠ String.ofList letters := by
  intro letters t
  have hcut : normalizeText (letters ++ " FEE".toList) = letters ++ [' '] := by decide +kernel
  have hagain : normalizeText (letters ++ [' ']) = letters := by decide +kernel
  refine ⟨?_, ?_, rfl, ?_, ?_⟩
  · rw [normalizeDescription_text, String.toList_ofList, hcut]
  · rw [String.toList_ofList, List.getLast?_concat]
  · rw [normalizeDescription_text, String.toList_ofList, hagain]
  · rw [Ne, String.ofList_inj]
    decide

end StatementTagging
