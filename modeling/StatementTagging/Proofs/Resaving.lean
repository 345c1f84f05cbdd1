import StatementTagging.Proofs.ExtractionRoundTrip

set_option autoImplicit false

/-! # Saving an extraction again

An editor shows a stored pattern as an extraction and stores what that is compiled to. After one save the
text is one that the compilation has written, but saving it once more may still change it. A text that no
shape fits gets a group around it, and in the group it may show a shape that it did not have before, or
none again. The first happens to a group of the line at either end of the text or inside of it, the second
to every text with a line break, which gets one more group each time (`resaveExtraction_of_break`). The
main result says exactly when a second save changes nothing (`resaveExtraction_stable_iff`).
-/

namespace StatementTagging

open Pattern
open ExtractionForm (lazyGroup greedyGroup)

/-! ## What is stored for good -/

/-- What is recovered from a shape is in the domain. -/
theorem recoverable_of_extraction? {p : List Char} {f : ExtractionForm} (h : extraction? p = some f) :
    f.operation ≠ .matching ∧ f.Recoverable := by
  rcases extraction?_cases h with h | h | h
  · obtain ⟨c, lead, rest, -, hlead, hne, hrest, rfl⟩ := extractBetween?_sound h
    exact ⟨nofun, Or.inr ⟨plainText_ne_empty hne, break_not_mem_plainText hlead,
      break_not_mem_plainText hrest⟩⟩
  · obtain ⟨lead, -, -, hlead, rfl⟩ := (extractAfter?_eq_some_iff _ _).mp h
    exact ⟨nofun, break_not_mem_plainText hlead⟩
  · obtain ⟨rest, -, -, hrest, rfl⟩ := (extractBefore?_eq_some_iff _ _).mp h
    exact ⟨nofun, break_not_mem_plainText hrest⟩

/-- No shape fits the text, so that an editor shows all of it as a pattern to match. -/
def TakenWhole (p : String) : Prop :=
  p ≠ "" ∧ decomposeExtraction p.toList = { operation := .matching, pattern := some p }

/-- Whatever has a shape is stored for good. -/
theorem resaved_of_not_takenWhole {p : String} (h : ¬ TakenWhole p) :
    Resaved (decomposeExtraction p.toList).source := by
  rcases decomposeExtraction_cases p.toList with ⟨d, -, -, hform⟩ | hshape | ⟨v, hne, -, hgroup, hform⟩ | hform
  · rw [hform, resaved_source_iff (by simp)]
    trivial
  · obtain ⟨hop, hdomain⟩ := recoverable_of_extraction? hshape
    exact (resaved_source_iff hop).mpr hdomain
  · -- the group is recovered and put around it again
    have hsource : (decomposeExtraction p.toList).source = p.toList := by
      rw [hform, source_matching rfl, hgroup]
      simp [hne]
    rw [hsource]
    exact hsource
  · rw [String.ofList_toList] at hform
    obtain rfl : p = "" := by
      by_contra hne
      exact h ⟨hne, hform⟩
    exact (by decide : (decomposeExtraction greedyGroup).source = greedyGroup)

theorem source_of_takenWhole {p : String} (h : TakenWhole p) :
    (decomposeExtraction p.toList).source = '(' :: (p.toList ++ [')']) := by
  rw [h.2, source_matching rfl]
  exact if_neg h.1

/-! ## Texts in a group -/

theorem around?_of_infix {mid : List Char} (hmid : mid ≠ []) (a b : List Char) :
    ∃ lead rest, around? mid (a ++ (mid ++ b)) = some (lead, rest) ∧ b <:+ rest := by
  induction a with
  | nil =>
      obtain ⟨c, r, rfl⟩ := List.exists_cons_of_ne_nil hmid
      refine ⟨[], b, ?_, List.suffix_rfl⟩
      have hprefix : (c :: r).isPrefixOf (c :: (r ++ b)) = true :=
        List.isPrefixOf_iff_prefix.mpr ⟨b, rfl⟩
      show around? (c :: r) (c :: (r ++ b)) = _
      rw [around?, if_pos hprefix]
      have hrest : (c :: (r ++ b)).drop (c :: r).length = b := List.drop_left
      rw [hrest]
  | cons c a ih =>
      rw [List.cons_append, around?]
      by_cases hprefix : mid.isPrefixOf (c :: (a ++ (mid ++ b))) = true
      · -- an occurrence further in front leaves more behind it
        rw [if_pos hprefix]
        have hb : b <:+ c :: (a ++ (mid ++ b)) := ⟨c :: (a ++ mid), by simp⟩
        refine ⟨[], _, rfl, List.suffix_of_suffix_length_le hb (List.drop_suffix _ _) ?_⟩
        simp only [List.length_drop, List.length_cons, List.length_append]
        omega
      · obtain ⟨lead, rest, hrest, hsuffix⟩ := ih
        rw [if_neg hprefix, hrest]
        exact ⟨c :: lead, rest, rfl, hsuffix⟩

theorem extractBetween?_of_around? {c : Char} {r lead rest : List Char}
    (h : around? lazyGroup r = some (lead, rest)) (hline : '\n' ∉ c :: r) (hrest : rest ≠ []) :
    (extractBetween? (c :: r)).isSome = true := by
  have hparts := around?_sound h
  simp only [hparts, List.mem_cons, List.mem_append, not_or] at hline
  rw [extractBetween?, h]
  simp [isOneLine, hrest, hline]

/-- A single line that shows no other shape in a group is a plain fragment. -/
theorem isPlainFragment_of_extraction?_eq_none {p : List Char} (hline : '\n' ∉ p)
    (h : extraction? ('(' :: (p ++ [')'])) = none) : IsPlainFragment p := by
  have hgroup : '\n' ∉ '(' :: (p ++ [')']) := by simpa using hline
  rw [extraction?, Option.orElse_eq_orElse] at h
  simp only [Option.orElse_eq_or, Option.or_eq_none_iff] at h
  obtain ⟨hbetween, hafter, hbefore⟩ := h
  refine ⟨hline, ?_, ?_, ?_⟩
  · rintro ⟨a, b, rfl⟩
    obtain ⟨lead, rest, haround, hsuffix⟩ :=
      around?_of_infix (by decide : lazyGroup ≠ []) a (b ++ [')'])
    have hne : rest ≠ [] := List.IsSuffix.ne_nil hsuffix (by simp)
    have hwhole : a ++ (lazyGroup ++ (b ++ [')'])) = a ++ lazyGroup ++ b ++ [')'] := by simp
    rw [hwhole] at haround
    have hsome := extractBetween?_of_around? haround hgroup hne
    rw [hbetween] at hsome
    cases hsome
  · intro hstart
    obtain ⟨r, rfl⟩ := hstart
    have hsome := (extractBefore?_eq_some_iff ('(' :: (".*?)".toList ++ r ++ [')'])) _).mpr
      ⟨r ++ [')'], by rw [List.append_assoc]; rfl, by simp, by simp at hline ⊢; tauto, rfl⟩
    rw [hbefore] at hsome
    cases hsome
  · rintro ⟨lead, rfl⟩
    have hsome := (extractAfter?_eq_some_iff ('(' :: (lead ++ "(.*".toList ++ [')'])) _).mpr
      ⟨'(' :: lead, by rw [List.append_assoc]; rfl, by simp, by simp at hline ⊢; tauto, rfl⟩
    rw [hafter] at hsome
    cases hsome

/-- In a group, the text is stored for good: it shows no other shape there, or it is what an extraction
before a text leaves of its group. -/
def KeepsGroup (p : List Char) : Prop :=
  IsPlainFragment p ∨ ∃ s, '\n' ∉ s ∧ p ++ [')'] = ".*?)".toList ++ escape s

/-- **A text in a group is stored for good** exactly if it keeps the group. -/
theorem resaved_group_iff {p : List Char} (hne : p ≠ []) :
    Resaved ('(' :: (p ++ [')'])) ↔ KeepsGroup p := by
  constructor
  · intro h
    by_cases hbreak : '\n' ∈ p
    · -- the text gets one more group
      exact absurd h (source_decomposeExtraction_of_break (by simpa using hbreak))
    cases hshape : extraction? ('(' :: (p ++ [')'])) with
    | none => exact Or.inl (isPlainFragment_of_extraction?_eq_none hbreak hshape)
    | some f =>
        rw [Resaved, decomposeExtraction_of_extraction? hshape] at h
        rcases extraction?_cases hshape with hf | hf | hf
        · obtain ⟨c, lead, rest, -, -, -, -, rfl⟩ := extractBetween?_sound hf
          have hopen := not_open_escape (plainText_ne_empty (List.cons_ne_nil c lead))
            (lazyGroup ++ escape (plainText rest).toList)
          rw [← List.append_assoc] at hopen
          exact absurd ⟨p ++ [')'], h.symm⟩ hopen
        · obtain ⟨lead, -, hlead, -, rfl⟩ := (extractAfter?_eq_some_iff _ _).mp hf
          have hopen := not_open_escape (plainText_ne_empty hlead) greedyGroup
          exact absurd ⟨p ++ [')'], h.symm⟩ hopen
        · obtain ⟨rest, -, -, hrest, rfl⟩ := (extractBefore?_eq_some_iff _ _).mp hf
          refine Or.inr ⟨(plainText rest).toList, break_not_mem_plainText hrest, ?_⟩
          exact (List.cons.inj h).2.symm
  · rintro (hplain | ⟨s, hline, hs⟩)
    · exact source_decomposeExtraction_group hne hplain.oneLine hplain.extraction?_eq_none
    · have hbefore := (resaved_before_iff (String.ofList s)).mpr (by rwa [String.toList_ofList])
      rw [String.toList_ofList] at hbefore
      rw [hs]
      exact hbefore

/-! ## The main result -/

/-- The pattern that an editor stores when it shows a pattern as an extraction and saves what it shows. -/
def resaveExtraction (p : String) : String := (decomposeExtraction p.toList).compile

/-- Each time it is saved, a text with a line break gets one more group around it. -/
theorem resaveExtraction_of_break {p : String} (h : '\n' ∈ p.toList) :
    resaveExtraction p = "(" ++ p ++ ")" := by
  have hform := decomposeExtraction_of_break h
  rw [String.ofList_toList] at hform
  have hne : p ≠ "" := by
    rintro rfl
    cases h
  rw [resaveExtraction, ExtractionForm.compile, source_of_takenWhole ⟨hne, hform⟩, ← String.toList_inj]
  simp

theorem resaveExtraction_eq_iff (p : String) :
    resaveExtraction (resaveExtraction p) = resaveExtraction p
      ↔ Resaved (decomposeExtraction p.toList).source := by
  rw [resaveExtraction, resaveExtraction, ExtractionForm.compile, ExtractionForm.compile,
    String.toList_ofList, String.ofList_inj]
  rfl

/-- **When a second save changes nothing.** Saving what has been saved stores the same pattern again exactly
if the first save has recognised the text, or if the text is recognised as it is in the group that the
first save has put around it. -/
theorem resaveExtraction_stable_iff (p : String) :
    resaveExtraction (resaveExtraction p) = resaveExtraction p
      ↔ (TakenWhole p → KeepsGroup p.toList) := by
  rw [resaveExtraction_eq_iff]
  by_cases hwhole : TakenWhole p
  · rw [source_of_takenWhole hwhole, resaved_group_iff (mt String.toList_eq_nil_iff.mp hwhole.1)]
    exact ⟨fun h _ => h, fun h => h hwhole⟩
  · exact iff_of_true (resaved_of_not_takenWhole hwhole) fun h => absurd h hwhole

/-- A text with a line break gets a second group, and the group around a text that ends in a group of the
line becomes part of the texts around that. -/
theorem resaveExtraction_not_stable :
    resaveExtraction (resaveExtraction "BANK\nFEE") ≠ resaveExtraction "BANK\nFEE"
      ∧ resaveExtraction (resaveExtraction "REF:(.*?)") ≠ resaveExtraction "REF:(.*?)"
      ∧ resaveExtraction (resaveExtraction "REF:(.*?)") = "\\(REF:(.*?)\\)" := by
  decide

end StatementTagging
