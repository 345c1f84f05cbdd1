import StatementTagging.Proofs.Shape

set_option autoImplicit false

/-! # Recognised tests

Each recogniser takes exactly the texts of one shape. `HasShape` collects the shapes with the tests
that are recovered from them; what is recovered from a text has a shape of that text
(`hasShape_decomposeMatch`). In the other direction, a text that begins unlike every special shape
falls through to the general ones (`decomposeMatch_of_unanchored`).
-/

namespace StatementTagging

open Pattern

/-! ## One recogniser at a time -/

theorem comparison?_mark_append (c : Comparison) (t : List Char) :
    comparison? (c.mark ++ t) = some { operation := .compare c, value := String.ofList t } := by
  rw [comparison?, ofSource_mark_append]

theorem comparison?_of_not_marked {p : List Char} (h : ¬ Marked p) : comparison? p = none := by
  rw [comparison?, ofSource_of_not_marked h]

/-- Every mark begins with an underscore. -/
theorem comparison?_cons {d : Char} (hd : d ≠ '_') (s : List Char) : comparison? (d :: s) = none :=
  comparison?_of_not_marked (not_marked_cons hd s)

theorem extractAndCompare?_eq_some_iff (p : List Char) (f : MatchForm) :
    extractAndCompare? p = some f ↔
      ∃ cs first value last, p = "(?:".toList ++ cs ∧ twoGroups? cs = some (first, value, last)
        ∧ f = { operation := .extractAndCompare, value := plainText value
                before := some (plainText first), after := some (plainText last) } := by
  rw [extractAndCompare?, Option.map_eq_some_iff]
  constructor
  · rintro ⟨⟨first, value, last⟩, h, rfl⟩
    obtain ⟨cs, hcs, hgroups⟩ := Option.bind_eq_some_iff.mp h
    exact ⟨cs, first, value, last, (dropLead?_eq_some_iff _ _ _).mp hcs, hgroups, rfl⟩
  · rintro ⟨cs, first, value, last, hp, hgroups, rfl⟩
    refine ⟨(first, value, last), ?_, rfl⟩
    rw [(dropLead?_eq_some_iff _ _ _).mpr hp, Option.bind_some, hgroups]

/-- A line between a fixed beginning and a fixed end. -/
theorem line?_between_eq_some_iff (lead tail p v : List Char) :
    ((dropLead? lead p).bind (dropTail? tail)).bind line? = some v ↔
      p = lead ++ (v ++ tail) ∧ v ≠ [] ∧ '\n' ∉ v := by
  constructor
  · intro h
    obtain ⟨w, hw, hline⟩ := Option.bind_eq_some_iff.mp h
    obtain ⟨r, hr, hrw⟩ := Option.bind_eq_some_iff.mp hw
    obtain ⟨rfl, hv⟩ := (line?_eq_some_iff _ _).mp hline
    rw [dropLead?_eq_some_iff] at hr
    rw [dropTail?_eq_some_iff] at hrw
    exact ⟨by rw [hr, hrw], hv⟩
  · rintro ⟨hp, hv⟩
    rw [(dropLead?_eq_some_iff _ _ _).mpr hp, Option.bind_some,
      (dropTail?_eq_some_iff _ _ _).mpr rfl, Option.bind_some, (line?_eq_some_iff _ _).mpr ⟨rfl, hv⟩]

theorem doesNotContain?_eq_some_iff (p : List Char) (f : MatchForm) :
    doesNotContain? p = some f ↔
      ∃ v, p = "^(?!.*".toList ++ (v ++ [')']) ∧ v ≠ [] ∧ '\n' ∉ v
        ∧ f = { operation := .doesNotContain, value := plainText v } := by
  rw [doesNotContain?, Option.map_eq_some_iff]
  constructor
  · rintro ⟨v, h, rfl⟩
    obtain ⟨hp, hne, hline⟩ := (line?_between_eq_some_iff _ _ _ _).mp h
    exact ⟨v, hp, hne, hline, rfl⟩
  · rintro ⟨v, hp, hne, hline, rfl⟩
    exact ⟨v, (line?_between_eq_some_iff _ _ _ _).mpr ⟨hp, hne, hline⟩, rfl⟩

theorem doesNotEqual?_eq_some_iff (p : List Char) (f : MatchForm) :
    doesNotEqual? p = some f ↔
      ∃ v, p = "^(?!".toList ++ (v ++ ['$', ')']) ∧ v ≠ [] ∧ '\n' ∉ v ∧ escapesNext v = false
        ∧ f = { operation := .doesNotEqual, value := plainText v } := by
  rw [doesNotEqual?, Option.bind_eq_some_iff]
  constructor
  · rintro ⟨v, h, hf⟩
    obtain ⟨hp, hne, hline⟩ := (line?_between_eq_some_iff _ _ _ _).mp h
    split at hf
    · exact absurd hf (by simp)
    · next hesc =>
        exact ⟨v, hp, hne, hline, Bool.eq_false_iff.mpr hesc, (Option.some.inj hf).symm⟩
  · rintro ⟨v, hp, hne, hline, hesc, rfl⟩
    refine ⟨v, (line?_between_eq_some_iff _ _ _ _).mpr ⟨hp, hne, hline⟩, ?_⟩
    rw [if_neg (by rw [hesc]; simp)]

theorem equals?_eq_some_iff (p : List Char) (f : MatchForm) :
    equals? p = some f ↔
      ∃ v, p = '^' :: (v ++ ['$']) ∧ v ≠ [] ∧ escapesNext v = false
        ∧ f = { operation := .equals, value := plainText v } := by
  rw [equals?, Option.map_eq_some_iff]
  constructor
  · rintro ⟨v, h, rfl⟩
    obtain ⟨r, hr, hv⟩ := Option.bind_eq_some_iff.mp h
    obtain ⟨rfl, hne, hesc⟩ := (beforeAnchor?_eq_some_iff _ _).mp hv
    exact ⟨v, (dropLead?_eq_some_iff _ _ _).mp hr, hne, hesc, rfl⟩
  · rintro ⟨v, hp, hne, hesc, rfl⟩
    refine ⟨v, ?_, rfl⟩
    rw [(dropLead?_eq_some_iff ['^'] _ _).mpr hp, Option.bind_some]
    exact (beforeAnchor?_eq_some_iff _ _).mpr ⟨rfl, hne, hesc⟩

theorem beginsWith?_eq_some_iff (p : List Char) (f : MatchForm) :
    beginsWith? p = some f ↔
      ∃ v, p = '^' :: v ∧ v ≠ [] ∧ f = { operation := .beginsWith, value := plainText v } := by
  rw [beginsWith?, Option.bind_eq_some_iff]
  constructor
  · rintro ⟨v, hp, hf⟩
    split at hf
    · exact absurd hf (by simp)
    · next hne =>
        exact ⟨v, (dropLead?_eq_some_iff _ _ _).mp hp, by simpa using hne,
          (Option.some.inj hf).symm⟩
  · rintro ⟨v, hp, hne, rfl⟩
    refine ⟨v, (dropLead?_eq_some_iff _ _ _).mpr hp, ?_⟩
    rw [if_neg (by simpa using hne)]

theorem endsWith?_eq_some_iff (p : List Char) (f : MatchForm) :
    endsWith? p = some f ↔
      ∃ v, p = v ++ ['$'] ∧ v ≠ [] ∧ escapesNext v = false
        ∧ f = { operation := .endsWith, value := plainText v } := by
  rw [endsWith?, Option.map_eq_some_iff]
  constructor
  · rintro ⟨v, h, rfl⟩
    obtain ⟨hp, hne, hesc⟩ := (beforeAnchor?_eq_some_iff _ _).mp h
    exact ⟨v, hp, hne, hesc, rfl⟩
  · rintro ⟨v, hp, hne, hesc, rfl⟩
    exact ⟨v, (beforeAnchor?_eq_some_iff _ _).mpr ⟨hp, hne, hesc⟩, rfl⟩

theorem matchesPattern?_eq_some_iff (p : List Char) (f : MatchForm) :
    matchesPattern? p = some f ↔
      ∃ v w r, alternatives p = v :: w :: r
        ∧ f = { operation := .matchesPattern, value := plainText v
                values := some ((v :: w :: r).map plainText) } := by
  rw [matchesPattern?]
  constructor
  · intro h
    split at h
    · next v w r hparts => exact ⟨v, w, r, hparts, (Option.some.inj h).symm⟩
    · exact absurd h (by simp)
  · rintro ⟨v, w, r, hparts, rfl⟩
    rw [hparts]

/-! ## What is recovered -/

/-- The shapes of texts with the tests that are recovered from them. -/
inductive HasShape : List Char → MatchForm → Prop where
  | comparison (c : Comparison) (t : List Char) :
      HasShape (c.mark ++ t) { operation := .compare c, value := String.ofList t }
  | extractAndCompare {cs first value last : List Char}
      (h : twoGroups? cs = some (first, value, last)) :
      HasShape ("(?:".toList ++ cs)
        { operation := .extractAndCompare, value := plainText value
          before := some (plainText first), after := some (plainText last) }
  | doesNotContain {v : List Char} (hne : v ≠ []) (hline : '\n' ∉ v) :
      HasShape ("^(?!.*".toList ++ (v ++ [')']))
        { operation := .doesNotContain, value := plainText v }
  | doesNotEqual {v : List Char} (hne : v ≠ []) (hline : '\n' ∉ v) :
      HasShape ("^(?!".toList ++ (v ++ ['$', ')']))
        { operation := .doesNotEqual, value := plainText v }
  | equals {v : List Char} (hne : v ≠ []) :
      HasShape ('^' :: (v ++ ['$'])) { operation := .equals, value := plainText v }
  | beginsWith {v : List Char} (hne : v ≠ []) :
      HasShape ('^' :: v) { operation := .beginsWith, value := plainText v }
  | endsWith {v : List Char} (hne : v ≠ []) (hmark : ¬ Marked (v ++ ['$'])) :
      HasShape (v ++ ['$']) { operation := .endsWith, value := plainText v }
  | matchesPattern {p v w : List Char} {r : List (List Char)} (hparts : alternatives p = v :: w :: r)
      (hmark : ¬ Marked p) :
      HasShape p
        { operation := .matchesPattern, value := plainText v
          values := some ((v :: w :: r).map plainText) }
  | contains {p : List Char} (hmark : ¬ Marked p) : HasShape p (containsForm p)

theorem specialTest?_cases {p : List Char} {f : MatchForm} (h : specialTest? p = some f) :
    comparison? p = some f ∨ extractAndCompare? p = some f ∨ doesNotContain? p = some f
      ∨ doesNotEqual? p = some f := by
  rw [specialTest?, Option.orElse_eq_orElse] at h
  simp only [Option.orElse_eq_or, Option.or_eq_some_iff] at h
  tauto

theorem generalTest_cases (p : List Char) :
    equals? p = some (generalTest p) ∨ beginsWith? p = some (generalTest p)
      ∨ endsWith? p = some (generalTest p) ∨ matchesPattern? p = some (generalTest p)
      ∨ generalTest p = containsForm p := by
  rw [generalTest, Option.orElse_eq_orElse]
  cases h : (equals? p).orElse fun _ => (beginsWith? p).orElse fun _ =>
      (endsWith? p).orElse fun _ => matchesPattern? p with
  | none => simp
  | some f =>
      simp only [Option.orElse_eq_or, Option.or_eq_some_iff] at h
      rw [Option.getD_some]
      tauto

/-- **What is recovered from a text has a shape of that text.** -/
theorem hasShape_decomposeMatch (p : List Char) : HasShape p (decomposeMatch p) := by
  by_cases hmark : Marked p
  · obtain ⟨c, t, rfl⟩ := hmark
    rw [decomposeMatch, specialTest?, comparison?_mark_append]
    exact .comparison c t
  -- the special shapes were tried first, then the general ones
  rw [decomposeMatch]
  cases h : specialTest? p with
  | some f =>
      rw [Option.getD_some]
      rcases specialTest?_cases h with h | h | h | h
      · rw [comparison?_of_not_marked hmark] at h
        exact absurd h (by simp)
      · obtain ⟨cs, first, value, last, rfl, hgroups, rfl⟩ := (extractAndCompare?_eq_some_iff _ _).mp h
        exact .extractAndCompare hgroups
      · obtain ⟨v, rfl, hne, hline, rfl⟩ := (doesNotContain?_eq_some_iff _ _).mp h
        exact .doesNotContain hne hline
      · obtain ⟨v, rfl, hne, hline, -, rfl⟩ := (doesNotEqual?_eq_some_iff _ _).mp h
        exact .doesNotEqual hne hline
  | none =>
      rw [Option.getD_none]
      rcases generalTest_cases p with h | h | h | h | h
      · obtain ⟨v, rfl, hne, -, hf⟩ := (equals?_eq_some_iff _ _).mp h
        rw [hf]
        exact .equals hne
      · obtain ⟨v, rfl, hne, hf⟩ := (beginsWith?_eq_some_iff _ _).mp h
        rw [hf]
        exact .beginsWith hne
      · obtain ⟨v, rfl, hne, -, hf⟩ := (endsWith?_eq_some_iff _ _).mp h
        rw [hf]
        exact .endsWith hne hmark
      · obtain ⟨v, w, r, hparts, hf⟩ := (matchesPattern?_eq_some_iff _ _).mp h
        rw [hf]
        exact .matchesPattern hparts hmark
      · rw [h]
        exact .contains hmark

/-! ## Texts of no special shape -/

theorem dropLead?_eq_none {lead p : List Char} (h : ¬ lead <+: p) : dropLead? lead p = none := by
  rw [dropLead?, if_neg (mt List.isPrefixOf_iff_prefix.mp h)]

/-- Every special shape has a parenthesis in one of the first two places. -/
theorem specialTest?_eq_none {p : List Char} (hmark : ¬ Marked p) (hopen : ¬ ['('] <+: p)
    (hcaret : ¬ ['^', '('] <+: p) : specialTest? p = none := by
  have hgroup : dropLead? "(?:".toList p = none :=
    dropLead?_eq_none fun h => hopen (List.IsPrefix.trans (by decide) h)
  have hcontain : dropLead? "^(?!.*".toList p = none :=
    dropLead?_eq_none fun h => hcaret (List.IsPrefix.trans (by decide) h)
  have hequal : dropLead? "^(?!".toList p = none :=
    dropLead?_eq_none fun h => hcaret (List.IsPrefix.trans (by decide) h)
  rw [specialTest?, comparison?_of_not_marked hmark, extractAndCompare?, doesNotContain?,
    doesNotEqual?, hgroup, hcontain, hequal]
  rfl

/-- A text with an anchor at the front. -/
theorem decomposeMatch_of_anchored {p : List Char} (h : ¬ ['('] <+: p) :
    decomposeMatch ('^' :: p) = generalTest ('^' :: p) := by
  have hspecial : specialTest? ('^' :: p) = none :=
    specialTest?_eq_none (not_marked_cons (by decide) p) (by simp [List.cons_prefix_cons])
      (by simpa [List.cons_prefix_cons] using h)
  rw [decomposeMatch, hspecial, Option.getD_none]

/-- A text without a parenthesis or an anchor at the front. -/
theorem decomposeMatch_of_unanchored {p : List Char} (hmark : ¬ Marked p) (hopen : ¬ ['('] <+: p)
    (hcaret : ¬ ['^'] <+: p) :
    decomposeMatch p = ((endsWith? p).or (matchesPattern? p)).getD (containsForm p) := by
  have hspecial : specialTest? p = none :=
    specialTest?_eq_none hmark hopen fun h => hcaret (List.IsPrefix.trans (by decide) h)
  rw [decomposeMatch, hspecial, Option.getD_none, generalTest, equals?, beginsWith?,
    dropLead?_eq_none hcaret]
  simp

end StatementTagging
