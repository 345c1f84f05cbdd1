import StatementTagging.Proofs.Dispatch
import StatementTagging.Proofs.ExtractionRoundTrip

set_option autoImplicit false

/-! # Descriptions of compiled tests

A pattern of unknown purpose is described by a search that also knows the predefined patterns and the shapes
of extractions, which are tried before the general tests. For a compiled test these never get a turn: no
group of a line is written into it (`noLineGroup_source`), and it opens with a group only if two groups
stand around its value (`open_source`). So the search finds the test that is recovered without them
(`describe_compile`).
-/

namespace StatementTagging

open Pattern
open ExtractionForm (lazyGroup greedyGroup)

/-! ## Texts without a group of a line -/

theorem NoLineGroup.cons_cons {c d : Char} (hd : d ≠ '.') {s : List Char} (h : NoLineGroup (d :: s)) :
    NoLineGroup (c :: d :: s) :=
  List.isChain_cons_cons.mpr ⟨fun _ => hd, h⟩

/-- **Every shape of an extraction** has a group of a line. -/
theorem NoLineGroup.extraction?_eq_none {p : List Char} (h : NoLineGroup p) : extraction? p = none := by
  rw [Option.eq_none_iff_forall_ne_some]
  intro f hf
  rcases extraction?_cases hf with hf | hf | hf
  · obtain ⟨c, lead, rest, rfl, -⟩ := extractBetween?_sound hf
    exact h.not_infix ".*?)".toList.tail ⟨c :: lead, rest, by simp [lazyGroup]⟩
  · obtain ⟨lead, rfl, -⟩ := (extractAfter?_eq_some_iff _ _).mp hf
    exact h.not_infix ".*)".toList.tail ⟨lead, [], by simp [greedyGroup]⟩
  · obtain ⟨rest, rfl, -⟩ := (extractBefore?_eq_some_iff _ _).mp hf
    exact h.not_infix ".*?)".toList.tail ⟨[], rest, by simp [lazyGroup]⟩

/-- A group that is opened with a question mark is none of a line. -/
theorem noLineGroup_openMark {s : List Char} (h : NoLineGroup s) : NoLineGroup ('(' :: '?' :: s) :=
  .cons_cons (by decide) (.cons (by decide) h)

theorem noLineGroup_alternatives (v : List Char) (vs : List (List Char)) :
    NoLineGroup (List.intercalate ['|'] ((v :: vs).map escape)) := by
  induction vs generalizing v with
  | nil =>
      rw [List.map_singleton, List.intercalate_singleton]
      exact noLineGroup_escape v
  | cons w vs ih =>
      rw [intercalate_escape_cons_cons]
      exact noLineGroup_escape_append v (.cons (by decide) (ih w)) (by simp)

theorem exists_source_eq_intercalate {f : MatchForm} (hop : f.operation = .matchesPattern) :
    ∃ v vs, f.source = List.intercalate ['|'] ((v :: vs).map escape) := by
  obtain ⟨v, vs, hvs⟩ := exists_alternatives_eq_cons f
  refine ⟨v.toList, vs.map String.toList, ?_⟩
  rw [← List.map_cons, List.map_map, ← hvs]
  simp only [MatchForm.source, hop]
  rfl

/-- **No group of a line is written into a test.** -/
theorem noLineGroup_source {f : MatchForm} (hop : ∀ c, f.operation ≠ .compare c) :
    NoLineGroup f.source := by
  have hclosed : ∀ (s : List Char) (d : Char), d ≠ '.' → NoLineGroup (escape s ++ [d]) := fun s d hd =>
    noLineGroup_escape_append s (List.isChain_singleton d) (by simpa using hd)
  obtain ⟨op, v, ws, a, b⟩ := f
  cases op with
  | compare c => exact absurd rfl (hop c)
  | beginsWith => exact .cons (by decide) (noLineGroup_escape v.toList)
  | endsWith => exact hclosed v.toList '$' (by decide)
  | contains | other => exact noLineGroup_escape v.toList
  | equals => exact .cons (by decide) (hclosed v.toList '$' (by decide))
  | doesNotContain =>
      show NoLineGroup ('^' :: '(' :: '?' :: '!' :: '.' :: '*' :: (escape v.toList ++ [')']))
      refine .cons (by decide) (noLineGroup_openMark ?_)
      exact .cons (by decide) (.cons (by decide) (.cons (by decide) (hclosed v.toList ')' (by decide))))
  | doesNotEqual =>
      show NoLineGroup ('^' :: '(' :: '?' :: '!' :: (escape v.toList ++ ['$', ')']))
      refine .cons (by decide) (noLineGroup_openMark (.cons (by decide) ?_))
      exact noLineGroup_escape_append v.toList (.cons (by decide) (List.isChain_singleton ')')) (by simp)
  | matchesPattern =>
      obtain ⟨w, rest, hsource⟩ := exists_source_eq_intercalate (f := ⟨.matchesPattern, v, ws, a, b⟩) rfl
      rw [hsource]
      exact noLineGroup_alternatives w rest
  | extractAndCompare =>
      -- from the back: the group behind the value, the value, the group in front of it
      have hlast : NoLineGroup ('(' :: '?' :: ':' :: (escape (b.getD "").toList ++ [')'])) :=
        noLineGroup_openMark (.cons (by decide) (hclosed _ ')' (by decide)))
      have hvalue : NoLineGroup (')' :: (escape v.toList
          ++ '(' :: '?' :: ':' :: (escape (b.getD "").toList ++ [')']))) :=
        .cons (by decide) (noLineGroup_escape_append v.toList hlast (by simp))
      rw [source_extractAndCompare]
      exact noLineGroup_openMark (.cons (by decide)
        (noLineGroup_escape_append (a.getD "").toList hvalue (by simp)))

/-! ## Texts that open with a group -/

/-- A test opens with a group only if two groups stand around its value. -/
theorem open_source {f : MatchForm} (h : ['('] <+: f.source) : "(?:".toList <+: f.source := by
  have hescape : ∀ (s t : List Char), ¬ ['('] <+: t → ¬ ['('] <+: escape s ++ t := fun s _ =>
    not_prefix_escape_append (by decide) (by decide) s
  obtain ⟨op, v, ws, a, b⟩ := f
  cases op with
  | compare c =>
      obtain ⟨r, hr⟩ := mark_eq_cons c
      simp only [MatchForm.source, hr, List.cons_append, List.cons_prefix_cons] at h
      exact absurd h.1 (by decide)
  | beginsWith | doesNotContain | equals | doesNotEqual => simp [MatchForm.source] at h
  | endsWith => exact absurd h (hescape v.toList ['$'] (by decide))
  | contains | other =>
      have hvalue := hescape v.toList [] (by simp)
      rw [List.append_nil] at hvalue
      exact absurd h hvalue
  | matchesPattern =>
      obtain ⟨w, rest, hsource⟩ := exists_source_eq_intercalate (f := ⟨.matchesPattern, v, ws, a, b⟩) rfl
      rw [hsource] at h
      exact absurd h (not_prefix_intercalate (by decide) (by decide) (by decide) w rest)
  | extractAndCompare =>
      rw [source_extractAndCompare]
      exact List.prefix_append _ _

/-- **No test is compiled to a predefined pattern**, for these open with a group that takes a value. -/
theorem ofPattern?_compile (f : MatchForm) : PredefinedPattern.ofPattern? f.compile = none := by
  rw [Option.eq_none_iff_forall_ne_some]
  intro d hd
  obtain ⟨hmem, hpattern⟩ := mem_of_ofPattern? hd
  obtain ⟨hopen, hgroup⟩ := (by decide : ∀ d ∈ predefinedPatterns,
    ['('] <+: d.pattern.toList ∧ ¬ "(?:".toList <+: d.pattern.toList) d hmem
  rw [hpattern] at hopen hgroup
  exact hgroup (open_source hopen)

/-! ## The main result -/

/-- The shapes of extractions do not matter to a text that has none of them, or that has one of the shapes
before them. -/
theorem recognise_eq_test {p : List Char} (h : specialTest? p = none → extraction? p = none) :
    recognise p = .test (decomposeMatch p) := by
  rw [recognise, decomposeMatch]
  cases hspecial : specialTest? p with
  | some f => rfl
  | none => rw [h hspecial]; rfl

/-- **A compiled test is described as the test that is recovered from it**: no predefined pattern and no
shape of an extraction comes before. -/
theorem describe_compile (f : MatchForm) :
    PredefinedPattern.ofPattern? f.compile = none
      ∧ recognise f.compile.toList = .test (decomposeMatch f.compile.toList)
      ∧ describe f.compile.toList = (decomposeMatch f.compile.toList).rendering := by
  have hrecognise : recognise f.compile.toList = .test (decomposeMatch f.compile.toList) := by
    refine recognise_eq_test fun hspecial => ?_
    rw [toList_compile] at hspecial ⊢
    refine (noLineGroup_source fun c hc => ?_).extraction?_eq_none
    -- a comparison has the first of all shapes
    have hcomparison : f.source = c.mark ++ Text.strip f.value.toList := by
      simp only [MatchForm.source, hc]
    rw [hcomparison, specialTest?, comparison?_mark_append] at hspecial
    cases hspecial
  refine ⟨ofPattern?_compile f, hrecognise, ?_⟩
  rw [describe, String.ofList_toList, ofPattern?_compile f, hrecognise]
  rfl

/-- The value is cut by a line break, so that the shape of the operation is not seen, and it holds a group of
the line, which is not seen either because it is escaped. -/
example :
    describe (MatchForm.compile { operation := .doesNotContain, value := "A(.*?)\nB" }).toList
      = "Starts with '(?!.*A(.*?)\nB)'" := by
  decide +kernel

end StatementTagging
