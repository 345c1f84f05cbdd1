import StatementTagging.Proofs.RoundTrip

set_option autoImplicit false

/-! # From extractions to patterns and back

A compiled extraction is a line with a group of the line in it, `(.*?)` or `(.*)`. Such a group begins with
a parenthesis before a dot, which an escaped text does not have (`noLineGroup_escape_append`), so the
group that was written is the first one and the only one. Every shape of an extraction is a single line;
a text that has none of them is kept as a whole and gets another group around it
(`source_decomposeExtraction_ne`). From these two facts follows for which extractions the compiled text
is stored again after it has been recovered (`decomposeExtraction_compile`).
-/

namespace StatementTagging

open Pattern
open ExtractionForm (lazyGroup greedyGroup)

/-! ## Groups of a line -/

/-- Nowhere in the text a parenthesis opens a group that begins with a dot. -/
def NoLineGroup (s : List Char) : Prop := s.IsChain fun c d => c = '(' → d ≠ '.'

theorem noLineGroup_escape_append (s : List Char) {t : List Char} (ht : NoLineGroup t)
    (hhead : ∀ d ∈ t.head?, d ≠ '.') : NoLineGroup (escape s ++ t) :=
  isChain_escape_append (by decide) (by decide) s ht hhead

theorem noLineGroup_escape (s : List Char) : NoLineGroup (escape s) := by
  have hchain := noLineGroup_escape_append s List.IsChain.nil (by simp)
  rwa [List.append_nil] at hchain

theorem NoLineGroup.cons {c : Char} (hc : c ≠ '(') {s : List Char} (h : NoLineGroup s) :
    NoLineGroup (c :: s) :=
  List.isChain_cons.mpr ⟨fun _ _ hopen => absurd hopen hc, h⟩

theorem NoLineGroup.not_infix {s : List Char} (h : NoLineGroup s) (m : List Char) :
    ¬ '(' :: '.' :: m <:+: s := by
  rintro ⟨a, b, rfl⟩
  rw [NoLineGroup, List.append_assoc] at h
  have hpair := (List.isChain_append.mp h).2.1
  exact (List.isChain_cons_cons.mp hpair).1 rfl rfl

/-! ## Around the first occurrence -/

theorem around?_sound {mid cs lead rest : List Char} (h : around? mid cs = some (lead, rest)) :
    cs = lead ++ (mid ++ rest) := by
  induction cs generalizing lead with
  | nil => exact absurd h (by simp [around?])
  | cons c r ih =>
      rw [around?] at h
      split at h
      · next hprefix =>
          obtain ⟨rfl, rfl⟩ := Prod.mk.inj (Option.some.inj h)
          obtain ⟨t, ht⟩ := List.isPrefixOf_iff_prefix.mp hprefix
          rw [← ht, List.drop_left]
          rfl
      · obtain ⟨⟨lead', rest'⟩, hrest, hpair⟩ := Option.map_eq_some_iff.mp h
        obtain ⟨rfl, rfl⟩ := Prod.mk.inj hpair
        rw [ih hrest]
        rfl

theorem around?_eq_none {mid cs : List Char} (h : ¬ mid <:+: cs) : around? mid cs = none := by
  rw [Option.eq_none_iff_forall_ne_some]
  rintro ⟨lead, rest⟩ hsome
  rw [around?_sound hsome] at h
  exact h ⟨lead, rest, List.append_assoc _ _ _⟩

/-- **No group begins in the text before the one that was written.** -/
theorem around?_append {lead : List Char} (h : NoLineGroup (lead ++ ['('])) (s : List Char) :
    around? lazyGroup (lead ++ '(' :: s)
      = (around? lazyGroup ('(' :: s)).map fun (first, rest) => (lead ++ first, rest) := by
  induction lead with
  | nil => exact Option.map_id'.symm
  | cons c lead ih =>
      obtain ⟨hhead, htail⟩ := List.isChain_cons.mp h
      have hnot : ¬ lazyGroup <+: c :: (lead ++ '(' :: s) := by
        intro hprefix
        obtain ⟨rfl, hnext⟩ := List.cons_prefix_cons.mp hprefix
        cases lead with
        | nil => exact absurd (List.cons_prefix_cons.mp hnext).1 (by decide)
        | cons d lead =>
            obtain ⟨rfl, -⟩ := List.cons_prefix_cons.mp hnext
            exact hhead '.' rfl rfl rfl
      rw [List.cons_append, around?, if_neg (mt List.isPrefixOf_iff_prefix.mp hnot), ih htail,
        Option.map_map]
      rfl

theorem around?_lazyGroup (rest : List Char) :
    around? lazyGroup ('(' :: (".*?)".toList ++ rest)) = some ([], rest) := by
  have hprefix : lazyGroup.isPrefixOf ('(' :: (".*?)".toList ++ rest)) = true :=
    List.isPrefixOf_iff_prefix.mpr ⟨rest, rfl⟩
  rw [around?, if_pos hprefix]
  rfl

/-! ## One recogniser at a time -/

theorem isOneLine_iff (cs : List Char) : isOneLine cs = true ↔ '\n' ∉ cs := by
  simp [isOneLine]

theorem extractBetween?_sound {p : List Char} {f : ExtractionForm} (h : extractBetween? p = some f) :
    ∃ c lead rest, p = c :: (lead ++ (lazyGroup ++ rest)) ∧ '\n' ∉ c :: lead ∧ rest ≠ [] ∧ '\n' ∉ rest
      ∧ f = { operation := .between, before := some (plainText (c :: lead))
              after := some (plainText rest) } := by
  cases p with
  | nil => exact absurd h (by simp [extractBetween?])
  | cons c r =>
      rw [extractBetween?] at h
      split at h
      · next lead rest haround =>
          split at h
          · next hline =>
              simp only [Bool.and_eq_true, isOneLine_iff, Bool.not_eq_true',
                List.isEmpty_eq_false_iff] at hline
              obtain ⟨⟨hlead, hne⟩, hrest⟩ := hline
              exact ⟨c, lead, rest, by rw [around?_sound haround], hlead, hne, hrest,
                (Option.some.inj h).symm⟩
          · exact absurd h (by simp)
      · exact absurd h (by simp)

theorem extractBetween?_eq_none {c : Char} {r : List Char} (h : ¬ lazyGroup <:+: r) :
    extractBetween? (c :: r) = none := by
  rw [extractBetween?, around?_eq_none h]

theorem extractAfter?_eq_some_iff (p : List Char) (f : ExtractionForm) :
    extractAfter? p = some f ↔
      ∃ lead, p = lead ++ greedyGroup ∧ lead ≠ [] ∧ '\n' ∉ lead
        ∧ f = { operation := .after, before := some (plainText lead) } := by
  rw [extractAfter?, Option.map_eq_some_iff]
  constructor
  · rintro ⟨lead, h, rfl⟩
    obtain ⟨r, hr, hline⟩ := Option.bind_eq_some_iff.mp h
    obtain ⟨rfl, hne, hbreak⟩ := (line?_eq_some_iff _ _).mp hline
    exact ⟨lead, (dropTail?_eq_some_iff _ _ _).mp hr, hne, hbreak, rfl⟩
  · rintro ⟨lead, hp, hne, hbreak, rfl⟩
    refine ⟨lead, ?_, rfl⟩
    rw [(dropTail?_eq_some_iff _ _ _).mpr hp, Option.bind_some,
      (line?_eq_some_iff _ _).mpr ⟨rfl, hne, hbreak⟩]

theorem extractBefore?_eq_some_iff (p : List Char) (f : ExtractionForm) :
    extractBefore? p = some f ↔
      ∃ rest, p = lazyGroup ++ rest ∧ rest ≠ [] ∧ '\n' ∉ rest
        ∧ f = { operation := .before, after := some (plainText rest) } := by
  rw [extractBefore?, Option.map_eq_some_iff]
  constructor
  · rintro ⟨rest, h, rfl⟩
    obtain ⟨r, hr, hline⟩ := Option.bind_eq_some_iff.mp h
    obtain ⟨rfl, hne, hbreak⟩ := (line?_eq_some_iff _ _).mp hline
    exact ⟨rest, (dropLead?_eq_some_iff _ _ _).mp hr, hne, hbreak, rfl⟩
  · rintro ⟨rest, hp, hne, hbreak, rfl⟩
    refine ⟨rest, ?_, rfl⟩
    rw [(dropLead?_eq_some_iff _ _ _).mpr hp, Option.bind_some,
      (line?_eq_some_iff _ _).mpr ⟨rfl, hne, hbreak⟩]

theorem extraction?_cases {p : List Char} {f : ExtractionForm} (h : extraction? p = some f) :
    extractBetween? p = some f ∨ extractAfter? p = some f ∨ extractBefore? p = some f := by
  rw [extraction?, Option.orElse_eq_orElse] at h
  simp only [Option.orElse_eq_or, Option.or_eq_some_iff] at h
  tauto

/-- **Every shape of an extraction is a single line.** -/
theorem break_not_mem_of_extraction? {p : List Char} {f : ExtractionForm}
    (h : extraction? p = some f) : '\n' ∉ p := by
  have hlazy : '\n' ∉ lazyGroup := by decide
  have hgreedy : '\n' ∉ greedyGroup := by decide
  rcases extraction?_cases h with h | h | h
  · obtain ⟨c, lead, rest, rfl, hlead, -, hrest, -⟩ := extractBetween?_sound h
    rw [← List.cons_append, List.mem_append, List.mem_append]
    tauto
  · obtain ⟨lead, rfl, -, hlead, -⟩ := (extractAfter?_eq_some_iff _ _).mp h
    rw [List.mem_append]
    tauto
  · obtain ⟨rest, rfl, -, hrest, -⟩ := (extractBefore?_eq_some_iff _ _).mp h
    rw [List.mem_append]
    tauto

/-! ## Predefined patterns -/

theorem mem_of_ofPattern? {p : List Char} {d : PredefinedPattern}
    (h : PredefinedPattern.ofPattern? (String.ofList p) = some d) :
    d ∈ predefinedPatterns ∧ d.pattern.toList = p := by
  refine ⟨List.mem_of_find?_eq_some h, ?_⟩
  have heq : d.pattern = String.ofList p := by simpa using List.find?_some h
  rw [heq, String.toList_ofList]

theorem source_decomposeExtraction_predefined :
    ∀ d ∈ predefinedPatterns, (decomposeExtraction d.pattern.toList).source = d.pattern.toList := by
  decide

/-! ## What is recovered -/

theorem source_matching {f : ExtractionForm} (h : f.operation = .matching) :
    f.source = if f.pattern.getD "" = "" then greedyGroup
      else '(' :: ((f.pattern.getD "").toList ++ [')']) := by
  rw [ExtractionForm.source, h]
  cases f.pattern with
  | none => rfl
  | some p => rfl

/-- The predefined patterns have no shape of another extraction. -/
theorem decomposeExtraction_of_extraction? {p : List Char} {f : ExtractionForm}
    (h : extraction? p = some f) : decomposeExtraction p = f := by
  cases hkey : PredefinedPattern.ofPattern? (String.ofList p) with
  | some d =>
      obtain ⟨hmem, rfl⟩ := mem_of_ofPattern? hkey
      have hnone := (by decide : ∀ d ∈ predefinedPatterns, extraction? d.pattern.toList = none) d hmem
      rw [hnone] at h
      cases h
  | none => rw [decomposeExtraction, hkey, h]

/-- **What a text may be recovered as**: a predefined pattern, an extraction whose shape it has, the pattern
in a group, or all of it as a pattern. -/
theorem decomposeExtraction_cases (p : List Char) :
    (∃ d ∈ predefinedPatterns, d.pattern.toList = p
        ∧ decomposeExtraction p = { operation := .predefined d.key })
      ∨ extraction? p = some (decomposeExtraction p)
      ∨ (∃ v, v ≠ [] ∧ '\n' ∉ v ∧ p = '(' :: (v ++ [')'])
        ∧ decomposeExtraction p = { operation := .matching, pattern := some (String.ofList v) })
      ∨ decomposeExtraction p = { operation := .matching, pattern := some (String.ofList p) } := by
  cases hkey : PredefinedPattern.ofPattern? (String.ofList p) with
  | some d =>
      obtain ⟨hmem, hpattern⟩ := mem_of_ofPattern? hkey
      exact Or.inl ⟨d, hmem, hpattern, by rw [decomposeExtraction, hkey]⟩
  | none =>
      cases hshape : extraction? p with
      | some f => exact Or.inr (Or.inl (by rw [decomposeExtraction_of_extraction? hshape]))
      | none =>
          cases hinner : ((dropLead? ['('] p).bind (dropTail? [')'])).bind line? with
          | some v =>
              obtain ⟨rfl, hne, hline⟩ := (line?_between_eq_some_iff _ _ _ _).mp hinner
              refine Or.inr (Or.inr (Or.inl ⟨v, hne, hline, rfl, ?_⟩))
              rw [decomposeExtraction, hkey, hshape, hinner]
              rfl
          | none => exact Or.inr (Or.inr (Or.inr (by rw [decomposeExtraction, hkey, hshape, hinner]; rfl)))

/-- A text with a line break has no shape, so it is taken as a whole. -/
theorem decomposeExtraction_of_break {p : List Char} (h : '\n' ∈ p) :
    decomposeExtraction p = { operation := .matching, pattern := some (String.ofList p) } := by
  rcases decomposeExtraction_cases p with ⟨d, hd, rfl, -⟩ | hshape | ⟨v, -, hline, rfl, -⟩ | hform
  · exact absurd h ((by decide : ∀ d ∈ predefinedPatterns, '\n' ∉ d.pattern.toList) d hd)
  · exact absurd h (break_not_mem_of_extraction? hshape)
  · exact absurd h (by simpa using hline)
  · exact hform

/-- **A text that is taken as a whole gets a group around it**, so that it is not stored as it was. -/
theorem source_decomposeExtraction_ne {p : List Char}
    (h : decomposeExtraction p = { operation := .matching, pattern := some (String.ofList p) }) :
    (decomposeExtraction p).source ≠ p := by
  rw [h, source_matching rfl]
  intro heq
  have hlength := congrArg List.length heq
  split at hlength
  · next hnil =>
      have hp : p = [] := String.ofList_eq_empty_iff.mp hnil
      rw [hp] at hlength
      exact absurd hlength (by decide)
  · simp only [Option.getD_some, String.toList_ofList, List.length_cons, List.length_append,
      List.length_nil] at hlength
    omega

theorem source_decomposeExtraction_of_break {p : List Char} (hbreak : '\n' ∈ p) :
    (decomposeExtraction p).source ≠ p :=
  source_decomposeExtraction_ne (decomposeExtraction_of_break hbreak)

/-- So does a text of no shape that does not begin with a group. -/
theorem source_decomposeExtraction_of_not_open {p : List Char} (hopen : ¬ ['('] <+: p)
    (h : extraction? p = none) : (decomposeExtraction p).source ≠ p := by
  rcases decomposeExtraction_cases p with ⟨d, hd, rfl, -⟩ | hshape | ⟨v, -, -, rfl, -⟩ | hform
  · exact absurd ((by decide : ∀ d ∈ predefinedPatterns, ['('] <+: d.pattern.toList) d hd) hopen
  · cases h.symm.trans hshape
  · exact absurd ⟨v ++ [')'], rfl⟩ hopen
  · exact source_decomposeExtraction_ne hform

/-- A single line inside a group is kept as it is. -/
theorem source_decomposeExtraction_group {p : List Char} (hne : p ≠ []) (hline : '\n' ∉ p)
    (h : extraction? ('(' :: (p ++ [')'])) = none) :
    (decomposeExtraction ('(' :: (p ++ [')']))).source = '(' :: (p ++ [')']) := by
  rw [decomposeExtraction]
  cases hkey : PredefinedPattern.ofPattern? (String.ofList ('(' :: (p ++ [')']))) with
  | some d =>
      obtain ⟨hmem, hd⟩ := mem_of_ofPattern? hkey
      have hsource := source_decomposeExtraction_predefined d hmem
      rwa [hd, decomposeExtraction, hkey] at hsource
  | none =>
      have hinner := (line?_between_eq_some_iff ['('] [')'] ('(' :: (p ++ [')'])) p).mpr
        ⟨rfl, hne, hline⟩
      rw [h, hinner]
      show (if String.ofList p = "" then greedyGroup
        else '(' :: (String.ofList p).toList ++ [')']) = _
      rw [if_neg (by rwa [String.ofList_eq_empty_iff]), String.toList_ofList]
      rfl

/-! ## Shapes of compiled extractions -/

/-- A parenthesis may follow an escaped text. -/
theorem noLineGroup_escape_open (s : List Char) : NoLineGroup (escape s ++ ['(']) :=
  noLineGroup_escape_append s (List.isChain_singleton _) (by simp)

/-- What follows the parenthesis of a group at the front. -/
theorem noLineGroup_afterOpen (a : List Char) : NoLineGroup (".*?)".toList ++ escape a) :=
  .cons (by decide) (.cons (by decide) (.cons (by decide) (.cons (by decide) (noLineGroup_escape a))))

theorem not_open_escape {b : String} (hb : b ≠ "") (t : List Char) :
    ¬ ['('] <+: escape b.toList ++ t := by
  obtain ⟨c, lead, hlead⟩ := List.exists_cons_of_ne_nil ((escape_toList_ne_nil_iff b).mpr hb)
  have hfirst := not_prefix_escape_append (d := '(') (by decide) (by decide) b.toList
    (t := []) (by simp)
  rw [List.append_nil, hlead, List.cons_prefix_cons] at hfirst
  rw [hlead, List.cons_append, List.cons_prefix_cons]
  exact fun h => hfirst ⟨h.1, List.nil_prefix⟩

theorem extractBetween?_escape {b : String} (hb : b ≠ "") (t : List Char) :
    extractBetween? (escape b.toList ++ (lazyGroup ++ t))
      = if '\n' ∉ b.toList ∧ t ≠ [] ∧ '\n' ∉ t then
          some { operation := .between, before := some b, after := some (plainText t) }
        else none := by
  obtain ⟨c, lead, hlead⟩ := List.exists_cons_of_ne_nil ((escape_toList_ne_nil_iff b).mpr hb)
  have hchain := noLineGroup_escape_open b.toList
  have haround : around? lazyGroup (lead ++ (lazyGroup ++ t)) = some (lead, t) := by
    rw [hlead] at hchain
    show around? lazyGroup (lead ++ '(' :: (".*?)".toList ++ t)) = _
    rw [around?_append (List.isChain_cons.mp hchain).2, around?_lazyGroup]
    exact congrArg (fun first => some (first, t)) (List.append_nil lead)
  have hline : isOneLine (c :: lead) = true ↔ '\n' ∉ b.toList := by
    rw [isOneLine_iff, ← hlead, break_not_mem_escape_iff]
  have hplain : plainText (c :: lead) = b := by
    rw [← hlead, plainText_escape]
  rw [hlead, List.cons_append, extractBetween?, haround]
  simp only [Bool.and_eq_true, hline, isOneLine_iff, Bool.not_eq_true', List.isEmpty_eq_false_iff,
    hplain, and_assoc]

theorem extractBetween?_greedyGroup (b : List Char) :
    extractBetween? (escape b ++ greedyGroup) = none := by
  cases hb : escape b with
  | nil => rfl
  | cons c lead =>
      have hchain := noLineGroup_escape_open b
      rw [hb] at hchain
      have haround : around? lazyGroup (lead ++ greedyGroup) = none := by
        show around? lazyGroup (lead ++ '(' :: ".*)".toList) = none
        rw [around?_append (List.isChain_cons.mp hchain).2]
        rfl
      rw [List.cons_append, extractBetween?, haround]

theorem extraction?_between {b a : String} (hb : b ≠ "") (ha : a ≠ "") (hbline : '\n' ∉ b.toList)
    (haline : '\n' ∉ a.toList) :
    extraction? (escape b.toList ++ (lazyGroup ++ escape a.toList))
      = some { operation := .between, before := some b, after := some a } := by
  rw [extraction?, extractBetween?_escape hb, if_pos ⟨hbline, (escape_toList_ne_nil_iff a).mpr ha,
    (break_not_mem_escape_iff a).mpr haline⟩, plainText_escape]
  rfl

theorem extraction?_after {b : String} (hb : b ≠ "") (hline : '\n' ∉ b.toList) :
    extraction? (escape b.toList ++ greedyGroup) = some { operation := .after, before := some b } := by
  have hafter := (extractAfter?_eq_some_iff _ _).mpr ⟨escape b.toList, rfl,
    (escape_toList_ne_nil_iff b).mpr hb, (break_not_mem_escape_iff b).mpr hline, rfl⟩
  rw [extraction?, extractBetween?_greedyGroup, hafter, plainText_escape]
  rfl

theorem extraction?_before {a : String} (ha : a ≠ "") (hline : '\n' ∉ a.toList) :
    extraction? (lazyGroup ++ escape a.toList) = some { operation := .before, after := some a } := by
  have hchain := noLineGroup_afterOpen a.toList
  have hbetween : extractBetween? (lazyGroup ++ escape a.toList) = none :=
    extractBetween?_eq_none (hchain.not_infix _)
  have hafter : extractAfter? (lazyGroup ++ escape a.toList) = none := by
    rw [Option.eq_none_iff_forall_ne_some]
    intro f hf
    obtain ⟨lead, hlead, hne, -⟩ := (extractAfter?_eq_some_iff _ _).mp hf
    obtain ⟨c, lead, rfl⟩ := List.exists_cons_of_ne_nil hne
    -- the group at the end would begin after the parenthesis at the front
    have hrest : ".*?)".toList ++ escape a.toList = lead ++ greedyGroup := (List.cons.inj hlead).2
    exact hchain.not_infix ".*)".toList.tail (hrest ▸ ⟨lead, [], List.append_nil _⟩)
  have hbefore := (extractBefore?_eq_some_iff _ _).mpr ⟨escape a.toList, rfl,
    (escape_toList_ne_nil_iff a).mpr ha, (break_not_mem_escape_iff a).mpr hline, rfl⟩
  rw [extraction?, hbetween, hafter, hbefore, plainText_escape]
  rfl

/-- Nothing but the group follows the text. -/
theorem extraction?_nothingAfter {b : String} (hb : b ≠ "") :
    extraction? (escape b.toList ++ lazyGroup) = none := by
  have hbetween := extractBetween?_escape hb []
  rw [List.append_nil, if_neg (by simp)] at hbetween
  have hafter : extractAfter? (escape b.toList ++ lazyGroup) = none := by
    rw [Option.eq_none_iff_forall_ne_some]
    intro f hf
    obtain ⟨lead, hlead, -⟩ := (extractAfter?_eq_some_iff _ _).mp hf
    have hends : (escape b.toList ++ ['(']) ++ ".*?)".toList = lead ++ "(.*)".toList := by
      rw [List.append_assoc]
      exact hlead
    exact absurd (List.append_inj' hends rfl).2 (by decide)
  have hbefore : extractBefore? (escape b.toList ++ lazyGroup) = none := by
    rw [extractBefore?, dropLead?_eq_none fun h =>
      not_open_escape hb lazyGroup (List.IsPrefix.trans (by decide) h)]
    rfl
  rw [extraction?, hbetween, hafter, hbefore]
  rfl

/-! ## The domain -/

/-- A text that shows no other shape once it stands in a group. -/
structure IsPlainFragment (p : List Char) : Prop where
  oneLine : '\n' ∉ p
  noGroup : ¬ lazyGroup <:+: p
  noGroupStart : ¬ ".*?)".toList <+: p
  noGroupEnd : ¬ "(.*".toList <:+ p

/-- The extraction is stored again as it was compiled. -/
def ExtractionForm.Recoverable (f : ExtractionForm) : Prop :=
  match f.operation with
  | .between | .betweenAndVerify =>
    f.before.getD "" = "" ∧ f.after.getD "" = ""
      ∨ f.after.getD "" ≠ "" ∧ '\n' ∉ (f.before.getD "").toList ∧ '\n' ∉ (f.after.getD "").toList
  | .after => '\n' ∉ (f.before.getD "").toList
  | .before => '\n' ∉ (f.after.getD "").toList
  | .matching => IsPlainFragment (f.pattern.getD "").toList
  | .predefined _ | .other _ => True

/-- Recovering the text and compiling what is recovered gives the text back. -/
def Resaved (q : List Char) : Prop := (decomposeExtraction q).source = q

theorem break_mem_escape_iff (s : String) : '\n' ∈ escape s.toList ↔ '\n' ∈ s.toList :=
  mem_escape_iff (by decide) _

theorem resaved_before_iff (a : String) :
    Resaved (lazyGroup ++ escape a.toList) ↔ '\n' ∉ a.toList := by
  constructor
  · intro h hbreak
    exact source_decomposeExtraction_of_break
      (List.mem_append_right _ ((break_mem_escape_iff a).mpr hbreak)) h
  · intro hline
    by_cases ha : a = ""
    · subst ha
      exact (by decide : (decomposeExtraction lazyGroup).source = lazyGroup)
    · rw [Resaved, decomposeExtraction_of_extraction? (extraction?_before ha hline)]
      rfl

theorem resaved_after_iff (b : String) :
    Resaved (escape b.toList ++ greedyGroup) ↔ '\n' ∉ b.toList := by
  by_cases hb : b = ""
  · subst hb
    exact iff_of_true (by decide : (decomposeExtraction greedyGroup).source = greedyGroup) (by decide)
  constructor
  · intro h hbreak
    exact source_decomposeExtraction_of_break
      (List.mem_append_left _ ((break_mem_escape_iff b).mpr hbreak)) h
  · intro hline
    rw [Resaved, decomposeExtraction_of_extraction? (extraction?_after hb hline)]
    rfl

theorem resaved_between_iff (b a : String) :
    Resaved (escape b.toList ++ (lazyGroup ++ escape a.toList)) ↔
      b = "" ∧ a = "" ∨ a ≠ "" ∧ '\n' ∉ b.toList ∧ '\n' ∉ a.toList := by
  by_cases hb : b = ""
  · -- with nothing before the group, the text is that of what stands before `a`
    subst hb
    rw [String.toList_empty, escape_nil, List.nil_append, resaved_before_iff]
    by_cases ha : a = "" <;> simp [ha]
  have hopen : ¬ ['('] <+: escape b.toList ++ (lazyGroup ++ escape a.toList) := not_open_escape hb _
  by_cases ha : a = ""
  · subst ha
    rw [String.toList_empty, escape_nil, List.append_nil] at hopen ⊢
    refine iff_of_false ?_ (by simp [hb])
    exact source_decomposeExtraction_of_not_open hopen (extraction?_nothingAfter hb)
  constructor
  · intro h
    refine Or.inr ⟨ha, ?_⟩
    rw [← not_or]
    intro hbreak
    refine source_decomposeExtraction_of_break ?_ h
    rw [List.mem_append, List.mem_append, break_mem_escape_iff, break_mem_escape_iff]
    tauto
  · rintro (⟨hnil, -⟩ | ⟨-, hbline, haline⟩)
    · exact absurd hnil hb
    rw [Resaved, decomposeExtraction_of_extraction? (extraction?_between hb ha hbline haline)]
    exact List.append_assoc _ _ _

/-- What is not at the end stands before the last character. -/
theorem prefix_of_append_eq_concat {m p rest : List Char} {d : Char} (h : p ++ [d] = m ++ rest)
    (hrest : rest ≠ []) : m <+: p := by
  have hprefix : m <+: p ++ [d] := ⟨rest, h.symm⟩
  rcases List.prefix_concat_iff.mp hprefix with rfl | hm
  · exact absurd (List.append_cancel_left (h.symm.trans (List.append_nil _).symm)) hrest
  · exact hm

theorem IsPlainFragment.extraction?_eq_none {p : List Char} (h : IsPlainFragment p) :
    extraction? ('(' :: (p ++ [')'])) = none := by
  rw [Option.eq_none_iff_forall_ne_some]
  intro f hf
  rcases extraction?_cases hf with hf | hf | hf
  · obtain ⟨c, lead, rest, hp, -, hrest, -⟩ := extractBetween?_sound hf
    rw [← List.append_assoc] at hp
    have hlead : lead ++ lazyGroup <+: p := prefix_of_append_eq_concat (List.cons.inj hp).2 hrest
    exact h.noGroup ((List.suffix_append _ _).isInfix.trans hlead.isInfix)
  · obtain ⟨lead, hp, hlead, -⟩ := (extractAfter?_eq_some_iff _ _).mp hf
    obtain ⟨c, lead, rfl⟩ := List.exists_cons_of_ne_nil hlead
    have hend : p ++ [')'] = (lead ++ "(.*".toList) ++ [')'] := by
      rw [List.append_assoc]
      exact (List.cons.inj hp).2
    exact h.noGroupEnd ⟨lead, (List.append_cancel_right hend).symm⟩
  · obtain ⟨rest, hp, hrest, -⟩ := (extractBefore?_eq_some_iff _ _).mp hf
    exact h.noGroupStart (prefix_of_append_eq_concat (List.cons.inj hp).2 hrest)

/-! ## Decompiling undoes compiling -/

/-- Outside the operation that takes a pattern of its own, the domain is exact. -/
theorem resaved_source_iff {f : ExtractionForm} (h : f.operation ≠ .matching) :
    Resaved f.source ↔ f.Recoverable := by
  obtain ⟨op, b, a, p, v⟩ := f
  cases op with
  | predefined key =>
      refine iff_of_true ?_ trivial
      rw [ExtractionForm.source]
      dsimp only
      cases hkey : PredefinedPattern.ofKey? key with
      | some d => exact source_decomposeExtraction_predefined d (List.mem_of_find?_eq_some hkey)
      | none => exact (by decide : (decomposeExtraction greedyGroup).source = greedyGroup)
  | between =>
      rw [ExtractionForm.source, List.append_assoc]
      exact resaved_between_iff (b.getD "") (a.getD "")
  | betweenAndVerify =>
      rw [ExtractionForm.source, List.append_assoc]
      exact resaved_between_iff (b.getD "") (a.getD "")
  | after => exact resaved_after_iff (b.getD "")
  | before => exact resaved_before_iff (a.getD "")
  | matching => exact absurd rfl h
  | other name =>
      exact iff_of_true (by decide : (decomposeExtraction greedyGroup).source = greedyGroup) trivial

theorem resaved_matching {f : ExtractionForm} (hop : f.operation = .matching) (h : f.Recoverable) :
    Resaved f.source := by
  have hplain : IsPlainFragment (f.pattern.getD "").toList := by
    rwa [ExtractionForm.Recoverable, hop] at h
  rw [source_matching hop]
  split
  · exact (by decide : (decomposeExtraction greedyGroup).source = greedyGroup)
  · next hne =>
      exact source_decomposeExtraction_group (mt String.toList_eq_nil_iff.mp hne) hplain.oneLine
        hplain.extraction?_eq_none

/-- **Decompiling undoes compiling on the domain of extractions**, and only there: a compiled
extraction that is recovered and compiled again is the same text for every recoverable extraction, and
for no other one whose operation does not take a pattern of its own. -/
theorem decomposeExtraction_compile (f : ExtractionForm) :
    (f.Recoverable → (decomposeExtraction f.compile.toList).compile = f.compile)
      ∧ (f.operation ≠ .matching →
          (decomposeExtraction f.compile.toList).compile = f.compile → f.Recoverable) := by
  have hresaved : (decomposeExtraction f.compile.toList).compile = f.compile ↔ Resaved f.source := by
    rw [ExtractionForm.compile, ExtractionForm.compile, String.toList_ofList, String.ofList_inj]
    rfl
  rw [hresaved]
  refine ⟨fun h => ?_, fun hop => (resaved_source_iff hop).mp⟩
  by_cases hop : f.operation = .matching
  · exact resaved_matching hop h
  · exact (resaved_source_iff hop).mpr h

theorem decomposeExtraction_compile_delimiters :
    let f : ExtractionForm := { operation := .between, before := some "(.*?)\\", after := some "(.*)" }
    let g : ExtractionForm := { operation := .between, before := some "(", after := none }
    (decomposeExtraction f.compile.toList).compile = f.compile
      ∧ (decomposeExtraction g.compile.toList).compile ≠ g.compile := by
  intro f g
  exact ⟨(decomposeExtraction_compile f).1 (Or.inr (by decide)),
    fun h => absurd ((decomposeExtraction_compile g).2 (by decide) h) (by
      show ¬ (_ ∨ _)
      decide)⟩

end StatementTagging
