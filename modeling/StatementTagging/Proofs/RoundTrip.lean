import StatementTagging.Proofs.Recognition
import StatementTagging.Proofs.Text.Blank

set_option autoImplicit false

/-! # From tests to patterns and back

A compiled test is recovered from its pattern exactly on a domain (`decomposeMatch_compile`): the value
must show in the shape of the operation, and a text of another operation must not begin with the mark
of a comparison. Whatever is recovered from any text, compiled or not, lies in that domain
(`HasShape.recoverable`), and so saving a test a second time changes nothing (`resave_stable`).
-/

namespace StatementTagging

open Pattern

/-! ## The domain -/

/-- The test can be recovered from its pattern. -/
def MatchForm.Recoverable (f : MatchForm) : Prop :=
  match f.operation with
  | .compare _ => True
  | .beginsWith | .equals => f.value ≠ ""
  | .endsWith => f.value ≠ "" ∧ ¬ Marked f.source
  | .contains => ¬ Marked f.source
  | .doesNotContain | .doesNotEqual | .extractAndCompare => f.value ≠ "" ∧ '\n' ∉ f.value.toList
  | .matchesPattern => 2 ≤ (f.values.getD []).length ∧ ¬ Marked f.source
  | .other _ => False

/-- The test as it is recovered: without what does not matter to its operation, with the threshold of a
comparison stripped, and with texts that are absent as empty ones. -/
def MatchForm.recovered (f : MatchForm) : MatchForm :=
  match f.operation with
  | .compare c =>
    { operation := .compare c, value := String.ofList (Text.strip f.value.toList) }
  | .matchesPattern =>
    { operation := .matchesPattern, value := (f.values.getD []).headD f.value, values := f.values }
  | .extractAndCompare =>
    { operation := .extractAndCompare, value := f.value
      before := some (f.before.getD ""), after := some (f.after.getD "") }
  | op => { operation := op, value := f.value }

theorem source_extractAndCompare (v : String) (ws : Option (List String)) (a b : Option String) :
    MatchForm.source ⟨.extractAndCompare, v, ws, a, b⟩
      = "(?:".toList ++ (escape (a.getD "").toList ++ ')' :: (escape v.toList
          ++ ("(?:".toList ++ escape (b.getD "").toList ++ [')']))) := by
  rw [← groups_around_eq]
  rfl

theorem operation_recovered (f : MatchForm) : f.recovered.operation = f.operation := by
  obtain ⟨op, v, ws, a, b⟩ := f
  cases op with
  | _ => rfl

/-- Compiling what is recovered gives the pattern back. -/
theorem source_recovered (f : MatchForm) : f.recovered.source = f.source := by
  obtain ⟨op, v, ws, a, b⟩ := f
  cases op with
  | compare c =>
      show c.mark ++ Text.strip (String.ofList (Text.strip v.toList)).toList = _
      rw [String.toList_ofList, Text.strip_strip]
      rfl
  | matchesPattern =>
      match ws with
      | some (_ :: _) => rfl
      | some [] => rfl
      | none => rfl
  | _ => rfl

/-! ## Texts of parts -/

theorem plainText_escape (s : String) : plainText (escape s.toList) = s := by
  rw [plainText, unescape_escape, String.ofList_toList]

theorem plainText_ne_empty {v : List Char} (h : v ≠ []) : plainText v ≠ "" := by
  rw [plainText, Ne, String.ofList_eq_empty_iff, unescape_eq_nil_iff]
  exact h

theorem escape_toList_ne_nil_iff (s : String) : escape s.toList ≠ [] ↔ s ≠ "" := by
  rw [Ne, escape_eq_nil_iff, String.toList_eq_nil_iff]

theorem break_not_mem_escape_iff (s : String) : '\n' ∉ escape s.toList ↔ '\n' ∉ s.toList :=
  not_congr (mem_escape_iff (by decide) _)

theorem break_not_mem_plainText {v : List Char} (h : '\n' ∉ v) : '\n' ∉ (plainText v).toList := by
  rw [plainText, String.toList_ofList]
  exact fun hm => h (mem_of_mem_unescape v hm)

/-- Compiling a part again brings in no mark and takes none away. -/
theorem marked_escape_plainText_iff (v : List Char) :
    Marked (escape (plainText v).toList) ↔ Marked v := by
  rw [marked_escape_iff, plainText, String.toList_ofList, marked_unescape_iff]

/-! ## Recovering compiled tests -/

theorem decomposeMatch_of_special {p : List Char} {f : MatchForm} (h : specialTest? p = some f) :
    decomposeMatch p = f := by
  rw [decomposeMatch, h, Option.getD_some]

theorem decomposeMatch_comparison (c : Comparison) (t : List Char) :
    decomposeMatch (c.mark ++ t) = { operation := .compare c, value := String.ofList t } := by
  refine decomposeMatch_of_special ?_
  rw [specialTest?, comparison?_mark_append]
  rfl

theorem decomposeMatch_extractAndCompare (a v b : String) (hne : v ≠ "") (hline : '\n' ∉ v.toList) :
    decomposeMatch ("(?:".toList ++ (escape a.toList ++ ')' :: (escape v.toList
        ++ ("(?:".toList ++ escape b.toList ++ [')']))))
      = { operation := .extractAndCompare, value := v, before := some a, after := some b } := by
  refine decomposeMatch_of_special ?_
  have hgroups := twoGroups?_escaped a.toList v.toList b.toList
  rw [if_pos ⟨mt String.toList_eq_nil_iff.mp hne, hline⟩] at hgroups
  have hcomparison : comparison? ("(?:".toList ++ (escape a.toList ++ ')' :: (escape v.toList
      ++ ("(?:".toList ++ escape b.toList ++ [')'])))) = none := comparison?_cons (by decide) _
  have hfound := (extractAndCompare?_eq_some_iff _ _).mpr ⟨_, _, _, _, rfl, hgroups, rfl⟩
  simp only [plainText_escape] at hfound
  rw [specialTest?, hcomparison, hfound]
  rfl

theorem decomposeMatch_doesNotContain (v : String) (hne : v ≠ "") (hline : '\n' ∉ v.toList) :
    decomposeMatch ("^(?!.*".toList ++ (escape v.toList ++ [')']))
      = { operation := .doesNotContain, value := v } := by
  refine decomposeMatch_of_special ?_
  have hfound := (doesNotContain?_eq_some_iff _ _).mpr
    ⟨_, rfl, (escape_toList_ne_nil_iff v).mpr hne, (break_not_mem_escape_iff v).mpr hline, rfl⟩
  have hcomparison : comparison? ("^(?!.*".toList ++ (escape v.toList ++ [')'])) = none :=
    comparison?_cons (by decide) _
  have hgroup : dropLead? "(?:".toList ("^(?!.*".toList ++ (escape v.toList ++ [')'])) = none :=
    dropLead?_eq_none (by simp)
  rw [specialTest?, hcomparison, extractAndCompare?, hgroup, hfound, plainText_escape]
  rfl

theorem decomposeMatch_doesNotEqual (v : String) (hne : v ≠ "") (hline : '\n' ∉ v.toList) :
    decomposeMatch ("^(?!".toList ++ (escape v.toList ++ ['$', ')']))
      = { operation := .doesNotEqual, value := v } := by
  refine decomposeMatch_of_special ?_
  have hfound := (doesNotEqual?_eq_some_iff _ _).mpr
    ⟨_, rfl, (escape_toList_ne_nil_iff v).mpr hne, (break_not_mem_escape_iff v).mpr hline,
      escapesNext_escape _, rfl⟩
  have hcomparison : comparison? ("^(?!".toList ++ (escape v.toList ++ ['$', ')'])) = none :=
    comparison?_cons (by decide) _
  have hgroup : dropLead? "(?:".toList ("^(?!".toList ++ (escape v.toList ++ ['$', ')'])) = none :=
    dropLead?_eq_none (by simp)
  -- an escaped value does not begin with the dot of the other shape
  have hdot : ¬ ['.'] <+: escape v.toList ++ ['$', ')'] :=
    not_prefix_escape_append (by decide) (by decide) _ (by decide)
  have hcontain : dropLead? "^(?!.*".toList ("^(?!".toList ++ (escape v.toList ++ ['$', ')']))
      = none := by
    refine dropLead?_eq_none fun h => hdot ?_
    have hrest : ['.', '*'] <+: escape v.toList ++ ['$', ')'] :=
      (List.prefix_append_right_inj "^(?!".toList).mp h
    exact List.IsPrefix.trans (by decide) hrest
  rw [specialTest?, hcomparison, extractAndCompare?, hgroup, doesNotContain?, hcontain, hfound,
    plainText_escape]
  rfl

theorem decomposeMatch_equals (v : String) (hne : v ≠ "") :
    decomposeMatch ('^' :: (escape v.toList ++ ['$'])) = { operation := .equals, value := v } := by
  have hopen : ¬ ['('] <+: escape v.toList ++ ['$'] :=
    not_prefix_escape_append (by decide) (by decide) _ (by decide)
  have hfound := (equals?_eq_some_iff _ _).mpr
    ⟨_, rfl, (escape_toList_ne_nil_iff v).mpr hne, escapesNext_escape _, rfl⟩
  rw [decomposeMatch_of_anchored hopen, generalTest, hfound, plainText_escape]
  rfl

theorem decomposeMatch_beginsWith (v : String) (hne : v ≠ "") :
    decomposeMatch ('^' :: escape v.toList) = { operation := .beginsWith, value := v } := by
  have hopen : ¬ ['('] <+: escape v.toList ++ [] :=
    not_prefix_escape_append (by decide) (by decide) _ (by decide)
  rw [List.append_nil] at hopen
  have hlead : dropLead? ['^'] ('^' :: escape v.toList) = some (escape v.toList) :=
    (dropLead?_eq_some_iff _ _ _).mpr rfl
  have hequals : equals? ('^' :: escape v.toList) = none := by
    rw [equals?, hlead, Option.bind_some, beforeAnchor?_escape]
    rfl
  have hfound := (beginsWith?_eq_some_iff _ _).mpr
    ⟨_, rfl, (escape_toList_ne_nil_iff v).mpr hne, rfl⟩
  rw [decomposeMatch_of_anchored hopen, generalTest, hequals, hfound, plainText_escape]
  rfl

theorem decomposeMatch_endsWith (v : String) (hne : v ≠ "")
    (hmark : ¬ Marked (escape v.toList ++ ['$'])) :
    decomposeMatch (escape v.toList ++ ['$']) = { operation := .endsWith, value := v } := by
  have hopen : ¬ ['('] <+: escape v.toList ++ ['$'] :=
    not_prefix_escape_append (by decide) (by decide) _ (by decide)
  have hcaret : ¬ ['^'] <+: escape v.toList ++ ['$'] :=
    not_prefix_escape_append (by decide) (by decide) _ (by decide)
  have hfound := (endsWith?_eq_some_iff _ _).mpr
    ⟨_, rfl, (escape_toList_ne_nil_iff v).mpr hne, escapesNext_escape _, rfl⟩
  rw [decomposeMatch_of_unanchored hmark hopen hcaret, hfound, plainText_escape]
  rfl

/-- Escaped texts between bars have none of the shapes before that of alternatives. -/
theorem decomposeMatch_intercalate (v : List Char) (vs : List (List Char))
    (hmark : ¬ Marked (List.intercalate ['|'] ((v :: vs).map escape))) :
    decomposeMatch (List.intercalate ['|'] ((v :: vs).map escape))
      = (matchesPattern? (List.intercalate ['|'] ((v :: vs).map escape))).getD
          (containsForm (List.intercalate ['|'] ((v :: vs).map escape))) := by
  have hopen := not_prefix_intercalate (d := '(') (by decide) (by decide) (by decide) v vs
  have hcaret := not_prefix_intercalate (d := '^') (by decide) (by decide) (by decide) v vs
  have hend : endsWith? (List.intercalate ['|'] ((v :: vs).map escape)) = none := by
    rw [endsWith?, beforeAnchor?_intercalate]
    rfl
  rw [decomposeMatch_of_unanchored hmark hopen hcaret, hend, Option.none_or]

theorem decomposeMatch_matchesPattern (v w : String) (vs : List String)
    (hmark : ¬ Marked (List.intercalate ['|'] ((v :: w :: vs).map fun u => escape u.toList))) :
    decomposeMatch (List.intercalate ['|'] ((v :: w :: vs).map fun u => escape u.toList))
      = { operation := .matchesPattern, value := v, values := some (v :: w :: vs) } := by
  have hmap : (v :: w :: vs).map (fun u => escape u.toList)
      = (v.toList :: w.toList :: vs.map String.toList).map escape := by
    simp
  have hplain : ((v :: w :: vs).map fun u => escape u.toList).map plainText = v :: w :: vs := by
    rw [List.map_map]
    exact List.map_id'' plainText_escape _
  rw [hmap] at hmark hplain ⊢
  have hfound := (matchesPattern?_eq_some_iff _ _).mpr
    ⟨_, _, _, alternatives_intercalate v.toList (w.toList :: vs.map String.toList), rfl⟩
  rw [decomposeMatch_intercalate _ _ hmark, hfound, Option.getD_some, plainText_escape]
  exact congrArg (fun us => (⟨.matchesPattern, v, some us, none, none⟩ : MatchForm)) hplain

theorem decomposeMatch_contains (v : String) (hmark : ¬ Marked (escape v.toList)) :
    decomposeMatch (escape v.toList) = { operation := .contains, value := v } := by
  have hone : List.intercalate ['|'] ([v.toList].map escape) = escape v.toList :=
    List.intercalate_singleton
  have hdecompose := decomposeMatch_intercalate v.toList []
  rw [hone] at hdecompose
  rw [hdecompose hmark, matchesPattern?, alternatives_escape]
  show containsForm (escape v.toList) = _
  rw [containsForm, plainText_escape]

/-- What the shapes give back is the test as it is recovered. -/
theorem decomposeMatch_source {f : MatchForm} (h : f.Recoverable) :
    decomposeMatch f.source = f.recovered := by
  obtain ⟨op, v, ws, a, b⟩ := f
  cases op with
  | compare c => exact decomposeMatch_comparison c _
  | beginsWith => exact decomposeMatch_beginsWith v h
  | equals => exact decomposeMatch_equals v h
  | endsWith => exact decomposeMatch_endsWith v h.1 h.2
  | contains => exact decomposeMatch_contains v h
  | doesNotContain =>
      have hfound := decomposeMatch_doesNotContain v h.1 h.2
      rw [← List.append_assoc] at hfound
      exact hfound
  | doesNotEqual =>
      have hfound := decomposeMatch_doesNotEqual v h.1 h.2
      rw [← List.append_assoc] at hfound
      exact hfound
  | extractAndCompare =>
      rw [source_extractAndCompare]
      exact decomposeMatch_extractAndCompare (a.getD "") v (b.getD "") h.1 h.2
  | matchesPattern =>
      obtain ⟨hlength, hmark⟩ := h
      match ws with
      | some (w :: u :: r) => exact decomposeMatch_matchesPattern w u r hmark
      | some [_] => exact absurd hlength (by simp)
      | some [] => exact absurd hlength (by simp)
      | none => exact absurd hlength (by simp)
  | other name => exact h.elim

/-- A test is recovered with its own operation only if its texts are in the domain. -/
theorem recoverable_of_hasShape {f g : MatchForm} (h : HasShape f.source g)
    (hop : g.operation = f.operation) : f.Recoverable := by
  obtain ⟨op, v, ws, a, b⟩ := f
  generalize hp : MatchForm.source ⟨op, v, ws, a, b⟩ = p at h
  cases h with
  | comparison c t =>
      obtain rfl : MatchOperation.compare c = op := hop
      trivial
  | extractAndCompare hgroups =>
      obtain rfl : MatchOperation.extractAndCompare = op := hop
      rw [source_extractAndCompare] at hp
      rw [← List.append_cancel_left hp, twoGroups?_escaped] at hgroups
      split at hgroups
      · next hv => exact ⟨mt String.toList_eq_nil_iff.mpr hv.1, hv.2⟩
      · exact absurd hgroups (by simp)
  | @doesNotContain u hne hline =>
      obtain rfl : MatchOperation.doesNotContain = op := hop
      have hv : "^(?!.*".toList ++ (escape v.toList ++ [')']) = "^(?!.*".toList ++ (u ++ [')']) :=
        (List.append_assoc _ _ _).symm.trans hp
      obtain rfl := List.append_cancel_right (List.append_cancel_left hv)
      exact ⟨(escape_toList_ne_nil_iff v).mp hne, (break_not_mem_escape_iff v).mp hline⟩
  | @doesNotEqual u hne hline =>
      obtain rfl : MatchOperation.doesNotEqual = op := hop
      have hv : "^(?!".toList ++ (escape v.toList ++ ['$', ')'])
          = "^(?!".toList ++ (u ++ ['$', ')']) := (List.append_assoc _ _ _).symm.trans hp
      obtain rfl := List.append_cancel_right (List.append_cancel_left hv)
      exact ⟨(escape_toList_ne_nil_iff v).mp hne, (break_not_mem_escape_iff v).mp hline⟩
  | @equals u hne =>
      obtain rfl : MatchOperation.equals = op := hop
      obtain rfl : escape v.toList = u := List.append_cancel_right (List.cons.inj hp).2
      exact (escape_toList_ne_nil_iff v).mp hne
  | @beginsWith u hne =>
      obtain rfl : MatchOperation.beginsWith = op := hop
      obtain rfl : escape v.toList = u := (List.cons.inj hp).2
      exact (escape_toList_ne_nil_iff v).mp hne
  | @endsWith u hne hmark =>
      obtain rfl : MatchOperation.endsWith = op := hop
      obtain rfl : escape v.toList = u := List.append_cancel_right hp
      exact ⟨(escape_toList_ne_nil_iff v).mp hne, hmark⟩
  | matchesPattern hparts hmark =>
      obtain rfl : MatchOperation.matchesPattern = op := hop
      subst hp
      refine ⟨?_, hmark⟩
      -- a single escaped text has no alternatives
      have hone : ∀ s : String, MatchForm.source ⟨.matchesPattern, v, ws, a, b⟩ ≠ escape s.toList := by
        intro s hs
        rw [hs, alternatives_escape] at hparts
        exact absurd hparts (by simp)
      match ws with
      | some (_ :: _ :: _) => simp
      | some [w] => exact absurd List.intercalate_singleton (hone w)
      | some [] => exact absurd List.intercalate_singleton (hone v)
      | none => exact absurd List.intercalate_singleton (hone v)
  | contains hmark =>
      obtain rfl : MatchOperation.contains = op := hop
      rw [← hp] at hmark
      exact hmark

theorem toList_compile (f : MatchForm) : f.compile.toList = f.source := by
  rw [MatchForm.compile, String.toList_ofList]

/-- **Decompiling undoes compiling exactly on the domain.** A compiled test is recovered with its own
operation if and only if it is recoverable, and then with all its texts, and compiling it again
gives the same pattern. -/
theorem decomposeMatch_compile (f : MatchForm) :
    ((decomposeMatch f.compile.toList).operation = f.operation ↔ f.Recoverable)
      ∧ ((decomposeMatch f.compile.toList).operation = f.operation →
          decomposeMatch f.compile.toList = f.recovered
            ∧ (decomposeMatch f.compile.toList).compile = f.compile) := by
  rw [toList_compile]
  have honly : (decomposeMatch f.source).operation = f.operation → f.Recoverable :=
    recoverable_of_hasShape (hasShape_decomposeMatch f.source)
  refine ⟨⟨honly, fun h => ?_⟩, fun hop => ?_⟩
  · rw [decomposeMatch_source h]
    exact operation_recovered f
  · have hsource := decomposeMatch_source (honly hop)
    refine ⟨hsource, ?_⟩
    rw [hsource, MatchForm.compile, source_recovered]
    rfl

theorem decomposeMatch_compile_delimiters :
    let f : MatchForm :=
      { operation := .extractAndCompare, value := ")(?:|$", before := some "\\)", after := none }
    (decomposeMatch f.compile.toList).operation = f.operation
      ∧ decomposeMatch f.compile.toList
          = { operation := .extractAndCompare, value := ")(?:|$", before := some "\\)", after := some "" }
      ∧ (decomposeMatch f.compile.toList).compile = f.compile := by
  intro f
  have hop : (decomposeMatch f.compile.toList).operation = f.operation :=
    (decomposeMatch_compile f).1.mpr ⟨by decide, by decide⟩
  exact ⟨hop, (decomposeMatch_compile f).2 hop⟩

/-! ## Saving again -/

/-- The threshold of a comparison without the blanks at its ends. -/
def MatchForm.trimThreshold (f : MatchForm) : MatchForm :=
  match f.operation with
  | .compare _ => { f with value := String.ofList (Text.strip f.value.toList) }
  | _ => f

/-- **Whatever is recovered can be recovered again.** -/
theorem HasShape.recoverable {p : List Char} {f : MatchForm} (h : HasShape p f) :
    f.Recoverable := by
  cases h with
  | comparison c t => trivial
  | extractAndCompare hgroups =>
      obtain ⟨hne, hline⟩ := twoGroups?_line hgroups
      exact ⟨plainText_ne_empty hne, break_not_mem_plainText hline⟩
  | doesNotContain hne hline =>
      exact ⟨plainText_ne_empty hne, break_not_mem_plainText hline⟩
  | doesNotEqual hne hline =>
      exact ⟨plainText_ne_empty hne, break_not_mem_plainText hline⟩
  | equals hne => exact plainText_ne_empty hne
  | beginsWith hne => exact plainText_ne_empty hne
  | @endsWith v hne hmark =>
      refine ⟨plainText_ne_empty hne, fun h => hmark ?_⟩
      rw [marked_append_iff (by decide)]
      exact (marked_escape_plainText_iff v).mp ((marked_append_iff (by decide) _ _).mp h)
  | @matchesPattern p v w r hparts hmark =>
      refine ⟨by simp, fun h => hmark ?_⟩
      obtain ⟨rest, rfl⟩ := alternatives_eq_cons_cons hparts
      rw [marked_append_iff (by decide)]
      have hsource : MatchForm.source
            { operation := .matchesPattern, value := plainText v
              values := some ((v :: w :: r).map plainText) }
          = escape (plainText v).toList ++ '|' :: List.intercalate ['|']
              (((w :: r).map plainText).map fun u => escape u.toList) := by
        show List.intercalate ['|'] (((v :: w :: r).map plainText).map fun u => escape u.toList) = _
        simp only [List.map_cons, List.intercalate_cons_cons, List.append_assoc,
          List.singleton_append]
      rw [hsource, marked_append_iff (by decide)] at h
      exact (marked_escape_plainText_iff v).mp h
  | @contains p hmark => exact fun h => hmark ((marked_escape_plainText_iff p).mp h)

/-- Nothing is lost but the blanks around a threshold. -/
theorem HasShape.recovered {p : List Char} {f : MatchForm} (h : HasShape p f) :
    f.recovered = f.trimThreshold := by
  cases h with
  | _ => rfl

/-- The pattern that an editor stores when it shows a pattern and saves what it shows. -/
def resave (p : String) : String := (decomposeMatch p.toList).compile

/-- **Saving again changes nothing.** Whatever the text is, saving it twice stores what saving it once
stores, and the editor shows the same test as before, up to the blanks around a threshold. -/
theorem resave_stable (p : String) :
    resave (resave p) = resave p
      ∧ decomposeMatch (resave p).toList = (decomposeMatch p.toList).trimThreshold := by
  have hshape := hasShape_decomposeMatch p.toList
  have hsource : decomposeMatch (resave p).toList = (decomposeMatch p.toList).recovered := by
    rw [resave, toList_compile]
    exact decomposeMatch_source hshape.recoverable
  refine ⟨?_, hsource.trans hshape.recovered⟩
  calc resave (resave p)
      = (decomposeMatch p.toList).recovered.compile := by rw [resave, hsource]
    _ = resave p := by rw [MatchForm.compile, source_recovered]; rfl

end StatementTagging
