import Mathlib.Algebra.Group.Int.Defs
import StatementTagging.Proofs.Outcome
import StatementTagging.Proofs.Rule.TagTable

set_option autoImplicit false

/-! # When tests and extractions give a result

A test is *sound* on a row if running it there gives a result. It does not in two cases only: the reader of
patterns fails on its text instead of finding it malformed, or an integer beyond the range of floating-point
numbers is to be compared. A malformed pattern and a text without a number are no such case; they count
as a failed test.

This is said of rows and patterns that can be evaluated at all (`Evaluable`). Left out are integers that are too
long to be written, and patterns with a group inside a possessive repetition: of a round that fails there, an
engine may keep the start of the group but not its end. How deeply a pattern is nested plays no part, since
neither reading nor searching has a stack that could run out.

A rule set gives a result exactly if the tests that it comes to are sound, and the extraction of
attributes exactly if each of them is (`evaluation_isOk_iff`). What one test or attribute gives does
not depend on the others.
-/

namespace StatementTagging

/-! ## Groups in possessive repetitions -/

namespace Pattern

/-- A group stands in the node. -/
def Node.hasGroup : Node → Bool
  | capture _ _ => true
  | seq a b | alt a b | ifGroup _ a b => a.hasGroup || b.hasGroup
  | atomic b | ahead _ b | behind _ _ b | rounds _ _ _ b => b.hasGroup
  | _ => false

/-- No group stands in a possessive repetition. -/
def Node.steady : Node → Bool
  | rounds _ _ .possessive b => !b.hasGroup
  | seq a b | alt a b | ifGroup _ a b => a.steady && b.steady
  | capture _ b | atomic b | ahead _ b | behind _ _ b | rounds _ _ _ b => b.steady
  | _ => true

end Pattern

/-- If the text is a pattern, no group stands in a possessive repetition. -/
def Steady (source : List Char) : Prop := ∀ p ∈ (Pattern.read source).toOption, p.root.steady = true

instance (source : List Char) : Decidable (Steady source) :=
  inferInstanceAs (Decidable (∀ p ∈ (Pattern.read source).toOption, p.root.steady = true))

example : ¬ Steady "((x)|y|z)*+".toList := by decide +kernel

/-! ## Criteria -/

/-- Compiling the text of a pattern fails instead of finding it malformed: the text repeats something too often,
writes a number of too many digits, gives a code that is too large or asks for two character sets. -/
def FailsToCompile (source : List Char) : Prop :=
  ∃ f, Pattern.read source = .error f ∧ f ≠ .malformed

/-- The criterion can be run on the value. -/
def Criterion.Sound (c : Criterion) (value : Datum) : Prop :=
  match c with
  | .pattern source => ¬ FailsToCompile source
  | .comparison _ _ => ¬ value.TooLarge

/-- The criterion has a malformed pattern, or one side of its comparison is no number. -/
def Criterion.Unusable (c : Criterion) (value : Datum) : Prop :=
  match c with
  | .pattern source => Pattern.read source = .error .malformed
  | .comparison _ threshold => numberIn? threshold = none ∨ value.number? = .ok none

theorem compilePattern_isOk_iff (source : List Char) :
    (∃ p, compilePattern source = .ok p) ↔ ¬ FailsToCompile source := by
  rw [compilePattern, FailsToCompile]
  cases Pattern.read source with
  | ok p => simp
  | error f =>
      cases f with
      | malformed => simp
      | repetitionTooLarge => simp
      | flagConflict => simp
      | codeTooLarge => simp
      | tooManyDigits count => simp

theorem number?_isOk_iff (value : Datum) :
    (∃ x, value.number? = .ok x) ↔ ¬ value.TooLarge := by
  rw [Datum.TooLarge]
  cases value with
  | int n =>
      rw [Datum.number?]
      cases hn : floatOfInt? n with
      | some x => simp [hn]
      | none => simp [hn]
  | _ => simp [Datum.number?]

theorem criterion_isOk_iff (c : Criterion) (value : Datum) :
    (∃ b, c.accepts value = .ok b) ↔ c.Sound value := by
  cases c with
  | pattern source =>
      rw [Criterion.Sound, ← compilePattern_isOk_iff, Criterion.accepts]
      cases compilePattern source with
      | error f => exact iff_of_false not_isOk_error not_isOk_error
      | ok p =>
          refine iff_of_true ?_ ⟨p, rfl⟩
          cases p with
          | none => exact ⟨false, rfl⟩
          | some p => exact ⟨_, rfl⟩
  | comparison c threshold =>
      rw [Criterion.Sound, ← number?_isOk_iff, Criterion.accepts]
      cases value.number? with
      | error f => exact iff_of_false not_isOk_error not_isOk_error
      | ok x =>
          refine iff_of_true ?_ ⟨x, rfl⟩
          cases numberIn? threshold with
          | none => exact ⟨false, rfl⟩
          | some limit =>
              cases x with
              | none => exact ⟨false, rfl⟩
              | some number => exact ⟨_, rfl⟩

/-- What cannot be used accepts nothing. -/
theorem accepts_of_unusable {c : Criterion} {value : Datum} {b : Bool} (h : c.Unusable value)
    (hb : c.accepts value = .ok b) : b = false := by
  cases c with
  | pattern source =>
      have hread : Pattern.read source = .error .malformed := h
      rw [Criterion.accepts, compilePattern, hread] at hb
      exact (Except.ok.inj hb).symm
  | comparison c threshold =>
      rw [Criterion.accepts] at hb
      cases hnumber : value.number? with
      | error f =>
          rw [hnumber] at hb
          cases hb
      | ok x =>
          rw [hnumber] at hb
          rcases h with hlimit | hvalue
          · rw [hlimit] at hb
            exact (Except.ok.inj hb).symm
          · obtain rfl : x = none := Except.ok.inj (hnumber.symm.trans hvalue)
            cases hlimit : numberIn? threshold with
            | none =>
                rw [hlimit] at hb
                exact (Except.ok.inj hb).symm
            | some limit =>
                rw [hlimit] at hb
                exact (Except.ok.inj hb).symm

/-! ## Tests -/

/-- The field and the pattern are texts. -/
structure Expression.Textual (e : Expression) : Prop where
  field : e.field.IsText
  pattern : e.pattern.IsText

/-- If the pattern is one, no group stands in a possessive repetition. -/
def Expression.Steady (e : Expression) : Prop :=
  ∀ source, e.pattern = .text source → StatementTagging.Steady source.toList

/-- The test can be run on the row: the row has no value in the field, or the criterion can be run on
it. -/
def Expression.Sound (e : Expression) (row : Row) : Prop :=
  ∀ field source, e.field = .text field → e.pattern = .text source →
    (Datum.valueAt row field).isNull = false →
    (Criterion.ofSource source.toList).Sound (Datum.valueAt row field)

/-- The pattern of the test is malformed, or one side of its comparison is no number. -/
def Expression.Unusable (e : Expression) (row : Row) : Prop :=
  ∃ field source, e.field = .text field ∧ e.pattern = .text source
    ∧ (Criterion.ofSource source.toList).Unusable (Datum.valueAt row field)

theorem accepts_text (field source : String) (row : Row) {e : Expression} (hfield : e.field = .text field)
    (hpattern : e.pattern = .text source) :
    e.accepts row = if (Datum.valueAt row field).isNull then .ok false
      else (Criterion.ofSource source.toList).accepts (Datum.valueAt row field) := by
  rw [Expression.accepts, hfield, Expression.patternText, hpattern]
  rfl

theorem expression_isOk_iff {e : Expression} (h : e.Textual) (row : Row) :
    (∃ b, e.accepts row = .ok b) ↔ e.Sound row := by
  obtain ⟨field, hfield⟩ := h.field
  obtain ⟨source, hpattern⟩ := h.pattern
  have hsound : e.Sound row ↔ ((Datum.valueAt row field).isNull = false →
      (Criterion.ofSource source.toList).Sound (Datum.valueAt row field)) := by
    refine ⟨fun hs => hs field source hfield hpattern, ?_⟩
    intro hs field' source' hfield' hpattern'
    obtain rfl := Datum.text.inj (hfield.symm.trans hfield')
    obtain rfl := Datum.text.inj (hpattern.symm.trans hpattern')
    exact hs
  rw [hsound, accepts_text field source row hfield hpattern]
  cases (Datum.valueAt row field).isNull with
  | true => exact iff_of_true ⟨false, rfl⟩ fun hnull => nomatch hnull
  | false => exact (criterion_isOk_iff _ _).trans ⟨fun hs _ => hs, fun hs => hs rfl⟩

theorem expression_of_unusable {e : Expression} {row : Row} {b : Bool} (h : e.Unusable row)
    (hb : e.accepts row = .ok b) : b = false := by
  obtain ⟨field, source, hfield, hpattern, hunusable⟩ := h
  rw [accepts_text field source row hfield hpattern] at hb
  split at hb
  · exact (Except.ok.inj hb).symm
  · exact accepts_of_unusable hunusable hb

/-! ## Rule sets -/

/-- In a group, the test comes after tests that the row passes. -/
def ComesTo (group : List Expression) (row : Row) (e : Expression) : Prop :=
  ∃ before after, group = before ++ e :: after ∧ ∀ x ∈ before, x.accepts row = .ok true

/-- The rule set comes to a test: no group before its own accepts the row, and its own group comes to
it. -/
def RuleSet.ComesTo (rules : RuleSet) (row : Row) (e : Expression) : Prop :=
  ∃ before group after, rules = before ++ group :: after
    ∧ (∀ g ∈ before, groupAccepts g row = .ok false) ∧ StatementTagging.ComesTo group row e

theorem comesTo_cons {group : List Expression} {row : Row} {e x : Expression} :
    ComesTo (e :: group) row x ↔ x = e ∨ e.accepts row = .ok true ∧ ComesTo group row x := by
  constructor
  · rintro ⟨before, after, heq, hbefore⟩
    cases before with
    | nil => exact Or.inl (List.cons.inj heq).1.symm
    | cons y before =>
        obtain ⟨rfl, hrest⟩ := List.cons.inj heq
        obtain ⟨hy, hbefore⟩ := List.forall_mem_cons.mp hbefore
        exact Or.inr ⟨hy, before, after, hrest, hbefore⟩
  · rintro (rfl | ⟨he, before, after, rfl, hbefore⟩)
    · exact ⟨[], group, rfl, fun _ h => absurd h List.not_mem_nil⟩
    · exact ⟨e :: before, after, rfl, List.forall_mem_cons.mpr ⟨he, hbefore⟩⟩

theorem ruleSet_comesTo_cons {group : List Expression} {rules : RuleSet} {row : Row} {x : Expression} :
    RuleSet.ComesTo (group :: rules) row x ↔
      ComesTo group row x ∨ groupAccepts group row = .ok false ∧ RuleSet.ComesTo rules row x := by
  constructor
  · rintro ⟨before, own, after, heq, hbefore, hown⟩
    cases before with
    | nil => exact Or.inl ((List.cons.inj heq).1 ▸ hown)
    | cons g before =>
        obtain ⟨rfl, hrest⟩ := List.cons.inj heq
        obtain ⟨hg, hbefore⟩ := List.forall_mem_cons.mp hbefore
        exact Or.inr ⟨hg, before, own, after, hrest, hbefore, hown⟩
  · rintro (hown | ⟨hg, before, own, after, rfl, hbefore, hown⟩)
    · exact ⟨[], group, rules, rfl, fun _ h => absurd h List.not_mem_nil, hown⟩
    · exact ⟨group :: before, own, after, rfl, List.forall_mem_cons.mpr ⟨hg, hbefore⟩, hown⟩

/-- A group gives a result exactly if the tests that it comes to do. -/
theorem groupAccepts_isOk_iff (group : List Expression) (row : Row) :
    (∃ b, groupAccepts group row = .ok b)
      ↔ ∀ e, ComesTo group row e → ∃ b, e.accepts row = .ok b := by
  induction group with
  | nil =>
      refine iff_of_true ⟨true, rfl⟩ ?_
      rintro e ⟨before, after, heq, -⟩
      exact absurd heq (by simp)
  | cons e r ih =>
      simp only [comesTo_cons, forall_eq_or_imp]
      rw [groupAccepts]
      cases he : e.accepts row with
      | error f => exact iff_of_false not_isOk_error fun h => not_isOk_error h.1
      | ok passed =>
          cases passed with
          | false => exact iff_of_true ⟨false, rfl⟩ ⟨⟨false, rfl⟩, fun x h => nomatch h.1⟩
          | true => exact ih.trans ⟨fun h => ⟨⟨true, rfl⟩, fun x hx => h x hx.2⟩,
              fun h x hx => h.2 x ⟨rfl, hx⟩⟩

theorem someGroupAccepts_isOk_iff (rules : RuleSet) (row : Row) :
    (∃ b, someGroupAccepts rules row = .ok b)
      ↔ ∀ e, RuleSet.ComesTo rules row e → ∃ b, e.accepts row = .ok b := by
  induction rules with
  | nil =>
      refine iff_of_true ⟨false, rfl⟩ ?_
      rintro e ⟨before, group, after, heq, -⟩
      exact absurd heq (by simp)
  | cons group r ih =>
      have hgroup := groupAccepts_isOk_iff group row
      simp only [ruleSet_comesTo_cons, or_imp, forall_and]
      rw [someGroupAccepts, ← hgroup]
      cases hg : groupAccepts group row with
      | error f => exact iff_of_false not_isOk_error fun h => not_isOk_error h.1
      | ok accepted =>
          cases accepted with
          | true => exact iff_of_true ⟨true, rfl⟩ ⟨⟨true, rfl⟩, fun x h => nomatch h.1⟩
          | false => exact ih.trans ⟨fun h => ⟨⟨false, rfl⟩, fun x hx => h x hx.2⟩,
              fun h x hx => h.2 x ⟨rfl, hx⟩⟩

theorem groupAccepts_eq_true_iff (group : List Expression) (row : Row) :
    groupAccepts group row = .ok true ↔ ∀ e ∈ group, e.accepts row = .ok true := by
  induction group with
  | nil => exact iff_of_true rfl fun _ he => absurd he List.not_mem_nil
  | cons e r ih =>
      rw [List.forall_mem_cons, groupAccepts]
      cases he : e.accepts row with
      | error f => exact ⟨fun h => (nomatch h), fun h => (nomatch h.1)⟩
      | ok passed =>
          cases passed with
          | false => exact ⟨fun h => (nomatch h), fun h => (nomatch h.1)⟩
          | true => exact ih.trans ⟨fun h => ⟨rfl, h⟩, fun h => h.2⟩

theorem someGroupAccepts_result {rules : RuleSet} {row : Row} {b : Bool}
    (h : someGroupAccepts rules row = .ok b) :
    b = true ↔ ∃ group ∈ rules, ∀ e ∈ group, e.accepts row = .ok true := by
  induction rules with
  | nil =>
      obtain rfl := Except.ok.inj h
      simp
  | cons group r ih =>
      rw [List.exists_mem_cons_iff, ← groupAccepts_eq_true_iff]
      rw [someGroupAccepts] at h
      cases hg : groupAccepts group row with
      | error f =>
          rw [hg] at h
          cases h
      | ok accepted =>
          rw [hg] at h
          cases accepted with
          | true =>
              obtain rfl := Except.ok.inj h
              exact iff_of_true rfl (Or.inl rfl)
          | false => exact (ih h).trans ⟨Or.inr, fun hr => hr.resolve_left fun heq => nomatch heq⟩

theorem ruleSet_result {rules : RuleSet} {row : Row} {b : Bool} (h : RuleSet.accepts rules row = .ok b) :
    b = true ↔ rules = [] ∨ ∃ group ∈ rules, ∀ e ∈ group, e.accepts row = .ok true := by
  cases rules with
  | nil =>
      obtain rfl := Except.ok.inj h
      exact iff_of_true rfl (Or.inl rfl)
  | cons group r =>
      have hrun : someGroupAccepts (group :: r) row = .ok b := h
      rw [someGroupAccepts_result hrun]
      exact ⟨Or.inr, fun hr => hr.resolve_left (List.cons_ne_nil _ _)⟩

theorem ruleSet_isOk_iff {rules : RuleSet} (h : ∀ group ∈ rules, ∀ e ∈ group, e.Textual) (row : Row) :
    (∃ b, RuleSet.accepts rules row = .ok b) ↔ ∀ e, rules.ComesTo row e → e.Sound row := by
  have hsome : (∃ b, RuleSet.accepts rules row = .ok b) ↔ ∃ b, someGroupAccepts rules row = .ok b := by
    cases rules with
    | nil => exact iff_of_true ⟨true, rfl⟩ ⟨false, rfl⟩
    | cons group r => exact Iff.rfl
  rw [hsome, someGroupAccepts_isOk_iff]
  refine forall₂_congr fun e he => expression_isOk_iff ?_ row
  obtain ⟨before, group, after, rfl, -, l, r, rfl, -⟩ := he
  exact h (l ++ e :: r) (List.mem_append_right _ List.mem_cons_self) e
    (List.mem_append_right _ List.mem_cons_self)

/-! ## Attributes -/

/-- The tag, the field and the pattern are texts. -/
structure Attribute.Textual (a : Attribute) : Prop where
  tag : a.tag.IsText
  expression : a.expression.Textual

/-- The attribute can be looked for in the row: the value of the field is not present, or the pattern can
be compiled. -/
def Attribute.Sound (a : Attribute) (row : Row) : Prop :=
  ∀ field source, a.expression.field = .text field → a.expression.pattern = .text source →
    (Datum.valueAt row field).truthy = true → ¬ FailsToCompile source.toList

/-- The pattern of the attribute is malformed. -/
def Attribute.Malformed (a : Attribute) : Prop :=
  ∃ source, a.expression.pattern = .text source ∧ Pattern.read source.toList = .error .malformed

theorem extract_text (field source : String) (row : Row) {a : Attribute}
    (hfield : a.expression.field = .text field) (hpattern : a.expression.pattern = .text source) :
    a.extract row = if (Datum.valueAt row field).truthy then do
        match ← compilePattern source.toList with
        | some p =>
          return (Pattern.firstGroup? p (Datum.valueAt row field).fieldText.toList).map String.ofList
        | none => return none
      else .ok none := by
  rw [Attribute.extract, hfield, Expression.patternText, hpattern]
  show (if (!(Datum.valueAt row field).truthy) = true then _ else _) = _
  cases (Datum.valueAt row field).truthy with
  | false => rfl
  | true => rfl

theorem extract_isOk_iff {a : Attribute} (h : a.Textual) (row : Row) :
    (∃ v, a.extract row = .ok v) ↔ a.Sound row := by
  obtain ⟨field, hfield⟩ := h.expression.field
  obtain ⟨source, hpattern⟩ := h.expression.pattern
  have hsound : a.Sound row ↔
      ((Datum.valueAt row field).truthy = true → ¬ FailsToCompile source.toList) := by
    refine ⟨fun hs => hs field source hfield hpattern, ?_⟩
    intro hs field' source' hfield' hpattern'
    obtain rfl := Datum.text.inj (hfield.symm.trans hfield')
    obtain rfl := Datum.text.inj (hpattern.symm.trans hpattern')
    exact hs
  rw [hsound, extract_text field source row hfield hpattern, ← compilePattern_isOk_iff]
  cases (Datum.valueAt row field).truthy with
  | false => exact iff_of_true ⟨none, rfl⟩ fun hnot => nomatch hnot
  | true =>
      cases compilePattern source.toList with
      | error f => exact iff_of_false not_isOk_error fun hp => not_isOk_error (hp rfl)
      | ok p =>
          refine iff_of_true ?_ fun _ => ⟨p, rfl⟩
          cases p with
          | none => exact ⟨none, rfl⟩
          | some p => exact ⟨_, rfl⟩

/-- A malformed pattern gives no value. -/
theorem extract_of_malformed {a : Attribute} (h : a.Textual) (hmalformed : a.Malformed) (row : Row) :
    a.extract row = .ok none := by
  obtain ⟨field, hfield⟩ := h.expression.field
  obtain ⟨source, hpattern, hread⟩ := hmalformed
  rw [extract_text field source row hfield hpattern, compilePattern, hread]
  split <;> rfl

/-! ## Lists of attributes -/

theorem extractOne_eq_ok_iff {a : Attribute} {tag : String} (htag : a.tag = .text tag) (row : Row)
    (table table' : TagTable (Option String)) :
    extractOne row table a = .ok table' ↔
      ∃ v, a.extract row = .ok v ∧ table' = upsert Datum.same (.text tag) v table := by
  rw [extractOne, htag]
  cases a.extract row with
  | error f => exact ⟨fun h => (nomatch h), fun ⟨v, h, _⟩ => nomatch h⟩
  | ok v =>
      constructor
      · intro h
        exact ⟨v, rfl, (Except.ok.inj h).symm⟩
      · rintro ⟨v', hv, rfl⟩
        obtain rfl := Except.ok.inj hv
        rfl

theorem extractAll_isOk {attributes : List Attribute} (h : ∀ a ∈ attributes, a.tag.IsText) (row : Row)
    (table : TagTable (Option String)) :
    (∃ table', attributes.foldlM (extractOne row) table = .ok table')
      ↔ ∀ a ∈ attributes, ∃ v, a.extract row = .ok v := by
  induction attributes generalizing table with
  | nil => exact iff_of_true ⟨table, rfl⟩ fun _ ha => absurd ha List.not_mem_nil
  | cons a r ih =>
      obtain ⟨⟨tag, htag⟩, hr⟩ := List.forall_mem_cons.mp h
      rw [List.foldlM_cons, List.forall_mem_cons]
      cases hone : extractOne row table a with
      | error f =>
          refine iff_of_false not_isOk_error ?_
          rintro ⟨⟨v, hv⟩, -⟩
          have hok := (extractOne_eq_ok_iff htag row table _).mpr ⟨v, hv, rfl⟩
          exact nomatch hone.symm.trans hok
      | ok next =>
          obtain ⟨v, hv, -⟩ := (extractOne_eq_ok_iff htag row table next).mp hone
          exact (ih hr next).trans ⟨fun hs => ⟨⟨v, hv⟩, hs⟩, fun hs => hs.2⟩

theorem extractAll_isOk_iff {attributes : List Attribute} (h : ∀ a ∈ attributes, a.Textual) (row : Row)
    (table : TagTable (Option String)) :
    (∃ table', attributes.foldlM (extractOne row) table = .ok table')
      ↔ ∀ a ∈ attributes, a.Sound row := by
  rw [extractAll_isOk (fun a ha => (h a ha).tag)]
  exact forall₂_congr fun a ha => extract_isOk_iff (h a ha) row

/-- Under a tag stands what the last attribute with the tag gives by itself, and nothing stands under other
tags. -/
def OwnValues (attributes : List Attribute) (row : Row) (table : TagTable (Option String)) : Prop :=
  (∀ before a after, attributes = before ++ a :: after → (∀ x ∈ after, x.tag ≠ a.tag) →
      ∃ v, a.extract row = .ok v ∧ table.find a.tag = .ok (some v))
    ∧ ∀ tag, (∀ a ∈ attributes, a.tag ≠ .text tag) → table.find (.text tag) = .ok none

theorem ownValues_extractAll {attributes : List Attribute} (h : ∀ a ∈ attributes, a.Textual) {row : Row}
    {table : TagTable (Option String)} (hrun : extractAll attributes row = .ok table) :
    OwnValues attributes row table := by
  constructor
  · rintro before a after rfl hafter
    obtain ⟨tag, htag⟩ := (h a (List.mem_append_right before List.mem_cons_self)).tag
    rw [htag] at hafter
    obtain ⟨v, hv, hunder⟩ := value_of_extractAll hafter htag hrun
    exact ⟨v, hv, by rw [htag, TagTable.find_text, hunder]⟩
  · intro tag htag
    rw [TagTable.find_text, under_extractAll htag hrun]
    rfl

/-! ## Rules and attributes together -/

/-- A value as tables have them: none, a truth value, a number or a text. An integer has no more digits than
are ever written; the text of a longer one would not be that of `Datum.fieldText`. -/
inductive Datum.Simple : Datum → Prop where
  | null : Simple .null
  | bool (b : Bool) : Simple (.bool b)
  | int {n : Int} (h : (Nat.toDigits 10 n.natAbs).length ≤ Text.digitsLimit) : Simple (.int n)
  | float (x : Float) : Simple (.float x)
  | text (s : String) : Simple (.text s)

/-- **What can be evaluated**: rules and attributes that have texts for their parts, with no group in a
possessive repetition, on a row of simple values. -/
structure Evaluable (rules : RuleSet) (attributes : List Attribute) (row : Row) : Prop where
  textualRules : ∀ group ∈ rules, ∀ e ∈ group, e.Textual
  textualAttributes : ∀ a ∈ attributes, a.Textual
  steadyRules : ∀ group ∈ rules, ∀ e ∈ group, e.Steady
  steadyAttributes : ∀ a ∈ attributes, a.expression.Steady
  simpleRow : ∀ p ∈ row, p.2.Simple

end StatementTagging
