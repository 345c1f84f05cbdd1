import StatementTagging.Proofs.AttributeForm
import StatementTagging.Proofs.Rule.Evaluation

set_option autoImplicit false

/-! # Verified values and tests for them

That a value stands between two texts in a field can be asked in two ways. An attribute takes out the shortest
part of a line between the texts and checks that it is the value; a test looks for the three texts one after
the other. The attribute looks at the field as it is, the test at the field without the blanks at its ends,
and their patterns have nothing in common.

A passed check implies a passed test (`acceptsRow_of_verified`): what was taken out stands between the texts,
and stripping the field leaves such a place if no blank is at the ends of the three texts together. The
converse fails, because the check looks at one place only and the value may stand at another one.
-/

namespace StatementTagging

open Pattern

/-! ## Two ways to ask -/

/-- The extraction between two texts that checks for a value. -/
def ExtractionForm.checking (before value after : String) : ExtractionForm :=
  { operation := .betweenAndVerify, before := some before, after := some after, verify := some value }

/-- The test for a value between two texts. -/
def MatchForm.comparing (before value after : String) : MatchForm :=
  { operation := .extractAndCompare, value := value, before := some before, after := some after }

/-- The outcomes of the checks of what attributes take out of a row. -/
def checkRow (attributes : List Attribute) (row : Row) : Except Fault (TagTable Bool) := do
  let extracted ← extractAll attributes row
  verifyAll attributes (extracted.map fun (tag, v) => (tag, valueDatum v))

/-! ## What a passed check says -/

theorem valueDatum_same_iff (v : Option String) (s : String) :
    (valueDatum v).same (.text s) = true ↔ v = some s := by
  rw [Datum.same_text_iff]
  cases v <;> simp [valueDatum]

/-- **A passed check** of the last attribute with a tag says that the attribute takes the value out of the
row. -/
theorem extract_of_checkRow {earlier later : List Attribute} {a : Attribute} {tag value : String}
    (htag : a.tag = .text tag) (hverify : a.verify = .text value) (hvalue : value ≠ "")
    (hlater : ∀ b ∈ later, b.tag ≠ .text tag) {row : Row} {checks : TagTable Bool}
    (hrun : checkRow (earlier ++ a :: later) row = .ok checks) (hpassed : checks.under tag = some true) :
    a.extract row = .ok (some value) := by
  obtain ⟨extracted, hextracted, hchecks⟩ := bind_eq_ok_iff.mp hrun
  obtain ⟨v, hv, hunder⟩ := value_of_extractAll hlater htag hextracted
  have htruthy : a.verify.truthy = true := by
    rw [hverify]
    exact bne_iff_ne.mpr hvalue
  -- the value that is checked is the one that the attribute has put under its tag
  rw [check_of_verifyAll hlater htag htruthy hchecks, TagTable.under_map, hunder, hverify,
    Option.some.injEq] at hpassed
  rw [hv, (valueDatum_same_iff v value).mp hpassed]

/-- **What is taken out** between two texts stands between them in the field. -/
theorem infix_of_extract {a : Attribute} {field before value after pattern : String}
    (hfield : a.expression.field = .text field) (hpattern : a.expression.pattern = .text pattern)
    (hsource : pattern.toList = (ExtractionForm.checking before value after).source) {row : Row}
    {v : String} (hrun : a.extract row = .ok (some v)) :
    (Datum.valueAt row field).truthy = true
      ∧ before.toList ++ v.toList ++ after.toList <:+: extractedText row field := by
  rw [extract_text field pattern row hfield hpattern] at hrun
  split at hrun
  · next hpresent =>
      obtain ⟨q, hq, hgap⟩ := captures_lazy before.toList after.toList
      have hread : read (ExtractionForm.checking before value after).source = .ok q := hq
      have hcompiled : compilePattern pattern.toList = .ok (some q) := by
        rw [compilePattern, hsource, hread]
      rw [hcompiled] at hrun
      obtain ⟨g, hg, rfl⟩ := Option.map_eq_some_iff.mp (Except.ok.inj hrun)
      have hfirst := hgap (extractedText row field)
      rw [extractedText, hg] at hfirst
      -- that the gap is the first one and the shortest does not matter here
      obtain ⟨i, ⟨-, l, r, htext, -⟩, -⟩ := hfirst
      refine ⟨hpresent, l, r, ?_⟩
      rw [extractedText, htext, String.toList_ofList]
      simp only [List.append_assoc]
  · cases hrun

/-! ## What implies a passed test -/

theorem isNull_eq_false_of_truthy {d : Datum} (h : d.truthy = true) : d.isNull = false := by
  cases d with
  | null => cases h
  | _ => rfl

/-- The three texts in the field, without a blank at their ends, make the test pass. -/
theorem acceptsRow_comparing {field before value after : String} {row : Row}
    (hrow : (Datum.valueAt row field).isNull = false)
    (hfront : ∀ c ∈ (before ++ value ++ after).toList.head?, Text.isBlank c = false)
    (hback : ∀ c ∈ (before ++ value ++ after).toList.getLast?, Text.isBlank c = false)
    (h : before.toList ++ value.toList ++ after.toList <:+: extractedText row field) :
    (MatchForm.comparing before value after).acceptsRow field row = .ok true := by
  have hstripped : before.toList ++ value.toList ++ after.toList <:+: searchedText row field := by
    rw [String.toList_append, String.toList_append] at hfront hback
    exact Text.infix_strip h hfront hback
  have hmark : ¬ Marked (MatchForm.comparing before value after).source :=
    not_marked_source (by simp [MatchForm.comparing])
  obtain ⟨b, hb, hfound⟩ := acceptsRow_of_finds (f := .comparing before value after)
    (by simp [MatchForm.comparing, MatchOperation.catalogue]) hmark
    (finds_extractAndCompare before.toList value.toList after.toList) field row hrow
  rw [hb, hfound.mpr hstripped]

/-! ## From the check to the test -/

/-- **A passed check implies a passed test.** Let the value and the two texts around it neither begin nor end
with a blank when they are put together, and the value not be empty. If an attribute that takes out what is
between the texts and checks it for the value passes on a row, next to other attributes of which none after it
has its tag, then the row passes the test for the value between the texts. -/
theorem acceptsRow_of_verified (tag field before value after : String) (mandatory validation id : Datum)
    (row : Row) (earlier later : List Attribute) (hvalue : value ≠ "")
    (hfront : ∀ c ∈ (before ++ value ++ after).toList.head?, Text.isBlank c = false)
    (hback : ∀ c ∈ (before ++ value ++ after).toList.getLast?, Text.isBlank c = false)
    (hlater : ∀ b ∈ later, b.tag ≠ .text tag) :
    ∃ a, AttributeFields.compile ⟨.text tag, .text field,
          (ExtractionForm.checking before value after).fields, mandatory, validation⟩ id = .ok a
      ∧ ∀ checks, checkRow (earlier ++ a :: later) row = .ok checks → checks.under tag = some true →
          (MatchForm.comparing before value after).acceptsRow field row = .ok true := by
  obtain ⟨g, hg, hsource⟩ := extractionForm_fields (f := .checking before value after)
    (by simp [ExtractionForm.checking])
  refine ⟨_, compile_of_form hg id, fun checks hrun hpassed => ?_⟩
  have hverify : Datum.orElse (.text value) .null = .text value := if_pos (bne_iff_ne.mpr hvalue)
  have hextract := extract_of_checkRow rfl hverify hvalue hlater hrun hpassed
  have hpattern : g.compile.toList = (ExtractionForm.checking before value after).source := by
    rw [ExtractionForm.compile, String.toList_ofList, hsource]
  obtain ⟨hpresent, hinfix⟩ := infix_of_extract rfl rfl hpattern hextract
  exact acceptsRow_comparing (isNull_eq_false_of_truthy hpresent) hfront hback hinfix

theorem acceptsRow_of_verified_metacharacters :
    let row : Row := [("F", .text " ref (AMT.) 12.50$\nfee")]
    let fields : AttributeFields := {
      tag := .text "Amount"
      field := .text "F"
      parameters := (ExtractionForm.checking "(AMT.) " "12.50" "$").fields }
    "12.50" ≠ ""
      ∧ (∀ c ∈ ("(AMT.) " ++ "12.50" ++ "$").toList.head?, Text.isBlank c = false)
      ∧ (∀ c ∈ ("(AMT.) " ++ "12.50" ++ "$").toList.getLast?, Text.isBlank c = false)
      ∧ (∀ b ∈ ([] : List Attribute), b.tag ≠ .text "Amount")
      ∧ ∃ a checks, fields.compile .null = .ok a ∧ checkRow [a] row = .ok checks
        ∧ checks.under "Amount" = some true
        ∧ (MatchForm.comparing "(AMT.) " "12.50" "$").acceptsRow "F" row = .ok true := by
  intro row fields
  have hfront : ∀ c ∈ ("(AMT.) " ++ "12.50" ++ "$").toList.head?, Text.isBlank c = false := by
    intro c hc
    obtain rfl : '(' = c := Option.some.inj hc
    decide
  have hback : ∀ c ∈ ("(AMT.) " ++ "12.50" ++ "$").toList.getLast?, Text.isBlank c = false := by
    intro c hc
    obtain rfl : '$' = c := Option.some.inj hc
    decide
  have hlater : ∀ b ∈ ([] : List Attribute), b.tag ≠ .text "Amount" := fun _ hb =>
    absurd hb List.not_mem_nil
  obtain ⟨a, hcompile, hpassed⟩ := acceptsRow_of_verified "Amount" "F" "(AMT.) " "12.50" "$"
    (.bool false) (.text "STRING") .null row [] [] (by decide) hfront hback hlater
  have hrun : (fields.compile .null >>= fun a => (·.under "Amount") <$> checkRow [a] row).toOption
      = some (some true) := by
    decide +kernel
  rw [show fields.compile .null = .ok a from hcompile, ok_bind] at hrun
  cases hchecks : checkRow [a] row with
  | error f =>
      rw [hchecks] at hrun
      cases hrun
  | ok checks =>
      rw [hchecks] at hrun
      have hunder : checks.under "Amount" = some true := Option.some.inj hrun
      exact ⟨by decide, hfront, hback, hlater, a, checks, hcompile, hchecks, hunder,
        hpassed checks hchecks hunder⟩

/-- The value stands in the second pair of brackets, and the first one is taken out. -/
example :
    let row : Row := [("F", .text "[b] [a]")]
    let fields : AttributeFields := {
      tag := .text "T"
      field := .text "F"
      parameters := (ExtractionForm.checking "[" "a" "]").fields }
    (fields.compile .null >>= fun a => (·.under "T") <$> checkRow [a] row).toOption = some (some false)
      ∧ ((MatchForm.comparing "[" "a" "]").acceptsRow "F" row).toOption = some true := by
  decide +kernel

end StatementTagging
