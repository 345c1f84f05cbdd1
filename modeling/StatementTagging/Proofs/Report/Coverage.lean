import StatementTagging.Proofs.Number.Integer
import StatementTagging.Proofs.Report.Ranking
import StatementTagging.Proofs.Report.Tags
import StatementTagging.Report.Untagged

set_option autoImplicit false

/-! # What coverage and the rows without tags count

On a tagged frame, the coverage lists the tags that the analyses of the rows have, each once with the number
of rows that carry it, in order (`Coverage.lines_counts`). The rows without tags are those for which nothing
matched (`Untagged.summarize_untagged`). The frames of the reports show these numbers; making one fails only if
a number is beyond the range of floating-point numbers, or a description is no single value.
-/

namespace StatementTagging

variable {f out : Frame} {analyses : List Analysis} {columns : List String}

/-- The numbers up to `n` can stand in a column. -/
def CountsFit (n : Nat) : Prop := ∀ m ≤ n, ¬ (countDatum m).TooLarge

/-- Numbers with fewer than 54 bits can. -/
theorem countsFit_of_lt {n : Nat} (h : n < 2 ^ 53) : CountsFit n := by
  rintro m hm ⟨k, hk, hnone⟩
  obtain rfl := Datum.int.inj hk
  obtain ⟨x, hx, -⟩ := isExact_of_natAbs_lt (n := (m : ℤ)) (by omega)
  rw [hx] at hnone
  cases hnone

/-! ## Coverage -/

namespace Coverage

/-- The lines count the rows that carry each tag. -/
structure Counts (analyses : List Analysis) (lines : List Line) : Prop where
  tags : ∀ t, t ∈ lines.map (·.tag) ↔ ∃ a ∈ analyses, a.Carries t
  once : (lines.map (·.tag)).Nodup
  count : ∀ l ∈ lines, l.count = analyses.countP (·.Carries l.tag)
  order : lines.Pairwise fun l l' => l'.count < l.count ∨ l.count = l'.count ∧ l.tag ≤ l'.tag
  rank : lines.map (·.rank) = List.range' 1 lines.length

theorem mem_counts_iff (tags : List (List String)) (t : String) (n : Nat) :
    (t, n) ∈ counts tags ↔ (∃ l ∈ tags, t ∈ l) ∧ n = tags.countP (t ∈ ·) := by
  rw [counts, (ranked_perm _).mem_iff, mem_tally_iff, count_flatMap_eraseDups, List.mem_flatMap]
  simp only [List.mem_eraseDups]

theorem nodup_counts (tags : List (List String)) : ((counts tags).map Prod.fst).Nodup :=
  ((ranked_perm _).map Prod.fst).nodup_iff.mpr (nodup_tally _)

/-- The tags of the analyses are counted, each once for a row. -/
theorem mem_counts_tagTexts_iff (hproper : ∀ a ∈ analyses, a.ProperlyTagged) (t : String) (n : Nat) :
    (t, n) ∈ counts (analyses.map (·.tagTexts))
      ↔ (∃ a ∈ analyses, a.Carries t) ∧ n = analyses.countP (·.Carries t) := by
  have hcarries : (∃ l ∈ analyses.map (·.tagTexts), t ∈ l) ↔ ∃ a ∈ analyses, a.Carries t := by
    simp only [List.mem_map, exists_exists_and_eq_and]
    exact exists_congr fun a => and_congr_right fun ha => (carries_iff (hproper a ha) t).symm
  have hcount : (analyses.map (·.tagTexts)).countP (t ∈ ·) = analyses.countP (·.Carries t) := by
    rw [List.countP_map]
    exact List.countP_congr fun a ha => by simp [carries_iff (hproper a ha)]
  rw [mem_counts_iff, hcarries, hcount]

/-- **The coverage counts what the analyses found.** -/
theorem lines_counts (h : Tagged f out analyses columns) (hproper : ∀ a ∈ analyses, a.ProperlyTagged) :
    ∃ lines, Coverage.lines out = .ok lines ∧ Counts analyses lines := by
  refine ⟨_, bind_eq_ok_iff.mpr ⟨_, rowTags_eq h hproper, rfl⟩, ?_⟩
  generalize hlines : ((counts (analyses.map (·.tagTexts))).zipIdx.map _) = lines
  have hpairs : lines.map (fun l => (l.tag, l.count)) = counts (analyses.map (·.tagTexts)) := by
    rw [← hlines, List.map_map]
    exact List.zipIdx_map_fst 0 _
  have hrank : lines.map (·.rank) = List.range' 1 lines.length := by
    rw [← hlines, List.map_map, List.length_map, List.length_zipIdx]
    rw [← List.map_add_range' (a := 1) 0 _ 1, ← List.zipIdx_map_snd, List.map_map]
    exact List.map_congr_left fun p _ => Nat.add_comm _ _
  have hmem := mem_counts_tagTexts_iff hproper
  rw [← hpairs] at hmem
  refine ⟨fun t => ?_, ?_, fun l hl => ?_, ?_, hrank⟩
  · constructor
    · intro ht
      obtain ⟨l, hl, rfl⟩ := List.mem_map.mp ht
      exact ((hmem l.tag l.count).mp (List.mem_map_of_mem hl)).1
    · intro ht
      obtain ⟨l, hl, heq⟩ := List.mem_map.mp ((hmem t _).mpr ⟨ht, rfl⟩)
      exact List.mem_map.mpr ⟨l, hl, congrArg Prod.fst heq⟩
  · have hnodup := nodup_counts (analyses.map (·.tagTexts))
    rwa [← hpairs, List.map_map] at hnodup
  · exact ((hmem l.tag l.count).mp (List.mem_map_of_mem hl)).2
  · have hpairwise := pairwise_ranked (tally ((analyses.map (·.tagTexts)).flatMap List.eraseDups))
    rw [← counts, ← hpairs, List.pairwise_map] at hpairwise
    exact hpairwise

/-- The frame shows the lines. -/
structure Shows (r : Frame) (lines : List Line) : Prop where
  height : r.height = lines.length
  tag : r.column? "Tag" = some (lines.map fun l => .text l.tag)
  count : r.column? "Txn_Count" = some (lines.map fun l => countDatum l.count)
  rank : r.column? "Rank" = some (lines.map fun l => countDatum l.rank)

theorem shows_of_table {lines : List Line} {r : Frame} (h : table lines = .ok r) : Shows r lines where
  height := (Frame.height_ofRecords h).trans (List.length_map _)
  tag := Frame.column?_plain h (by simp [Coverage.columns]) _ (fun _ => rfl) fun _ _ => trivial
  count := Frame.column?_ints h (by simp [Coverage.columns]) _ fun _ => rfl
  rank := Frame.column?_ints h (by simp [Coverage.columns]) _ fun _ => rfl

theorem table_isOk {lines : List Line} (h : Counts analyses lines) (hrows : CountsFit analyses.length)
    (hlines : CountsFit lines.length) : ∃ r, table lines = .ok r := by
  refine Frame.ofRecords_isOk _ (List.forall_mem_map.mpr fun l hl => ?_)
  have hcount : l.count ≤ analyses.length := h.count l hl ▸ List.countP_le_length
  have hrank : l.rank ≤ lines.length := by
    have hmem := List.mem_map_of_mem (f := Line.rank) hl
    rw [h.rank, List.mem_range'_1] at hmem
    omega
  simp only [Line.cells, List.forall_mem_cons]
  exact ⟨not_tooLarge_of_plain trivial, hrows _ hcount, not_tooLarge_float _, hlines _ hrank,
    List.forall_mem_nil _⟩

end Coverage

/-! ## Rows without tags -/

namespace Untagged

theorem isEmpty_tagTexts {a : Analysis} (h : a.tags = a.matched.map (·.tag)) :
    a.tagTexts.isEmpty = a.matched.isEmpty := by
  rw [Analysis.tagTexts, h, List.map_map, List.isEmpty_map]

/-- **A row counts as one without tags if nothing matched it.** -/
theorem summarize_untagged (h : Tagged f out analyses columns) (hproper : ∀ a ∈ analyses, a.ProperlyTagged)
    (hmatched : ∀ a ∈ analyses, a.tags = a.matched.map (·.tag)) {field : String} {s : Summary}
    (hs : summarize out field = .ok s) :
    s.total = analyses.length ∧ s.untagged = analyses.countP (·.matched.isEmpty) := by
  obtain ⟨tags, htags, hs⟩ := bind_eq_ok_iff.mp hs
  obtain rfl := Except.ok.inj ((rowTags_eq h hproper).symm.trans htags)
  obtain ⟨top, -, hs⟩ := bind_eq_ok_iff.mp hs
  obtain rfl := Except.ok.inj hs
  refine ⟨h.height.trans h.length.symm, ?_⟩
  rw [List.map_map]
  refine (Frame.height_keep analyses _ out).trans (List.countP_congr fun a ha => ?_)
  rw [Function.comp_apply, isEmpty_tagTexts (hmatched a ha)]

/-- The cells of a column each have an answer to whether they are missing. -/
def Answered (f : Frame) (field : String) : Prop :=
  ∀ cells, f.column? field = some cells → ∀ d ∈ cells, ∃ missing, cellMissing d = .ok missing

/-- The descriptions of the rows that are kept can be counted. -/
theorem topDescriptions_isOk {field : String} (h : Answered out field) (marks : List Bool) :
    ∃ top, topDescriptions (out.keep marks) field = .ok top ∧ ∀ e ∈ top, e.2 ≤ marks.length := by
  rw [topDescriptions, Frame.column?_keep]
  cases hcells : out.column? field with
  | none => exact ⟨[], rfl, List.forall_mem_nil _⟩
  | some cells =>
      have heach : ∀ d ∈ Frame.kept marks cells, ∃ s, normalizeDescription d = .ok s := by
        intro d hd
        obtain ⟨missing, hmissing⟩ := h cells hcells d (Frame.mem_of_mem_kept hd)
        rw [normalizeDescription, hmissing]
        cases missing <;> exact ⟨_, rfl⟩
      obtain ⟨texts, htexts⟩ := mapM_isOk heach
      refine ⟨_, bind_eq_ok_iff.mpr ⟨texts, htexts, rfl⟩, fun e he => ?_⟩
      obtain ⟨-, hcount⟩ := (mem_tally_iff _ _ _).mp ((ranked_perm _).mem_iff.mp (List.mem_of_mem_take he))
      calc e.2 = (texts.filter (· != "")).count e.1 := hcount
        _ ≤ (texts.filter (· != "")).length := List.count_le_length
        _ ≤ texts.length := List.length_filter_le _ _
        _ = (Frame.kept marks cells).length := (mapM_eq_ok_iff.mp htexts).length_eq.symm
        _ ≤ marks.length := Frame.length_kept_le marks cells

/-- The numbers of the report on a frame are at most that of its rows. -/
theorem summarize_isOk (h : Tagged f out analyses columns) (hproper : ∀ a ∈ analyses, a.ProperlyTagged)
    {field : String} (hfield : Answered out field) :
    ∃ s, summarize out field = .ok s ∧ s.total = f.height ∧ s.untagged ≤ f.height
      ∧ ∀ e ∈ s.top, e.2 ≤ f.height := by
  let marks := (analyses.map (·.tagTexts)).map (·.isEmpty)
  have hmarks : marks.length = f.height := by rw [List.length_map, List.length_map, h.length]
  obtain ⟨top, htop, hcounts⟩ := topDescriptions_isOk hfield marks
  refine ⟨_, bind_eq_ok_iff.mpr ⟨_, rowTags_eq h hproper, bind_eq_ok_iff.mpr ⟨top, htop, rfl⟩⟩, h.height, ?_, ?_⟩
  · exact hmarks ▸ List.count_le_length
  · exact hmarks ▸ hcounts

theorem column?_table {s : Summary} {r : Frame} (h : s.table = .ok r) :
    r.column? "Untagged_Count" = some [countDatum s.untagged] := by
  have htable : Frame.ofRecords _ ([s].map Summary.cells) = .ok r := h
  have hname : "Untagged_Count" ∈ (([s].map Summary.cells).flatten.map (·.1)).eraseDups := by
    rw [List.mem_eraseDups]
    simp [Summary.cells]
  exact Frame.column?_ints htable hname (fun s => s.untagged) fun _ => rfl

theorem table_isOk {s : Summary} {n : Nat} (hfits : CountsFit n) (htotal : s.total ≤ n)
    (huntagged : s.untagged ≤ n) (htop : ∀ e ∈ s.top, e.2 ≤ n) : ∃ r, s.table = .ok r := by
  refine Frame.ofRecords_isOk _ (List.forall_mem_singleton.mpr (List.forall_mem_append.mpr ⟨?_, fun e he => ?_⟩))
  · simp only [List.forall_mem_cons]
    exact ⟨hfits _ htotal, hfits _ huntagged, not_tooLarge_float _, not_tooLarge_of_plain trivial,
      not_tooLarge_float _, not_tooLarge_float _, not_tooLarge_of_plain trivial, List.forall_mem_nil _⟩
  · obtain ⟨i, -, he⟩ := List.mem_flatMap.mp he
    have hcount : (s.top.getD i ("", 0)).2 ≤ n := by
      rw [List.getD_eq_getElem?_getD]
      cases hi : s.top[i]? with
      | none => exact Nat.zero_le n
      | some e => exact htop e (List.mem_of_getElem? hi)
    rcases List.mem_pair.mp he with rfl | rfl
    · exact not_tooLarge_of_plain trivial
    · exact hfits _ hcount

end Untagged

end StatementTagging
