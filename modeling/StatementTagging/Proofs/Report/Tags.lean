import StatementTagging.Proofs.Analysis
import StatementTagging.Proofs.Rule.TagTable
import StatementTagging.Proofs.Tagging
import StatementTagging.Proofs.Text.Pieces
import StatementTagging.Report.Coverage

set_option autoImplicit false

/-! # Tags read back from a frame

Reports see the tags of a row as one text with bars between them. Which tags are got back from it is known
exactly (`splitTags_joinTags_iff`); proper tags, which are not empty, hold no bar and have no blanks at their
ends, are among them, so a report sees of each row the tags that its analysis has (`rowTags_eq`).
-/

namespace StatementTagging

/-- A text that can be told from its neighbours in a cell. -/
structure IsProperTag (t : String) : Prop where
  nonempty : t ≠ ""
  noBar : '|' ∉ t.toList
  stripped : Text.strip t.toList = t.toList

/-- The tags of all definitions are proper. -/
def ProperTags (libraries : List Library) : Prop :=
  ∀ l ∈ libraries, ∀ d ∈ l.definitions, ∃ t, d.tag = .text t ∧ IsProperTag t

/-! ## One cell -/

theorem map_ofList_eq_iff (parts : List (List Char)) (texts : List String) :
    parts.map String.ofList = texts ↔ parts = texts.map String.toList := by
  constructor
  · rintro rfl
    rw [List.map_map]
    exact (List.map_id'' (fun s => String.toList_ofList) parts).symm
  · rintro rfl
    rw [List.map_map]
    exact List.map_id'' (fun s => String.ofList_toList) texts

theorem splitTags_intercalate_iff (tags : List String) :
    splitTags (.text (String.intercalate "|" tags)) = .ok tags
      ↔ Text.SplitsBack '|' (tags.map String.toList) := by
  show Except.ok (tagsOfText (String.intercalate "|" tags).toList) = _ ↔ _
  rw [Except.ok.injEq, tagsOfText, map_ofList_eq_iff, String.toList_intercalate]
  exact Text.nonempty_pieces_strip_intercalate_iff '|' _

/-- **Proper tags are got back from their cell.** -/
theorem splitTags_intercalate {tags : List String} (h : ∀ t ∈ tags, IsProperTag t) :
    splitTags (.text (String.intercalate "|" tags)) = .ok tags := by
  have hends : ∀ s ∈ tags.map String.toList,
      (∀ c ∈ s.head?, Text.isBlank c = false) ∧ ∀ c ∈ s.getLast?, Text.isBlank c = false :=
    List.forall_mem_map.mpr fun t ht => (Text.strip_eq_self_iff _).mp (h t ht).stripped
  refine (splitTags_intercalate_iff tags).mpr ⟨?_, ?_, ?_, ?_⟩
  · exact List.forall_mem_map.mpr fun t ht => mt String.toList_eq_nil_iff.mp (h t ht).nonempty
  · exact List.forall_mem_map.mpr fun t ht => (h t ht).noBar
  · intro c hc
    obtain ⟨s, hs, hc⟩ := Option.bind_eq_some_iff.mp hc
    exact (hends s (List.mem_of_mem_head? hs)).1 c hc
  · intro c hc
    obtain ⟨s, hs, hc⟩ := Option.bind_eq_some_iff.mp hc
    exact (hends s (List.mem_of_getLast? hs)).2 c hc

/-- **Which tags are got back from their cell.** The tags that are written with bars between them are read
again exactly if none of them is empty or holds a bar, the first does not begin with a blank and the last
does not end with one. -/
theorem splitTags_joinTags_iff (tags : List String) :
    ∃ cell, joinTags (tags.map .text) = .ok cell
      ∧ (splitTags (.text cell) = .ok tags ↔
          (∀ t ∈ tags, t ≠ "" ∧ '|' ∉ t.toList)
          ∧ (∀ t ∈ tags.head?, ∀ c ∈ t.toList.head?, Text.isBlank c = false)
          ∧ ∀ t ∈ tags.getLast?, ∀ c ∈ t.toList.getLast?, Text.isBlank c = false) := by
  refine ⟨_, joinTags_texts tags, (splitTags_intercalate_iff tags).trans ?_⟩
  have hends : ∀ (end? : List Char → Option Char) (first? : Option String),
      (∀ c ∈ (first?.map String.toList).bind end?, Text.isBlank c = false)
        ↔ ∀ t ∈ first?, ∀ c ∈ end? t.toList, Text.isBlank c = false := by
    rintro end? (_ | t) <;> simp
  constructor
  · rintro ⟨hne, hbar, hfront, hback⟩
    rw [List.head?_map, hends] at hfront
    rw [List.getLast?_map, hends] at hback
    exact ⟨fun t ht => ⟨mt String.toList_eq_nil_iff.mpr (hne _ (List.mem_map_of_mem ht)),
      hbar _ (List.mem_map_of_mem ht)⟩, hfront, hback⟩
  · rintro ⟨htags, hfront, hback⟩
    refine ⟨?_, ?_, ?_, ?_⟩
    · exact List.forall_mem_map.mpr fun t ht => mt String.toList_eq_nil_iff.mp (htags t ht).1
    · exact List.forall_mem_map.mpr fun t ht => (htags t ht).2
    · rwa [List.head?_map, hends]
    · rwa [List.getLast?_map, hends]

/-! ## All rows -/

/-- The analysed row carries the tag. -/
def Analysis.Carries (a : Analysis) (t : String) : Prop := .text t ∈ a.tags

instance (a : Analysis) : DecidablePred a.Carries := fun t =>
  decidable_of_iff (∃ d ∈ a.tags, d.same (.text t) = true) <| by
    simp only [Datum.same_text_iff, exists_eq_right, Analysis.Carries]

/-- The texts of the tags. -/
def Analysis.tagTexts (a : Analysis) : List String := a.tags.map Datum.display

/-- All tags of the analysis are proper. -/
def Analysis.ProperlyTagged (a : Analysis) : Prop := ∀ d ∈ a.tags, ∃ t, d = .text t ∧ IsProperTag t

theorem properlyTagged_of_analyzeRow {libraries : List Library} {today : String} {row : Row} {a : Analysis}
    (hproper : ProperTags libraries) (h : analyzeRow libraries today row = .ok a) : a.ProperlyTagged := by
  obtain ⟨htags, hmatched⟩ := tags_of_analyzeRow h
  intro d hd
  rw [htags] at hd
  obtain ⟨x, hx, rfl⟩ := List.mem_map.mp hd
  obtain ⟨l, hl, hmem⟩ := hmatched x hx
  exact hproper l hl x hmem

section Analysis

variable {a : Analysis} (h : a.ProperlyTagged)

include h

theorem tags_eq : a.tags = a.tagTexts.map .text :=
  eq_map_text fun d hd => (h d hd).imp fun _ ht => ht.1

theorem carries_iff (t : String) : a.Carries t ↔ t ∈ a.tagTexts := by
  rw [Analysis.Carries, tags_eq h, List.mem_map]
  simp

theorem isProperTag_of_mem_tagTexts : ∀ t ∈ a.tagTexts, IsProperTag t := by
  intro t ht
  obtain ⟨d, hd, rfl⟩ := List.mem_map.mp ht
  obtain ⟨t, rfl, hproper⟩ := h d hd
  exact hproper

theorem joinTags_tags : joinTags a.tags = .ok (String.intercalate "|" a.tagTexts) := by
  rw [tags_eq h, joinTags_texts]

end Analysis

theorem rowTags_of_some {f : Frame} {cells : List Datum} (h : f.column? "Tags" = some cells) :
    rowTags f = cells.mapM splitTags := by
  rw [rowTags, tagCells, h, ok_bind]

theorem rowTags_of_none {f : Frame} (h : f.column? "Tags" = none) :
    rowTags f = .error (.missingEntry "Tags") := by
  rw [rowTags, tagCells, h, error_bind]

/-- **A report sees the tags of the analyses.** -/
theorem rowTags_eq {f out : Frame} {analyses : List Analysis} {columns : List String}
    (h : Tagged f out analyses columns) (hproper : ∀ a ∈ analyses, a.ProperlyTagged) :
    rowTags out = .ok (analyses.map (·.tagTexts)) := by
  obtain ⟨tags, htags, hcolumn⟩ := h.tags
  have hjoined := mapM_eq_map fun a ha => joinTags_tags (hproper a ha)
  obtain rfl := Except.ok.inj (htags.symm.trans hjoined)
  rw [rowTags_of_some hcolumn, List.map_map, List.mapM_map]
  exact mapM_eq_map fun a ha => splitTags_intercalate (isProperTag_of_mem_tagTexts (hproper a ha))

end StatementTagging
