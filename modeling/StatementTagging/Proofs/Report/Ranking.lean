import Mathlib.Data.String.Basic
import StatementTagging.Proofs.Datum
import StatementTagging.Report.Description

set_option autoImplicit false

/-! # Counting and ranking texts

Reports count how often texts occur and put the counts in order. The counts list each text that occurs
once (`mem_tally_iff`), and the order puts the more frequent texts first (`pairwise_ranked`).
-/

namespace StatementTagging

/-! ## Counting -/

/-- Counts one more text. -/
def tallyOne (counts : List (String × Nat)) (s : String) : List (String × Nat) :=
  upsert (· == ·) s ((counts.lookup s).getD 0 + 1) counts

theorem tally_eq (texts : List String) : tally texts = texts.foldl tallyOne [] := rfl

/-- Going on with a table of counts. -/
theorem foldl_tallyOne (texts : List String) (counts : List (String × Nat))
    (h : (counts.map Prod.fst).Nodup) :
    ((texts.foldl tallyOne counts).map Prod.fst).Nodup
      ∧ ∀ s, (texts.foldl tallyOne counts).lookup s
        = if s ∈ texts then some ((counts.lookup s).getD 0 + texts.count s) else counts.lookup s := by
  induction texts generalizing counts with
  | nil => exact ⟨h, fun s => by simp⟩
  | cons t r ih =>
      obtain ⟨hnodup, hlookup⟩ := ih (tallyOne counts t) (nodup_upsert h)
      refine ⟨hnodup, fun s => ?_⟩
      have hone : (tallyOne counts t).lookup s
          = if t = s then some ((counts.lookup t).getD 0 + 1) else counts.lookup s := lookup_upsert s
      rw [List.foldl_cons, hlookup, hone]
      by_cases hts : t = s
      · subst hts
        rw [if_pos rfl, if_pos List.mem_cons_self, List.count_cons_self, Option.getD_some]
        by_cases hr : t ∈ r
        · rw [if_pos hr]
          congr 1
          omega
        · rw [if_neg hr, List.count_eq_zero.mpr hr]
      · rw [if_neg hts, List.count_cons_of_ne hts]
        exact if_congr (by simp [Ne.symm hts]) rfl rfl

/-- **Each text that occurs is counted, once, with its number.** -/
theorem nodup_tally (texts : List String) : ((tally texts).map Prod.fst).Nodup :=
  (foldl_tallyOne texts [] List.nodup_nil).1

theorem mem_tally_iff (texts : List String) (s : String) (n : Nat) :
    (s, n) ∈ tally texts ↔ s ∈ texts ∧ n = texts.count s := by
  obtain ⟨hnodup, hlookup⟩ := foldl_tallyOne texts [] List.nodup_nil
  have hfound : (tally texts).lookup s = if s ∈ texts then some (texts.count s) else none := by
    rw [tally_eq, hlookup]
    simp
  constructor
  · intro hmem
    have hsome := lookup_of_nodup hnodup hmem
    rw [← tally_eq] at hsome
    rw [hfound] at hsome
    split at hsome
    · next hs => exact ⟨hs, (Option.some.inj hsome).symm⟩
    · cases hsome
  · rintro ⟨hs, rfl⟩
    rw [if_pos hs] at hfound
    obtain ⟨l, r, heq, -⟩ := List.lookup_eq_some_iff.mp hfound
    rw [heq]
    exact List.mem_append_right _ List.mem_cons_self

/-! ## Counting lists of texts -/

/-- A text that is in a list several times counts once for the list. -/
theorem count_flatMap_eraseDups (lists : List (List String)) (s : String) :
    (lists.flatMap List.eraseDups).count s = lists.countP (s ∈ ·) := by
  induction lists with
  | nil => rfl
  | cons l r ih =>
      rw [List.flatMap_cons, List.count_append, ih, List.countP_cons]
      by_cases hs : s ∈ l
      · have hone := List.count_eq_one_of_mem (nodup_eraseDups l) (List.mem_eraseDups.mpr hs)
        simp [hone, hs, Nat.add_comm]
      · have hnone := List.count_eq_zero.mpr (mt List.mem_eraseDups.mp hs)
        simp [hnone, hs]

/-! ## Ranking -/

theorem rankedBefore_iff (a b : String × Nat) :
    rankedBefore a b = true ↔ b.2 < a.2 ∨ a.2 = b.2 ∧ a.1 ≤ b.1 := by
  simp [rankedBefore]

theorem ranked_perm (counts : List (String × Nat)) : (ranked counts).Perm counts :=
  List.mergeSort_perm counts rankedBefore

/-- **More frequent texts come first**, and texts of one frequency by their characters. -/
theorem pairwise_ranked (counts : List (String × Nat)) :
    (ranked counts).Pairwise fun a b => b.2 < a.2 ∨ a.2 = b.2 ∧ a.1 ≤ b.1 := by
  have hsorted := @List.pairwise_mergeSort _ rankedBefore ?_ ?_ counts
  · exact hsorted.imp fun h => (rankedBefore_iff _ _).mp h
  · intro a b c hab hbc
    rw [rankedBefore_iff] at hab hbc ⊢
    rcases hab with hab | ⟨hab, hab'⟩ <;> rcases hbc with hbc | ⟨hbc, hbc'⟩
    · exact Or.inl (by omega)
    · exact Or.inl (by omega)
    · exact Or.inl (by omega)
    · exact Or.inr ⟨hab.trans hbc, le_trans hab' hbc'⟩
  · intro a b
    rw [Bool.or_eq_true, rankedBefore_iff, rankedBefore_iff]
    rcases Nat.lt_trichotomy a.2 b.2 with hlt | heq | hgt
    · exact Or.inr (Or.inl hlt)
    · exact (le_total a.1 b.1).imp (fun h => Or.inr ⟨heq, h⟩) fun h => Or.inr ⟨heq.symm, h⟩
    · exact Or.inl (Or.inl hgt)

/-- **Ranked counts do not depend on the order of the texts.** -/
theorem ranked_tally_perm {texts texts' : List String} (h : texts.Perm texts') :
    ranked (tally texts) = ranked (tally texts') := by
  have hcounts : (tally texts).Perm (tally texts') := by
    refine (List.perm_ext_iff_of_nodup (nodup_tally texts).of_map (nodup_tally texts').of_map).mpr ?_
    rintro ⟨s, n⟩
    rw [mem_tally_iff, mem_tally_iff, h.mem_iff, h.count_eq]
  have hperm : (ranked (tally texts)).Perm (ranked (tally texts')) :=
    (ranked_perm _).trans (hcounts.trans (ranked_perm _).symm)
  refine hperm.eq_of_pairwise ?_ (pairwise_ranked _) (pairwise_ranked _)
  -- texts of one frequency differ, so the order leaves no choice
  rintro ⟨s, n⟩ ⟨s', n'⟩ - - hle hge
  obtain hlt | ⟨hn, hs⟩ := hle
  · obtain hlt' | ⟨hn', -⟩ := hge
    · exact absurd hlt' (Nat.lt_asymm hlt)
    · exact absurd hn' (Nat.ne_of_lt hlt)
  · obtain hlt' | ⟨-, hs'⟩ := hge
    · exact absurd hn.symm (Nat.ne_of_gt hlt')
    · exact Prod.ext (le_antisymm hs hs') hn

end StatementTagging
