import Mathlib.Data.List.Chain
import StatementTagging.Pattern.Escape

set_option autoImplicit false

/-! # Escaped texts

An escaped text consists of *units*: a special character with a backslash before it, or a character
without a meaning of its own. The facts below are the ones that reading, splitting and recognising
patterns rest on: unescaping takes the backslashes away again (`unescape_escape`), a beginning without
special characters is seen through escaping and unescaping (`plain_prefix_escape_iff`), and the
mark `(?` of a group never occurs in an escaped text (`noGroupMark_escape`).
-/

namespace StatementTagging.Pattern

/-! ## Unit by unit -/

@[simp] theorem escape_nil : escape [] = [] := rfl

theorem escape_cons_special {c : Char} (hc : isSpecial c = true) (s : List Char) :
    escape (c :: s) = '\\' :: c :: escape s := by
  simp [escape, hc]

theorem escape_cons_plain {c : Char} (hc : isSpecial c = false) (s : List Char) :
    escape (c :: s) = c :: escape s := by
  simp [escape, hc]

@[simp] theorem escape_eq_nil_iff (s : List Char) : escape s = [] ↔ s = [] := by
  cases s with
  | nil => simp
  | cons c s =>
      cases hc : isSpecial c with
      | true => simp [escape_cons_special hc]
      | false => simp [escape_cons_plain hc]

theorem escape_append (s t : List Char) : escape (s ++ t) = escape s ++ escape t :=
  List.flatMap_append

theorem intercalate_escape_cons_cons (v w : List Char) (r : List (List Char)) :
    List.intercalate ['|'] ((v :: w :: r).map escape)
      = escape v ++ '|' :: List.intercalate ['|'] ((w :: r).map escape) := by
  rw [List.map_cons, List.map_cons, List.intercalate_cons_cons, List.append_assoc]
  rfl

/-- A character that is not special differs from every special one. -/
theorem ne_of_isSpecial_false {c d : Char} (hc : isSpecial c = false) (hd : isSpecial d = true) :
    c ≠ d := by
  rintro rfl
  rw [hc] at hd
  exact absurd hd (by decide)

theorem unescape_special {c : Char} (hc : isSpecial c = true) (s : List Char) :
    unescape ('\\' :: c :: s) = c :: unescape s := by
  rw [unescape, if_pos hc]

theorem unescape_cons {c : Char} (hc : c ≠ '\\') (s : List Char) :
    unescape (c :: s) = c :: unescape s := by
  rw [unescape]
  · rintro rfl
    exact absurd rfl hc
  · rintro d r rfl
    exact absurd rfl hc

/-- **Taking the backslashes away gives the text back.** -/
theorem unescape_escape (s : List Char) : unescape (escape s) = s := by
  induction s with
  | nil => rfl
  | cons c s ih =>
      cases hc : isSpecial c with
      | true => rw [escape_cons_special hc, unescape_special hc, ih]
      | false =>
          rw [escape_cons_plain hc, unescape_cons (ne_of_isSpecial_false hc (by decide)), ih]

/-! ## What unescaping keeps -/

theorem unescape_eq_nil_iff (s : List Char) : unescape s = [] ↔ s = [] := by
  fun_cases unescape s <;> simp_all

/-- Unescaping brings in no character. -/
theorem mem_of_mem_unescape {d : Char} (s : List Char) (hd : d ∈ unescape s) : d ∈ s := by
  fun_induction unescape s with
  | case1 => exact hd
  | case2 => exact hd
  | case3 c r hc ih =>
      rcases List.mem_cons.mp hd with rfl | hd
      · simp
      · simp [ih hd]
  | case4 c r hc ih =>
      rcases List.mem_cons.mp hd with rfl | hd
      · simp
      · exact List.mem_cons_of_mem _ (ih hd)
  | case5 c r _ _ ih =>
      rcases List.mem_cons.mp hd with rfl | hd
      · simp
      · exact List.mem_cons_of_mem _ (ih hd)

/-- Escaping brings in backslashes only. -/
theorem mem_escape_iff {d : Char} (hd : isSpecial d = false) (s : List Char) :
    d ∈ escape s ↔ d ∈ s := by
  induction s with
  | nil => simp
  | cons c s ih =>
      cases hc : isSpecial c with
      | true =>
          rw [escape_cons_special hc, List.mem_cons, List.mem_cons, List.mem_cons, ih]
          simp [ne_of_isSpecial_false hd (by decide : isSpecial '\\' = true)]
      | false => rw [escape_cons_plain hc, List.mem_cons, List.mem_cons, ih]

/-! ## Plain beginnings -/

/-- A beginning without special characters is seen through escaping. -/
theorem plain_prefix_escape_iff {m : List Char} (hm : ∀ c ∈ m, isSpecial c = false)
    (s : List Char) : m <+: escape s ↔ m <+: s := by
  induction m generalizing s with
  | nil => simp
  | cons d m ih =>
      have hd : isSpecial d = false := hm d (by simp)
      cases s with
      | nil => simp
      | cons c s =>
          cases hc : isSpecial c with
          | true =>
              have h1 : d ≠ '\\' := ne_of_isSpecial_false hd (by decide)
              have h2 : d ≠ c := ne_of_isSpecial_false hd hc
              rw [escape_cons_special hc, List.cons_prefix_cons, List.cons_prefix_cons]
              simp [h1, h2]
          | false =>
              rw [escape_cons_plain hc, List.cons_prefix_cons, List.cons_prefix_cons,
                ih (fun e he => hm e (by simp [he]))]

/-- It is seen through unescaping as well. -/
theorem plain_prefix_unescape_iff {m : List Char} (hm : ∀ c ∈ m, isSpecial c = false)
    (s : List Char) : m <+: unescape s ↔ m <+: s := by
  induction m generalizing s with
  | nil => simp
  | cons d m ih =>
      have hd : isSpecial d = false := hm d (by simp)
      have hb : d ≠ '\\' := ne_of_isSpecial_false hd (by decide)
      fun_cases unescape s with
      | case1 => simp
      | case2 => simp
      | case3 c r hc =>
          have hdc : d ≠ c := ne_of_isSpecial_false hd hc
          rw [List.cons_prefix_cons, List.cons_prefix_cons]
          simp [hb, hdc]
      | case4 c r hc => rw [List.cons_prefix_cons, List.cons_prefix_cons]; simp [hb]
      | case5 c r _ _ =>
          rw [List.cons_prefix_cons, List.cons_prefix_cons,
            ih (fun e he => hm e (by simp [he]))]

/-! ## Marks of groups -/

/-- An escaped text never begins with a special character other than a backslash. -/
theorem head_escape {d : Char} {s : List Char} (hd : d ∈ (escape s).head?) :
    d = '\\' ∨ isSpecial d = false := by
  cases s with
  | nil => simp at hd
  | cons c s =>
      cases hc : isSpecial c with
      | true =>
          rw [escape_cons_special hc, List.head?_cons, Option.mem_some_iff] at hd
          exact Or.inl hd.symm
      | false =>
          rw [escape_cons_plain hc, List.head?_cons, Option.mem_some_iff] at hd
          exact Or.inr (hd ▸ hc)

theorem not_prefix_escape_append {d : Char} (hd : isSpecial d = true) (hb : d ≠ '\\')
    (s : List Char) {t : List Char} (ht : ¬ [d] <+: t) : ¬ [d] <+: escape s ++ t := by
  cases s with
  | nil => exact ht
  | cons c s =>
      cases hc : isSpecial c with
      | true =>
          rw [escape_cons_special hc, List.cons_append, List.cons_prefix_cons]
          exact fun h => hb h.1
      | false =>
          rw [escape_cons_plain hc, List.cons_append, List.cons_prefix_cons]
          exact fun h => ne_of_isSpecial_false hc hd h.1.symm

/-- Nowhere in the text a parenthesis opens a group with a question mark. -/
def NoGroupMark (s : List Char) : Prop := s.IsChain fun c d => c = '(' → d ≠ '?'

/-- After a parenthesis in an escaped text never comes the special character that would give it a
meaning, because a backslash stands between them. -/
theorem isChain_escape_append {x : Char} (hx : isSpecial x = true) (hback : x ≠ '\\') (s : List Char)
    {t : List Char} (ht : t.IsChain fun c d => c = '(' → d ≠ x) (hhead : ∀ d ∈ t.head?, d ≠ x) :
    (escape s ++ t).IsChain fun c d => c = '(' → d ≠ x := by
  induction s with
  | nil => exact ht
  | cons c s ih =>
      have hnext : ∀ d ∈ (escape s ++ t).head?, d ≠ x := by
        intro d hd
        rw [List.head?_append] at hd
        cases hs : (escape s).head? with
        | none =>
            rw [hs] at hd
            exact hhead d hd
        | some e =>
            rw [hs] at hd
            obtain rfl := Option.some.inj hd
            rcases head_escape hs with rfl | hplain
            · exact hback.symm
            · exact ne_of_isSpecial_false hplain hx
      cases hc : isSpecial c with
      | true =>
          rw [escape_cons_special hc]
          refine List.isChain_cons.mpr ⟨fun d _ h => absurd h (by decide), ?_⟩
          exact List.isChain_cons.mpr ⟨fun d hd _ => hnext d hd, ih⟩
      | false =>
          rw [escape_cons_plain hc]
          exact List.isChain_cons.mpr ⟨fun d hd _ => hnext d hd, ih⟩

theorem noGroupMark_escape (s : List Char) : NoGroupMark (escape s) := by
  have hchain := isChain_escape_append (x := '?') (by decide) (by decide) s List.IsChain.nil (by simp)
  rwa [List.append_nil] at hchain

/-- Two groups around a text, part by part from the front. -/
theorem groups_around_eq (a v b : List Char) :
    "(?:".toList ++ a ++ [')'] ++ v ++ "(?:".toList ++ b ++ [')']
      = "(?:".toList ++ (a ++ ')' :: (v ++ ("(?:".toList ++ b ++ [')']))) := by
  simp only [List.append_assoc, List.cons_append, List.nil_append]

theorem not_noGroupMark_append (a b : List Char) : ¬ NoGroupMark (a ++ '(' :: '?' :: b) := by
  intro h
  have hpair := (List.isChain_split.mp h).2
  exact (List.isChain_cons_cons.mp hpair).1 rfl rfl

end StatementTagging.Pattern
