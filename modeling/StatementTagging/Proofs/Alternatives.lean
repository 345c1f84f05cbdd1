import StatementTagging.Proofs.Shape

set_option autoImplicit false

/-! # Alternatives of any text

Any text, whoever wrote it, is cut into alternatives at the bars that are not escaped. Nothing is lost,
and there is no other way to do so (`cutsAtBars_iff`): the alternatives are the only texts whose join is
the whole text, which hold no bar but escaped ones, and between which all bars are bare. That the search
for backslashes may go back over the whole text does not matter, since it never gets past a bar
(`escapesNext_append_cons`).
-/

namespace StatementTagging

/-- Every bar of a text is escaped, with `front` before the text. -/
def BarsEscaped (front s : List Char) : Prop :=
  ∀ u v, s = u ++ '|' :: v → escapesNext (front ++ u) = true

/-- A text cut at its bars: a bar inside of a part is escaped, judged by the part, and a bar between two
parts is not, judged by the whole text before it. There is always a part, be it empty; the join alone
does not tell no parts from an empty one. -/
structure CutsAtBars (p : List Char) (parts : List (List Char)) : Prop where
  nonempty : parts ≠ []
  joined : List.intercalate ['|'] parts = p
  inside : ∀ part ∈ parts, BarsEscaped [] part
  between : ∀ left right, parts = left ++ right → left ≠ [] → right ≠ [] →
    escapesNext (List.intercalate ['|'] left) = false

/-! ## Runs of backslashes -/

/-- A run of backslashes does not reach back over another character. -/
theorem escapesNext_append_cons {c : Char} (hc : c ≠ '\\') (a s : List Char) :
    escapesNext (a ++ c :: s) = escapesNext s := by
  induction s using List.reverseRecOn with
  | nil =>
      rw [escapesNext_append_singleton, beq_eq_false_iff_ne.mpr hc, Bool.false_and]
      rfl
  | append_singleton s d ih =>
      rw [← List.cons_append, ← List.append_assoc, escapesNext_append_singleton,
        escapesNext_append_singleton, ih]

/-! ## Splitting behind a front -/

/-- A part whose bars are all escaped, also by what stands in front of it, stays in one piece. -/
theorem splitBars_append {a s : List Char} (h : BarsEscaped a s) (t : List Char) :
    splitBars (escapesNext a) (s ++ t) = (splitBars (escapesNext (a ++ s)) t).modifyHead (s ++ ·) := by
  induction s generalizing a with
  | nil =>
      rw [List.append_nil]
      show _ = (splitBars (escapesNext a) t).modifyHead id
      rw [List.modifyHead_id, id, List.nil_append]
  | cons c s ih =>
      have hbar : ¬ (c = '|' ∧ !escapesNext a) := by
        rintro ⟨rfl, hbare⟩
        have hesc := h [] s rfl
        rw [List.append_nil] at hesc
        simp [hesc] at hbare
      have hrest : BarsEscaped (a ++ [c]) s := by
        rintro u v rfl
        rw [List.append_assoc]
        exact h (c :: u) v rfl
      rw [List.cons_append, splitBars_cons hbar, ← escapesNext_append_singleton, ih hrest,
        List.modifyHead_modifyHead, List.append_assoc]
      rfl

/-- Either all bars are escaped, or there is a first one that is not. -/
theorem escaped_or_exists_bare (a s : List Char) :
    BarsEscaped a s ∨ ∃ part r, s = part ++ '|' :: r ∧ BarsEscaped a part
      ∧ escapesNext (a ++ part) = false := by
  induction s generalizing a with
  | nil =>
      refine Or.inl fun u v h => ?_
      simp at h
  | cons c s ih =>
      by_cases hbare : c = '|' ∧ escapesNext a = false
      · obtain ⟨rfl, ha⟩ := hbare
        refine Or.inr ⟨[], s, rfl, fun u v h => ?_, by rwa [List.append_nil]⟩
        simp at h
      · -- a bar at the front is escaped; behind it the front of the rest is one character longer
        have hfront : ∀ {s'}, BarsEscaped (a ++ [c]) s' → BarsEscaped a (c :: s') := by
          intro s' hs' u v heq
          rcases List.cons_eq_append_iff.mp heq with ⟨rfl, hbar⟩ | ⟨u', rfl, hrest⟩
          · rw [List.append_nil, ← Bool.not_eq_false]
            exact fun ha => hbare ⟨(List.cons.inj hbar).1.symm, ha⟩
          · rw [List.append_cons]
            exact hs' u' v hrest
        rcases ih (a ++ [c]) with hall | ⟨part, r, rfl, hinside, hpart⟩
        · exact Or.inl (hfront hall)
        · refine Or.inr ⟨c :: part, r, rfl, hfront hinside, ?_⟩
          rwa [List.append_cons]

/-! ## Cuts -/

namespace CutsAtBars

theorem single {s : List Char} (h : BarsEscaped [] s) : CutsAtBars s [s] where
  nonempty := List.cons_ne_nil s []
  joined := List.intercalate_singleton
  inside := List.forall_mem_singleton.mpr h
  between := by
    intro left right heq hleft hright
    -- a single part has no place between parts
    have hlength := congrArg List.length heq
    rw [List.length_append, List.length_singleton] at hlength
    have := List.length_pos_of_ne_nil hleft
    have := List.length_pos_of_ne_nil hright
    omega

theorem cons {part r : List Char} {parts : List (List Char)} (hinside : BarsEscaped [] part)
    (hbare : escapesNext part = false) (h : CutsAtBars r parts) :
    CutsAtBars (part ++ '|' :: r) (part :: parts) where
  nonempty := List.cons_ne_nil part parts
  joined := by
    obtain ⟨next, parts, rfl⟩ := List.exists_cons_of_ne_nil h.nonempty
    rw [List.intercalate_cons_cons, h.joined, List.append_assoc]
    rfl
  inside := List.forall_mem_cons.mpr ⟨hinside, h.inside⟩
  between := by
    intro left right heq hleft hright
    obtain ⟨first, left, rfl⟩ := List.exists_cons_of_ne_nil hleft
    obtain ⟨rfl, hrest⟩ := List.cons.inj heq
    match left with
    | [] => rwa [List.intercalate_singleton]
    | next :: left =>
        rw [List.intercalate_cons_cons, List.append_assoc]
        exact (escapesNext_append_cons (by decide) part _).trans
          (h.between _ _ hrest (List.cons_ne_nil next left) hright)

/-- Behind the first bar between parts there is a text cut in the same way. -/
theorem tail {p part next : List Char} {parts : List (List Char)}
    (h : CutsAtBars p (part :: next :: parts)) :
    p = part ++ '|' :: List.intercalate ['|'] (next :: parts) ∧ escapesNext part = false
      ∧ CutsAtBars (List.intercalate ['|'] (next :: parts)) (next :: parts) := by
  have hbare := h.between [part] (next :: parts) rfl (List.cons_ne_nil _ _) (List.cons_ne_nil _ _)
  rw [List.intercalate_singleton] at hbare
  refine ⟨?_, hbare, List.cons_ne_nil _ _, rfl, (List.forall_mem_cons.mp h.inside).2, ?_⟩
  · rw [← h.joined, List.intercalate_cons_cons, List.append_assoc]
    rfl
  · intro left right heq hleft hright
    have hlonger := h.between (part :: left) right (by rw [heq]; rfl) (List.cons_ne_nil _ _) hright
    obtain ⟨first, left, rfl⟩ := List.exists_cons_of_ne_nil hleft
    rw [List.intercalate_cons_cons, List.append_assoc] at hlonger
    exact (escapesNext_append_cons (by decide) part _).symm.trans hlonger

end CutsAtBars

/-! ## The main result -/

/-- A bare bar ends the first alternative. -/
theorem alternatives_append_bar {part : List Char} (hinside : BarsEscaped [] part)
    (hbare : escapesNext part = false) (r : List Char) :
    alternatives (part ++ '|' :: r) = part :: alternatives r := by
  have h := splitBars_append (a := []) hinside ('|' :: r)
  rw [List.nil_append, hbare, splitBars, if_pos ⟨rfl, rfl⟩, List.modifyHead_cons, List.append_nil] at h
  exact h

/-- A text without bare bars is its only alternative. -/
theorem alternatives_of_escaped {s : List Char} (h : BarsEscaped [] s) : alternatives s = [s] := by
  have hsplit := splitBars_append (a := []) h []
  rw [List.append_nil, List.nil_append, splitBars, List.modifyHead_cons, List.append_nil] at hsplit
  exact hsplit

theorem cutsAtBars_alternatives (p : List Char) : CutsAtBars p (alternatives p) := by
  rcases escaped_or_exists_bare [] p with hescaped | ⟨part, r, rfl, hinside, hbare⟩
  · rw [alternatives_of_escaped hescaped]
    exact CutsAtBars.single hescaped
  · rw [alternatives_append_bar hinside hbare]
    exact CutsAtBars.cons hinside hbare (cutsAtBars_alternatives r)
termination_by p.length

/-- **The alternatives of a text are its only cut at bars.** -/
theorem cutsAtBars_iff (p : List Char) (parts : List (List Char)) :
    CutsAtBars p parts ↔ parts = alternatives p := by
  constructor
  · intro h
    induction parts generalizing p with
    | nil => exact absurd rfl h.nonempty
    | cons part parts ih =>
        have hinside := h.inside part List.mem_cons_self
        cases parts with
        | nil =>
            rw [← h.joined, List.intercalate_singleton, alternatives_of_escaped hinside]
        | cons next parts =>
            obtain ⟨rfl, hbare, htail⟩ := h.tail
            rw [alternatives_append_bar hinside hbare, ← ih _ htail]
  · rintro rfl
    exact cutsAtBars_alternatives p

/-- Of these bars the first is escaped and the second is not. -/
example : alternatives "A\\|B\\\\|C".toList = ["A\\|B\\\\".toList, ['C']] := by decide

end StatementTagging
