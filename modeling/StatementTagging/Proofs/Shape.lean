import StatementTagging.Proofs.Criterion
import StatementTagging.Proofs.Pattern.Escape
import StatementTagging.Shape

set_option autoImplicit false

/-! # Parts of compiled texts

What the recognisers of shapes see in texts that were put together from escaped parts. A backslash at
the end of an escaped part escapes nothing that follows (`escapesNext_append_escape`), so bars and
anchors between such parts are found where they were written (`alternatives_intercalate`), and the
groups around a value are split off at the only places where a group can open or close
(`twoGroups?_escaped`).
-/

namespace StatementTagging

open Pattern

/-! ## Beginnings and ends -/

theorem dropLead?_eq_some_iff (lead cs r : List Char) :
    dropLead? lead cs = some r ↔ cs = lead ++ r := by
  rw [dropLead?]
  constructor
  · intro h
    split at h
    · next hp =>
        obtain ⟨s, rfl⟩ := List.isPrefixOf_iff_prefix.mp hp
        rw [List.drop_left] at h
        rw [Option.some.inj h]
    · exact absurd h (by simp)
  · rintro rfl
    rw [if_pos (List.isPrefixOf_iff_prefix.mpr (List.prefix_append lead r)), List.drop_left]

theorem dropTail?_eq_some_iff (tail cs r : List Char) :
    dropTail? tail cs = some r ↔ cs = r ++ tail := by
  rw [dropTail?]
  constructor
  · intro h
    split at h
    · next hp =>
        obtain ⟨s, rfl⟩ := List.isSuffixOf_iff_suffix.mp hp
        rw [List.length_append, Nat.add_sub_cancel, List.take_left] at h
        rw [Option.some.inj h]
    · exact absurd h (by simp)
  · rintro rfl
    rw [if_pos (List.isSuffixOf_iff_suffix.mpr (List.suffix_append r tail)), List.length_append,
      Nat.add_sub_cancel, List.take_left]

theorem line?_eq_some_iff (cs r : List Char) :
    line? cs = some r ↔ r = cs ∧ cs ≠ [] ∧ '\n' ∉ cs := by
  rw [line?]
  constructor
  · intro h
    split at h
    · next hl =>
        simp only [isOneLine, Bool.and_eq_true, Bool.not_eq_true', List.isEmpty_eq_false_iff,
          List.contains_eq_mem, decide_eq_false_iff_not] at hl
        exact ⟨(Option.some.inj h).symm, hl⟩
    · exact absurd h (by simp)
  · rintro ⟨rfl, hne, hn⟩
    rw [if_pos (by simp [isOneLine, hne, hn])]

/-! ## Escaping across parts -/

theorem escapesNext_append_singleton (cs : List Char) (c : Char) :
    escapesNext (cs ++ [c]) = (c == '\\' && !escapesNext cs) := by
  rw [escapesNext, List.reverse_append, List.reverse_singleton, List.singleton_append]
  by_cases hc : c = '\\'
  · subst hc
    rw [List.takeWhile_cons_of_pos (by simp), List.length_cons, escapesNext]
    rcases Nat.mod_two_eq_zero_or_one (cs.reverse.takeWhile (· == '\\')).length with h | h
    · simp [h, Nat.add_mod]
    · simp [h, Nat.add_mod]
  · rw [List.takeWhile_cons_of_neg (by simpa using hc)]
    simp [hc]

/-- Backslashes come in pairs at the end of an escaped text. -/
theorem escapesNext_append_escape {a : List Char} (ha : escapesNext a = false) (s : List Char) :
    escapesNext (a ++ escape s) = false := by
  induction s generalizing a with
  | nil => simpa using ha
  | cons c s ih =>
      cases hc : isSpecial c with
      | true =>
          rw [escape_cons_special hc, List.append_cons, List.append_cons]
          refine ih ?_
          rw [escapesNext_append_singleton, escapesNext_append_singleton, ha]
          simp
      | false =>
          rw [escape_cons_plain hc, List.append_cons]
          refine ih ?_
          rw [escapesNext_append_singleton]
          simp [ne_of_isSpecial_false hc (by decide : isSpecial '\\' = true)]

theorem escapesNext_escape (s : List Char) : escapesNext (escape s) = false :=
  escapesNext_append_escape (a := []) rfl s

theorem beforeAnchor?_eq_some_iff (cs r : List Char) :
    beforeAnchor? cs = some r ↔ cs = r ++ ['$'] ∧ r ≠ [] ∧ escapesNext r = false := by
  rw [beforeAnchor?]
  constructor
  · intro h
    split at h
    · next s hs =>
        split at h
        · exact absurd h (by simp)
        · next hok =>
            obtain rfl := Option.some.inj h
            refine ⟨(dropTail?_eq_some_iff _ _ _).mp hs, ?_⟩
            simpa using hok
    · exact absurd h (by simp)
  · rintro ⟨h, hne, hesc⟩
    rw [(dropTail?_eq_some_iff _ _ _).mpr h]
    simp [hne, hesc]

/-- A dollar sign of an escaped text is no anchor. -/
theorem beforeAnchor?_append_escape {a : List Char} (ha : escapesNext a = false)
    (hend : beforeAnchor? a = none) (s : List Char) : beforeAnchor? (a ++ escape s) = none := by
  rcases List.eq_nil_or_concat' s with rfl | ⟨s, c, rfl⟩
  · simpa using hend
  · rw [Option.eq_none_iff_forall_ne_some]
    intro r hr
    obtain ⟨heq, -, hesc⟩ := (beforeAnchor?_eq_some_iff _ _).mp hr
    rw [escape_append, ← List.append_assoc] at heq
    have hbefore := escapesNext_append_escape ha s
    generalize a ++ escape s = b at heq hbefore
    cases hc : isSpecial c with
    | true =>
        -- the last character has a backslash before it that is not itself escaped
        rw [escape_cons_special hc, escape_nil, List.append_cons] at heq
        obtain ⟨rfl, -⟩ := List.append_inj' heq rfl
        rw [escapesNext_append_singleton, hbefore] at hesc
        exact absurd hesc (by decide)
    | false =>
        rw [escape_cons_plain hc, escape_nil] at heq
        obtain ⟨-, h⟩ := List.append_inj' heq rfl
        exact ne_of_isSpecial_false hc (by decide : isSpecial '$' = true) (List.head_eq_of_cons_eq h)

theorem beforeAnchor?_escape (s : List Char) : beforeAnchor? (escape s) = none :=
  beforeAnchor?_append_escape (a := []) rfl rfl s

/-! ## Bars -/

theorem splitBars_ne_nil (odd : Bool) (cs : List Char) : splitBars odd cs ≠ [] := by
  fun_cases splitBars odd cs <;> simp

theorem splitBars_cons {odd : Bool} {c : Char} (h : ¬ (c = '|' ∧ !odd)) (cs : List Char) :
    splitBars odd (c :: cs) = (splitBars (c == '\\' && !odd) cs).modifyHead (c :: ·) := by
  rw [splitBars, if_neg h]
  cases hparts : splitBars (c == '\\' && !odd) cs with
  | nil => exact absurd hparts (splitBars_ne_nil _ _)
  | cons part parts => rfl

/-- An escaped text stays in one piece. -/
theorem splitBars_escape_append (s t : List Char) :
    splitBars false (escape s ++ t) = (splitBars false t).modifyHead (escape s ++ ·) := by
  induction s with
  | nil =>
      show splitBars false t = (splitBars false t).modifyHead id
      rw [List.modifyHead_id, id]
  | cons c s ih =>
      cases hc : isSpecial c with
      | true =>
          rw [escape_cons_special hc, List.cons_append, List.cons_append,
            splitBars_cons (by decide), splitBars_cons (by simp)]
          simp only [beq_self_eq_true, Bool.not_false, Bool.and_self, Bool.not_true,
            Bool.and_false]
          rw [ih, List.modifyHead_modifyHead, List.modifyHead_modifyHead]
          rfl
      | false =>
          have hbar : c ≠ '|' := ne_of_isSpecial_false hc (by decide)
          have hback : c ≠ '\\' := ne_of_isSpecial_false hc (by decide)
          rw [escape_cons_plain hc, List.cons_append, splitBars_cons (by simp [hbar]),
            beq_eq_false_iff_ne.mpr hback, Bool.false_and, ih, List.modifyHead_modifyHead]
          rfl

theorem alternatives_escape (s : List Char) : alternatives (escape s) = [escape s] := by
  have h := splitBars_escape_append s []
  rw [List.append_nil] at h
  rw [alternatives, h, splitBars, List.modifyHead_cons, List.append_nil]

/-- **Bars between escaped texts are the places to split at.** -/
theorem alternatives_intercalate (v : List Char) (vs : List (List Char)) :
    alternatives (List.intercalate ['|'] ((v :: vs).map escape)) = (v :: vs).map escape := by
  induction vs generalizing v with
  | nil =>
      rw [List.map_singleton, List.intercalate_singleton]
      exact alternatives_escape v
  | cons w vs ih =>
      unfold alternatives at ih ⊢
      rw [intercalate_escape_cons_cons, splitBars_escape_append, splitBars, if_pos (by simp), ih,
        List.modifyHead_cons, List.append_nil]
      rfl

/-- No dollar sign of escaped texts between bars is an anchor. -/
theorem beforeAnchor?_intercalate (v : List Char) (vs : List (List Char)) :
    beforeAnchor? (List.intercalate ['|'] ((v :: vs).map escape)) = none := by
  -- the texts so far are the front `a`, which may end with a bar
  have hfront : ∀ a, escapesNext a = false → beforeAnchor? a = none →
      beforeAnchor? (a ++ List.intercalate ['|'] ((v :: vs).map escape)) = none := by
    induction vs generalizing v with
    | nil =>
        intro a ha hend
        rw [List.map_singleton, List.intercalate_singleton]
        exact beforeAnchor?_append_escape ha hend v
    | cons w vs ih =>
        intro a _ _
        rw [intercalate_escape_cons_cons, ← List.append_assoc, List.append_cons]
        refine ih w _ ?_ ?_
        · rw [escapesNext_append_singleton]
          rfl
        · rw [Option.eq_none_iff_forall_ne_some]
          intro r hr
          obtain ⟨heq, -⟩ := (beforeAnchor?_eq_some_iff _ _).mp hr
          exact absurd (List.append_inj' heq rfl).2 (by decide)
  exact hfront [] rfl rfl

theorem not_prefix_intercalate {d : Char} (hd : isSpecial d = true) (hback : d ≠ '\\')
    (hbar : d ≠ '|') (v : List Char) (vs : List (List Char)) :
    ¬ [d] <+: List.intercalate ['|'] ((v :: vs).map escape) := by
  cases vs with
  | nil =>
      rw [List.map_singleton, List.intercalate_singleton, ← List.append_nil (escape v)]
      exact not_prefix_escape_append hd hback v (by simp)
  | cons w vs =>
      rw [intercalate_escape_cons_cons]
      refine not_prefix_escape_append hd hback v ?_
      rw [List.cons_prefix_cons]
      exact fun h => hbar h.1

/-- The first alternative stands at the front, and a bar follows it if there are more. -/
theorem alternatives_eq_cons_cons {cs v w : List Char} {vs : List (List Char)}
    (h : alternatives cs = v :: w :: vs) : ∃ r, cs = v ++ '|' :: r := by
  rw [alternatives] at h
  generalize false = odd at h
  induction cs generalizing odd v with
  | nil => simp [splitBars] at h
  | cons c cs ih =>
      by_cases hbar : c = '|' ∧ !odd
      · rw [splitBars, if_pos hbar] at h
        obtain ⟨rfl, -⟩ := List.cons.inj h
        exact ⟨cs, by rw [hbar.1]; rfl⟩
      · rw [splitBars_cons hbar] at h
        cases hparts : splitBars (c == '\\' && !odd) cs with
        | nil => exact absurd hparts (splitBars_ne_nil _ _)
        | cons part parts =>
            rw [hparts, List.modifyHead_cons] at h
            obtain ⟨rfl, rfl⟩ := List.cons.inj h
            obtain ⟨r, rfl⟩ := ih _ hparts
            exact ⟨r, rfl⟩

/-! ## Groups -/

theorem isUnits_cons {c : Char} (hc : c ≠ '\\') (cs : List Char) :
    isUnits (c :: cs) = isUnits cs := by
  rw [isUnits]
  · rintro rfl
    exact absurd rfl hc
  · rintro d r rfl
    exact absurd rfl hc

theorem isUnits_escape (s : List Char) : isUnits (escape s) = true := by
  induction s with
  | nil => rfl
  | cons c s ih =>
      cases hc : isSpecial c with
      | true =>
          have hbreak : c ≠ '\n' := (ne_of_isSpecial_false (by decide) hc).symm
          rw [escape_cons_special hc, isUnits, ih]
          simpa using hbreak
      | false =>
          rw [escape_cons_plain hc, isUnits_cons (ne_of_isSpecial_false hc (by decide)), ih]

theorem wholeGroup?_eq_some_iff (cs inner : List Char) :
    wholeGroup? cs = some inner ↔
      cs = "(?:".toList ++ inner ++ [')'] ∧ isUnits inner = true := by
  rw [wholeGroup?]
  constructor
  · intro h
    obtain ⟨r, hr, hrest⟩ := Option.bind_eq_some_iff.mp h
    obtain ⟨s, hs, hinner⟩ := Option.bind_eq_some_iff.mp hrest
    split at hinner
    · next hu =>
        obtain rfl := Option.some.inj hinner
        rw [dropLead?_eq_some_iff] at hr
        rw [dropTail?_eq_some_iff] at hs
        exact ⟨by rw [hr, hs, List.append_assoc], hu⟩
    · exact absurd hinner (by simp)
  · rintro ⟨rfl, hu⟩
    have hlead : dropLead? "(?:".toList ("(?:".toList ++ inner ++ [')']) = some (inner ++ [')']) :=
      (dropLead?_eq_some_iff _ _ _).mpr (List.append_assoc _ _ _)
    have htail : dropTail? [')'] (inner ++ [')']) = some inner := (dropTail?_eq_some_iff _ _ _).mpr rfl
    rw [hlead, Option.bind_some, htail, Option.bind_some, if_pos hu]

/-- A line followed by a group. -/
structure LineAndGroup (cs lead inner : List Char) : Prop where
  eq : cs = lead ++ ("(?:".toList ++ inner ++ [')'])
  line : '\n' ∉ lead
  units : isUnits inner = true

theorem splitLastGroup_sound {cs lead inner : List Char}
    (h : splitLastGroup cs = some (lead, inner)) : LineAndGroup cs lead inner := by
  induction cs generalizing lead with
  | nil => exact absurd h (by simp [splitLastGroup])
  | cons c r ih =>
      rw [splitLastGroup] at h
      split at h
      · next lead' inner' hrest =>
          obtain ⟨rfl, rfl⟩ := Prod.mk.inj (Option.some.inj h)
          by_cases hc : c = '\n'
          · exact absurd hrest (by simp [hc])
          · rw [if_neg hc] at hrest
            obtain ⟨rfl, hline, hunits⟩ := ih hrest
            exact ⟨rfl, by simp [Ne.symm hc, hline], hunits⟩
      · obtain ⟨s, hs, hpair⟩ := Option.map_eq_some_iff.mp h
        obtain ⟨rfl, rfl⟩ := Prod.mk.inj hpair
        obtain ⟨heq, hunits⟩ := (wholeGroup?_eq_some_iff _ _).mp hs
        exact ⟨heq, by simp, hunits⟩

theorem isSome_splitLastGroup {cs lead inner : List Char} (h : LineAndGroup cs lead inner) :
    (splitLastGroup cs).isSome := by
  obtain ⟨rfl, hline, hunits⟩ := h
  induction lead with
  | nil =>
      have hwhole := (wholeGroup?_eq_some_iff _ inner).mpr ⟨rfl, hunits⟩
      show (splitLastGroup ('(' :: ("?:".toList ++ inner ++ [')']))).isSome
      rw [splitLastGroup]
      split
      · rfl
      · rw [show '(' :: ("?:".toList ++ inner ++ [')']) = "(?:".toList ++ inner ++ [')'] from rfl,
          hwhole]
        rfl
  | cons c lead ih =>
      simp only [List.mem_cons, not_or] at hline
      obtain ⟨pair, hpair⟩ := Option.isSome_iff_exists.mp (ih hline.2)
      rw [List.cons_append, splitLastGroup, if_neg (Ne.symm hline.1), hpair]
      rfl

theorem lineAndGroup?_sound {cs lead inner : List Char}
    (h : lineAndGroup? cs = some (lead, inner)) : lead ≠ [] ∧ LineAndGroup cs lead inner := by
  cases cs with
  | nil => exact absurd h (by simp [lineAndGroup?])
  | cons c r =>
      rw [lineAndGroup?] at h
      split at h
      · exact absurd h (by simp)
      · next hc =>
          obtain ⟨⟨lead', inner'⟩, hrest, hpair⟩ := Option.map_eq_some_iff.mp h
          obtain ⟨rfl, rfl⟩ := Prod.mk.inj hpair
          obtain ⟨rfl, hline, hunits⟩ := splitLastGroup_sound hrest
          exact ⟨by simp, rfl, by simp [Ne.symm hc, hline], hunits⟩

theorem isSome_lineAndGroup? {cs lead inner : List Char} (hne : lead ≠ [])
    (h : LineAndGroup cs lead inner) : (lineAndGroup? cs).isSome := by
  obtain ⟨c, lead, rfl⟩ := List.exists_cons_of_ne_nil hne
  obtain ⟨rfl, hline, hunits⟩ := h
  simp only [List.mem_cons, not_or] at hline
  rw [List.cons_append, lineAndGroup?, if_neg (Ne.symm hline.1), Option.isSome_map]
  exact isSome_splitLastGroup ⟨rfl, hline.2, hunits⟩

/-- **Between texts without a mark there is one way to write the mark of a group.** -/
theorem groupMark_unique {v s lead inner : List Char} (hv : NoGroupMark v) (hs : NoGroupMark s)
    (h : v ++ '(' :: '?' :: ':' :: s = lead ++ '(' :: '?' :: ':' :: inner) :
    lead = v ∧ inner = s := by
  rcases List.append_eq_append_iff.mp h with ⟨k, rfl, hk⟩ | ⟨k, rfl, hk⟩
  · -- the lead would reach into the mark that was written, or behind it
    match k with
    | [] => simp_all
    | [_] => simp at hk
    | [_, _] => simp at hk
    | _ :: _ :: _ :: k =>
        simp only [List.cons_append, List.cons.injEq] at hk
        rw [hk.2.2.2] at hs
        exact absurd hs (not_noGroupMark_append _ _)
  · -- the lead would end inside of the first text
    match k with
    | [] => simp_all
    | [_] => simp at hk
    | _ :: _ :: k =>
        simp only [List.cons_append, List.cons.injEq] at hk
        rw [← hk.1, ← hk.2.1] at hv
        exact absurd hv (not_noGroupMark_append _ _)

/-- The line and the group that were written are the only ones. -/
theorem lineAndGroup?_escaped (v s : List Char) :
    lineAndGroup? (escape v ++ ("(?:".toList ++ escape s ++ [')']))
      = if v ≠ [] ∧ '\n' ∉ v then some (escape v, escape s) else none := by
  have hunique : ∀ {lead inner}, LineAndGroup (escape v ++ ("(?:".toList ++ escape s ++ [')']))
      lead inner → lead = escape v ∧ inner = escape s := by
    rintro lead inner ⟨heq, -, -⟩
    rw [← List.append_assoc (escape v), ← List.append_assoc lead] at heq
    exact groupMark_unique (noGroupMark_escape v) (noGroupMark_escape s)
      (List.append_inj' heq rfl).1
  have hbreak := mem_escape_iff (by decide : isSpecial '\n' = false) v
  split
  · next hv =>
      have hsome := isSome_lineAndGroup? (mt (escape_eq_nil_iff v).mp hv.1)
        ⟨rfl, mt hbreak.mp hv.2, isUnits_escape s⟩
      obtain ⟨⟨lead, inner⟩, hpair⟩ := Option.isSome_iff_exists.mp hsome
      obtain ⟨rfl, rfl⟩ := hunique (lineAndGroup?_sound hpair).2
      exact hpair
  · next hv =>
      rw [Option.eq_none_iff_forall_ne_some]
      rintro ⟨lead, inner⟩ hpair
      obtain ⟨hne, hgroup⟩ := lineAndGroup?_sound hpair
      obtain ⟨rfl, rfl⟩ := hunique hgroup
      exact hv ⟨mt (escape_eq_nil_iff v).mpr hne, mt hbreak.mpr hgroup.line⟩

theorem twoGroups?_cons {c : Char} (hc : c ≠ '\\') (cs : List Char) :
    twoGroups? (c :: cs)
      = ((if c = ')' then lineAndGroup? cs else none).map fun pair => ([], pair)).or
          ((twoGroups? cs).map fun (first, rest) => (c :: first, rest)) := by
  rw [twoGroups?]
  · cases (if c = ')' then lineAndGroup? cs else none) with
    | none => rfl
    | some pair => rfl
  · rintro rfl
    exact absurd rfl hc
  · rintro d r rfl
    exact absurd rfl hc

theorem twoGroups?_cons_plain {c : Char} (hback : c ≠ '\\') (hclose : c ≠ ')') (cs : List Char) :
    twoGroups? (c :: cs) = (twoGroups? cs).map fun (first, rest) => (c :: first, rest) := by
  rw [twoGroups?_cons hback, if_neg hclose, Option.map_none, Option.none_or]

/-- The first group does not close inside of an escaped text. -/
theorem twoGroups?_escape_append (s t : List Char) :
    twoGroups? (escape s ++ t)
      = (twoGroups? t).map fun (first, rest) => (escape s ++ first, rest) := by
  induction s with
  | nil => simp
  | cons c s ih =>
      cases hc : isSpecial c with
      | true =>
          have hbreak : c ≠ '\n' := (ne_of_isSpecial_false (by decide) hc).symm
          rw [escape_cons_special hc, List.cons_append, List.cons_append, twoGroups?,
            if_neg hbreak, ih, Option.map_map]
          rfl
      | false =>
          rw [escape_cons_plain hc, List.cons_append,
            twoGroups?_cons_plain (ne_of_isSpecial_false hc (by decide))
              (ne_of_isSpecial_false hc (by decide)), ih, Option.map_map]
          rfl

/-- After the line no group closes before the end of the text. -/
theorem twoGroups?_lineAndGroup (v s : List Char) :
    twoGroups? (escape v ++ ("(?:".toList ++ escape s ++ [')'])) = none := by
  have hend : twoGroups? (escape s ++ [')']) = none := by
    rw [twoGroups?_escape_append]
    rfl
  rw [twoGroups?_escape_append, List.append_assoc]
  show (twoGroups? ('(' :: '?' :: ':' :: (escape s ++ [')']))).map _ = none
  rw [twoGroups?_cons_plain (by decide) (by decide), twoGroups?_cons_plain (by decide) (by decide),
    twoGroups?_cons_plain (by decide) (by decide), hend]
  rfl

/-- **Groups around an escaped value are split off where they were written**, unless the value is
empty or crosses a line. -/
theorem twoGroups?_escaped (a v s : List Char) :
    twoGroups? (escape a ++ ')' :: (escape v ++ ("(?:".toList ++ escape s ++ [')'])))
      = if v ≠ [] ∧ '\n' ∉ v then some (escape a, escape v, escape s) else none := by
  rw [twoGroups?_escape_append, twoGroups?_cons (by decide), if_pos rfl, lineAndGroup?_escaped]
  split_ifs with hv
  · simp
  · rw [twoGroups?_lineAndGroup]
    rfl

/-- The value between two groups is a line. -/
theorem twoGroups?_line {cs first value last : List Char}
    (h : twoGroups? cs = some (first, value, last)) : value ≠ [] ∧ '\n' ∉ value := by
  fun_induction twoGroups? cs generalizing first with
  | case1 => exact absurd h (by simp)
  | case2 => exact absurd h (by simp)
  | case3 => exact absurd h (by simp)
  | case4 c r _ ih =>
      obtain ⟨⟨first', rest⟩, hrest, hpair⟩ := Option.map_eq_some_iff.mp h
      obtain ⟨-, rfl⟩ := Prod.mk.inj hpair
      exact ih hrest
  | case5 c r _ _ lead inner hlead =>
      obtain ⟨-, hpair⟩ := Prod.mk.inj (Option.some.inj h)
      obtain ⟨rfl, -⟩ := Prod.mk.inj hpair
      split at hlead
      · obtain ⟨hne, hgroup⟩ := lineAndGroup?_sound hlead
        exact ⟨hne, hgroup.line⟩
      · exact absurd hlead (by simp)
  | case6 c r _ _ _ ih =>
      obtain ⟨⟨first', rest⟩, hrest, hpair⟩ := Option.map_eq_some_iff.mp h
      obtain ⟨-, rfl⟩ := Prod.mk.inj hpair
      exact ih hrest

end StatementTagging
