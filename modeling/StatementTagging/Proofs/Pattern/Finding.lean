import StatementTagging.Proofs.Pattern.Matching

set_option autoImplicit false

/-! # What composed patterns find

Each of the eight shapes that tests of texts are compiled to is a pattern, and what the search for it
finds is a property of the text searched (`Finds`).

Two shapes find more or less than they seem to. A dollar sign also holds before a line break at the very
end of the text. And a dot does not cross line breaks, so that the test for not containing only
looks at the occurrences that begin on the first line.
-/

namespace StatementTagging.Pattern

/-! ## What patterns find -/

/-- The text is a pattern, and the search for it succeeds in exactly the texts with the property. -/
def Finds (source : List Char) (P : List Char → Prop) : Prop :=
  ∃ q, read source = .ok q ∧ ∀ t, matchesIn q t = true ↔ P t

theorem Finds.congr {source : List Char} {P Q : List Char → Prop} (h : Finds source P)
    (hPQ : ∀ t, P t ↔ Q t) : Finds source Q := by
  obtain ⟨q, hq, hP⟩ := h
  exact ⟨q, hq, fun t => (hP t).trans (hPQ t)⟩

/-- A text begins with two parts when the second one follows the first. -/
theorem append_prefix_iff (a b s : List Char) : a ++ b <+: s ↔ a <+: s ∧ b <+: s.drop a.length := by
  constructor
  · rintro ⟨r, rfl⟩
    rw [List.append_assoc, List.drop_left]
    exact ⟨List.prefix_append a _, List.prefix_append b r⟩
  · rintro ⟨⟨r, rfl⟩, hb⟩
    rw [List.drop_left] at hb
    exact (List.prefix_append_right_inj a).mpr hb

theorem isSome_run_literalNode_iff (s : List Char) (k : Continuation) (p : Place) :
    ((literalNode s).run k p).isSome ↔ s <+: p.rest ∧ (k (p.past s)).isSome := by
  rw [run_literalNode]
  by_cases h : s <+: p.rest
  · simp [h]
  · simp [h]

theorem isSome_run_literalNode_some_iff (s : List Char) (p : Place) :
    ((literalNode s).run some p).isSome ↔ s <+: p.rest := by
  rw [isSome_run_literalNode_iff]
  simp

theorem isSome_run_literals_iff (s : List Char) (ns : List Node) (k : Continuation) (p : Place) :
    ((Node.sequence (s.map (Node.char · .exact) ++ ns)).run k p).isSome
      ↔ s <+: p.rest ∧ ((Node.sequence ns).run k (p.past s)).isSome := by
  rw [run_sequence_append]
  exact isSome_run_literalNode_iff s _ p

/-- The end of the text, or the place before a line break that ends it, comes after `s`. -/
theorem isSome_run_literals_lastLineEnd_iff (s : List Char) (p : Place) :
    ((Node.sequence (s.map (Node.char · .exact) ++ [.anchor .lastLineEnd])).run some p).isSome
      ↔ p.rest = s ∨ p.rest = s ++ ['\n'] := by
  rw [isSome_run_literals_iff]
  have hend : ((Node.sequence [.anchor .lastLineEnd]).run some (p.past s)).isSome
      ↔ p.rest.drop s.length = [] ∨ p.rest.drop s.length = ['\n'] := by
    show (if Anchor.lastLineEnd.holds (p.past s) = true then some (p.past s) else none).isSome ↔ _
    simp [Anchor.holds, Place.past]
  rw [hend]
  constructor
  · rintro ⟨⟨r, hr⟩, h⟩
    rw [← hr, List.drop_left] at h
    rcases h with rfl | rfl
    · exact Or.inl (by rw [← hr, List.append_nil])
    · exact Or.inr hr.symm
  · rintro (h | h)
    · rw [h]
      exact ⟨List.prefix_refl s, Or.inl (List.drop_length)⟩
    · rw [h, List.drop_left]
      exact ⟨List.prefix_append s _, Or.inr rfl⟩

/-- A pattern that begins at the start of the text is only run there. -/
theorem matchesIn_textStart_iff (ns : List Node) (groups : Nat) (t : List Char) :
    matchesIn ⟨.sequence (.anchor .textStart :: ns), groups⟩ t = true
      ↔ ((Node.sequence ns).run some (placeBetween groups [] t)).isSome := by
  have hrun : ∀ a b, ((Node.sequence (.anchor .textStart :: ns)).run some
      (placeBetween groups a b)).isSome
        ↔ a = [] ∧ ((Node.sequence ns).run some (placeBetween groups a b)).isSome := by
    intro a b
    show (if (placeBetween groups a b).before.isEmpty = true then _ else none).isSome ↔ _
    cases a with
    | nil => simp [placeBetween]
    | cons c a => simp [placeBetween]
  rw [matchesIn_iff]
  simp only [hrun]
  constructor
  · rintro ⟨a, b, rfl, rfl, h⟩
    exact h
  · intro h
    exact ⟨[], t, rfl, rfl, h⟩

/-- A text contains `s` when `s` comes next at some place of it. -/
theorem infix_iff_exists_place (s t : List Char) : s <:+: t ↔ ∃ a b, t = a ++ b ∧ s <+: b := by
  rw [List.infix_iff_prefix_suffix]
  constructor
  · rintro ⟨b, hb, a, rfl⟩
    exact ⟨a, b, rfl, hb⟩
  · rintro ⟨a, b, rfl, hb⟩
    exact ⟨b, hb, List.suffix_append a b⟩

/-- A pattern that goes on exactly where `s` comes next is found in the texts that contain `s`. -/
theorem matchesIn_infix_iff {n : Node} {groups : Nat} {s : List Char}
    (h : ∀ p, (n.run some p).isSome ↔ s <+: p.rest) (t : List Char) :
    matchesIn ⟨n, groups⟩ t = true ↔ s <:+: t := by
  rw [matchesIn_iff, infix_iff_exists_place]
  simp only [h]
  rfl

/-- A pattern that refuses what its look-ahead finds at the start of the text. -/
theorem finds_notAhead {body : List Char} {ts : List Token} {items : List Item}
    (hts : tokens (body ++ [')']) = ts ++ [.plain ')']) (h : ReadsAs {} ts items {}) :
    Finds ("^(?!".toList ++ body ++ [')']) (fun t =>
      ¬ ((Node.sequence (items.map (·.node))).run some (placeBetween 0 [] t)).isSome) := by
  have hts' : tokens ("^(?!".toList ++ body ++ [')'])
      = [.plain '^'] ++ .plain '(' :: .plain '?' :: .plain '!' :: (ts ++ [.plain ')']) := by
    show tokens ('^' :: '(' :: '?' :: '!' :: (body ++ [')'])) = _
    iterate 4 rw [tokens_cons (by decide)]
    rw [hts]
    rfl
  have hread := read_of_readsAs hts' (ReadsAs.textStart.append h.notAhead fun _ _ => rfl) rfl rfl rfl
  refine ⟨_, hread, fun t => ?_⟩
  refine (matchesIn_textStart_iff _ _ t).trans ?_
  show ((Node.ahead true (.sequence (items.map (·.node)))).run
    (fun q => (Node.sequence []).run some q) (placeBetween 0 [] t)).isSome ↔ _
  rw [run_notAhead]
  by_cases hb : ((Node.sequence (items.map (·.node))).run some (placeBetween 0 [] t)).isSome = true
  · rw [if_pos hb]
    exact ⟨fun h => absurd h (by simp), fun h => absurd hb h⟩
  · rw [if_neg hb]
    exact ⟨fun _ => hb, fun _ => rfl⟩

/-! ## The eight shapes -/

theorem finds_beginsWith (v : List Char) : Finds ('^' :: escape v) (fun t => v <+: t) := by
  have hts : tokens ('^' :: escape v) = [.plain '^'] ++ v.map literalToken := by
    rw [tokens_cons (by decide), tokens_escape]
    rfl
  have hread := read_of_readsAs hts
    (ReadsAs.textStart.append (ReadsAs.literals v) fun _ => greedFree_literals_append v) rfl rfl rfl
  refine ⟨_, hread, fun t => ?_⟩
  rw [List.map_append, map_node_literalItem]
  refine (matchesIn_textStart_iff _ _ t).trans ?_
  exact isSome_run_literalNode_some_iff v _

theorem finds_endsWith (v : List Char) :
    Finds (escape v ++ ['$']) (fun t => v <:+ t ∨ v ++ ['\n'] <:+ t) := by
  have hts : tokens (escape v ++ ['$']) = v.map literalToken ++ [.plain '$'] := by
    rw [tokens_escape_append]
    rfl
  have hread := read_of_readsAs hts
    ((ReadsAs.literals v).append ReadsAs.lastLineEnd fun _ _ => rfl) rfl rfl rfl
  refine ⟨_, hread, fun t => ?_⟩
  rw [List.map_append, map_node_literalItem, matchesIn_iff]
  simp only [List.map_cons, List.map_nil, isSome_run_literals_lastLineEnd_iff]
  constructor
  · rintro ⟨a, b, rfl, h⟩
    rcases h with h | h
    · obtain rfl : b = v := h
      exact Or.inl (List.suffix_append a b)
    · obtain rfl : b = v ++ ['\n'] := h
      exact Or.inr (List.suffix_append a _)
  · rintro (⟨a, rfl⟩ | ⟨a, rfl⟩)
    · exact ⟨a, v, rfl, Or.inl rfl⟩
    · exact ⟨a, v ++ ['\n'], rfl, Or.inr rfl⟩

theorem finds_contains (v : List Char) : Finds (escape v) (fun t => v <:+: t) := by
  have hread := read_of_readsAs (tokens_escape v) (ReadsAs.literals v) rfl rfl rfl
  refine ⟨_, hread, fun t => ?_⟩
  rw [sequence_map_literalItem]
  exact matchesIn_infix_iff (isSome_run_literalNode_some_iff v) t

/-- The dot before the value stays on the first line. -/
theorem finds_doesNotContain (v : List Char) :
    Finds ("^(?!.*".toList ++ escape v ++ [')']) (fun t => ∀ a b, t = a ++ v ++ b → '\n' ∈ a) := by
  have hts : tokens (('.' :: '*' :: escape v) ++ [')'])
      = ([.plain '.', .plain '*'] ++ v.map literalToken) ++ [.plain ')'] := by
    show tokens ('.' :: '*' :: (escape v ++ [')'])) = _
    rw [tokens_cons (by decide), tokens_cons (by decide), tokens_escape_append]
    rfl
  have hbody : ReadsAs {} ([.plain '.', .plain '*'] ++ v.map literalToken) _ {} :=
    ReadsAs.anyLine.append (ReadsAs.literals v) fun _ => greedFree_literals_append v
  refine (finds_notAhead hts hbody).congr fun t => ?_
  rw [List.map_append, map_node_literalItem]
  have hline : ((Node.sequence (.rounds 0 none .greedy (.any false)
        :: v.map (Node.char · .exact))).run some (placeBetween 0 [] t)).isSome
      ↔ ∃ a, a <+: t ∧ '\n' ∉ a ∧ v <+: t.drop a.length := by
    show ((Node.rounds 0 none .greedy (.any false)).run (fun q => (literalNode v).run some q)
      _).isSome ↔ _
    simp only [isSome_run_anyLine_iff, isSome_run_literalNode_some_iff]
    rfl
  refine (not_congr hline).trans ?_
  constructor
  · rintro h a b rfl
    by_contra hn
    refine h ⟨a, ?_, hn, ?_⟩
    · rw [List.append_assoc]
      exact List.prefix_append a _
    · rw [List.append_assoc, List.drop_left]
      exact List.prefix_append v b
  · rintro h ⟨a, ⟨r, rfl⟩, hn, hv⟩
    rw [List.drop_left] at hv
    obtain ⟨b, rfl⟩ := hv
    exact hn (h a b (List.append_assoc a v b).symm)

/-- Only the whole text, or the whole text before a line break at its end, equals the value. -/
theorem finds_equals (v : List Char) :
    Finds ('^' :: escape v ++ ['$']) (fun t => t = v ∨ t = v ++ ['\n']) := by
  have hts : tokens ('^' :: escape v ++ ['$'])
      = [.plain '^'] ++ (v.map literalToken ++ [.plain '$']) := by
    rw [List.cons_append, tokens_cons (by decide), tokens_escape_append]
    rfl
  have hread := read_of_readsAs hts
    (ReadsAs.textStart.append ((ReadsAs.literals v).append ReadsAs.lastLineEnd fun _ _ => rfl)
      fun rest _ => by
        rw [List.append_assoc]
        exact greedFree_literals_append v rfl)
    rfl rfl rfl
  refine ⟨_, hread, fun t => ?_⟩
  rw [List.map_append, List.map_append, map_node_literalItem]
  refine (matchesIn_textStart_iff _ _ t).trans ?_
  exact isSome_run_literals_lastLineEnd_iff v _

theorem finds_doesNotEqual (v : List Char) :
    Finds ("^(?!".toList ++ escape v ++ ['$', ')']) (fun t => t ≠ v ∧ t ≠ v ++ ['\n']) := by
  have hts : tokens ((escape v ++ ['$']) ++ [')'])
      = (v.map literalToken ++ [.plain '$']) ++ [.plain ')'] := by
    rw [List.append_assoc, tokens_escape_append, List.append_assoc]
    rfl
  have hbody : ReadsAs {} (v.map literalToken ++ [.plain '$']) _ {} :=
    (ReadsAs.literals v).append ReadsAs.lastLineEnd fun _ _ => rfl
  have hsource : "^(?!".toList ++ escape v ++ ['$', ')']
      = "^(?!".toList ++ (escape v ++ ['$']) ++ [')'] := by simp
  rw [hsource]
  refine (finds_notAhead hts hbody).congr fun t => ?_
  rw [List.map_append, map_node_literalItem, ← not_or]
  exact not_congr (isSome_run_literals_lastLineEnd_iff v _)

theorem finds_matchesPattern (v : List Char) (r : List (List Char)) :
    Finds (List.intercalate ['|'] ((v :: r).map escape)) (fun t => ∃ w ∈ v :: r, w <:+: t) := by
  refine ⟨_, read_alternatives v r, fun t => ?_⟩
  rw [matchesIn_iff]
  simp only [isSome_run_anyNode_iff, List.mem_map, exists_exists_and_eq_and,
    isSome_run_literalNode_some_iff]
  constructor
  · rintro ⟨a, b, rfl, w, hw, hb⟩
    exact ⟨w, hw, (infix_iff_exists_place w _).mpr ⟨a, b, rfl, hb⟩⟩
  · rintro ⟨w, hw, h⟩
    obtain ⟨a, b, rfl, hb⟩ := (infix_iff_exists_place w t).mp h
    exact ⟨a, b, rfl, w, hw, hb⟩

theorem finds_extractAndCompare (a v b : List Char) :
    Finds ("(?:".toList ++ escape a ++ [')'] ++ escape v ++ "(?:".toList ++ escape b ++ [')'])
      (fun t => a ++ v ++ b <:+: t) := by
  have hts : tokens ("(?:".toList ++ escape a ++ [')'] ++ escape v ++ "(?:".toList ++ escape b ++ [')'])
      = (.plain '(' :: .plain '?' :: .plain ':' :: (a.map literalToken ++ [.plain ')']))
        ++ (v.map literalToken
          ++ .plain '(' :: .plain '?' :: .plain ':' :: (b.map literalToken ++ [.plain ')'])) := by
    rw [groups_around_eq]
    show tokens ('(' :: '?' :: ':' :: (escape a ++ ')' :: (escape v
      ++ '(' :: '?' :: ':' :: (escape b ++ [')'])))) = _
    iterate 3 rw [tokens_cons (by decide)]
    rw [tokens_escape_append, tokens_cons (by decide), tokens_escape_append]
    iterate 3 rw [tokens_cons (by decide)]
    rw [tokens_escape_append]
    simp [tokens]
  have hread := read_of_readsAs hts
    ((ReadsAs.literals a).uncaptured.append
      ((ReadsAs.literals v).append (ReadsAs.literals b).uncaptured fun _ _ => rfl)
      fun rest _ => by
        rw [List.append_assoc]
        exact greedFree_literals_append v rfl)
    rfl rfl rfl
  refine ⟨_, hread, fun t => ?_⟩
  refine matchesIn_infix_iff (fun p => ?_) t
  simp only [List.map_append, map_node_literalItem]
  show ((literalNode a).run (fun q => (Node.sequence
    (v.map (Node.char · .exact) ++ [literalNode b])).run some q) p).isSome ↔ _
  rw [isSome_run_literalNode_iff, isSome_run_literals_iff, run_sequence_singleton,
    isSome_run_literalNode_some_iff, append_prefix_iff, append_prefix_iff, List.length_append,
    ← List.drop_drop, and_assoc]
  rfl

end StatementTagging.Pattern
