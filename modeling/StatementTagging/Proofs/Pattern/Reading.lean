import StatementTagging.Pattern.Reader
import StatementTagging.Proofs.Pattern.Escape

set_option autoImplicit false

/-! # Reading composed patterns

The patterns that tests are compiled to are put together from a few kinds of pieces: escaped texts,
anchors, groups around them, and a dot with a star. A piece *reads as* a list of items (`ReadsAs`)
when reading a sequence that begins with it comes to the same as having read these items. Pieces
are read one after the other (`ReadsAs.append`), so that the syntax of a pattern follows from that
of its pieces, and the fuel is accounted for in one place.

No options are set in these patterns, so everything is stated for the flags `{}`.
-/

namespace StatementTagging.Pattern

/-! ## Tokens -/

/-- The token of a character of an escaped text. -/
def literalToken (c : Char) : Token := if isSpecial c then .escaped c else .plain c

theorem tokens_cons {c : Char} (hc : c ≠ '\\') (s : List Char) :
    tokens (c :: s) = .plain c :: tokens s := by
  rw [tokens]
  · rintro rfl
    exact absurd rfl hc
  · rintro d r rfl
    exact absurd rfl hc

theorem tokens_escape_append (s r : List Char) :
    tokens (escape s ++ r) = s.map literalToken ++ tokens r := by
  induction s with
  | nil => rfl
  | cons c s ih =>
      cases hc : isSpecial c with
      | true =>
          rw [escape_cons_special hc, List.map_cons, literalToken, if_pos hc]
          show tokens ('\\' :: c :: (escape s ++ r)) = _
          rw [tokens, ih]
          rfl
      | false =>
          rw [escape_cons_plain hc, List.map_cons, literalToken, if_neg (by simp [hc]),
            List.cons_append, tokens_cons (ne_of_isSpecial_false hc (by decide)), ih]
          rfl

theorem tokens_escape (s : List Char) : tokens (escape s) = s.map literalToken := by
  rw [← List.append_nil (escape s), tokens_escape_append, tokens, List.append_nil]

/-! ## Items of literal characters -/

/-- The item of a character that stands for itself. -/
def literalItem (c : Char) : Item := ⟨.char c .exact, true⟩

theorem literal_toNat (c : Char) : literal {} c.toNat = .char c .exact := by
  have hv : c.toNat.isValidChar := c.valid
  rw [literal, if_pos hv, Char.ofNat_toNat]
  rfl

/-- A special character after a backslash stands for itself. -/
theorem readEscape_special (st : Progress) {c : Char} (hc : isSpecial c = true) (ts : List Token) :
    readEscape {} st c ts = .ok (literalItem c, ts) := by
  have hmem : c ∈ ['.', '*', '+', '?', '^', '$', '\x7b', '\x7d', '(', ')', '|', '[', ']', '\\'] := by
    simpa [isSpecial] using hc
  simp only [List.mem_cons, List.not_mem_nil, or_false] at hmem
  rcases hmem with
    rfl | rfl | rfl | rfl | rfl | rfl | rfl | rfl | rfl | rfl | rfl | rfl | rfl | rfl <;> rfl

/-- One literal character is one item and costs one unit of fuel. -/
theorem readSequence_literal (fuel : Nat) (first : Bool) (st : Progress) (before : List Item)
    (c : Char) (ts : List Token) :
    readSequence (fuel + 1) {} first st before (literalToken c :: ts)
      = readSequence fuel {} first st (literalItem c :: before) ts := by
  cases hc : isSpecial c with
  | true =>
      rw [literalToken, if_pos hc, readSequence, readEscape_special st hc]
      rfl
  | false =>
      -- every character that starts something in a sequence is special
      have hne : ∀ d, isSpecial d = true → c ≠ d := fun d hd => ne_of_isSpecial_false hc hd
      rw [literalToken, if_neg (by simp [hc]), readSequence]
      · simp only [Bool.false_and, Bool.false_eq_true, if_false, hne '|' (by decide),
          hne ')' (by decide), or_self, literal_toNat]
        rfl
      all_goals exact hne _ (by decide)

/-! ## Marks after a repetition

What follows a star decides how its rounds are chosen, so a piece that ends with a star reads the
same only before tokens that are no such mark. -/

/-- The tokens do not begin with a mark for the repetition before them. -/
def GreedFree (ts : List Token) : Prop := readGreed ts = (.greedy, ts)

theorem greedFree_literalToken (c : Char) (ts : List Token) : GreedFree (literalToken c :: ts) := by
  cases hc : isSpecial c with
  | true => rw [literalToken, if_pos hc]; rfl
  | false =>
      rw [literalToken, if_neg (by simp [hc]), GreedFree, readGreed]
      all_goals
        rintro r h
        injection h with h _
        injection h with h
        exact absurd h (ne_of_isSpecial_false hc (by decide))

theorem greedFree_literals_append (s : List Char) {ts : List Token} (hts : GreedFree ts) :
    GreedFree (s.map literalToken ++ ts) := by
  cases s with
  | nil => exact hts
  | cons c s => exact greedFree_literalToken c _

/-! ## Pieces -/

/-- What is known once a group of a given width has been closed. -/
def Progress.close (st : Progress) (group : Nat) (w : Width) : Progress :=
  { st with widths := st.widths.set (group - 1) (some w) }

/-- **The tokens read as the items.** Reading a sequence that begins with them leads to the state
`after` with the items added. Four units of fuel for each token are enough, and at most one is
spent for each. -/
def ReadsAs (start : Progress) (ts : List Token) (items : List Item) (after : Progress) : Prop :=
  ∀ (fuel : Nat) (first : Bool) (before : List Item) (rest : List Token),
    4 * ts.length ≤ fuel → GreedFree rest →
    ∃ left, fuel ≤ left + ts.length ∧
      readSequence fuel {} first start before (ts ++ rest)
        = readSequence left {} first after (items.reverse ++ before) rest

/-- The tokens end a sequence: nothing, a bar or a closing parenthesis comes next. -/
def EndsSequence : List Token → Prop
  | [] => True
  | t :: _ => t = .plain '|' ∨ t = .plain ')'

theorem greedFree_of_endsSequence {ts : List Token} (h : EndsSequence ts) : GreedFree ts := by
  cases ts with
  | nil => rfl
  | cons t ts => rcases h with rfl | rfl <;> rfl

theorem readSequence_end (fuel : Nat) (first : Bool) (st : Progress) (items : List Item)
    {rest : List Token} (h : EndsSequence rest) :
    readSequence (fuel + 1) {} first st items rest
      = .ok (.sequence (items.reverse.map (·.node)), st, rest) := by
  cases rest with
  | nil => rw [readSequence]
  | cons t ts => rcases h with rfl | rfl <;> rfl

namespace ReadsAs

variable {st st' st'' : Progress} {ts us : List Token} {items more : List Item}

theorem nil : ReadsAs st [] [] st :=
  fun fuel _ _ _ _ _ => ⟨fuel, Nat.le_refl _, rfl⟩

/-- One piece after another. -/
theorem append (h : ReadsAs st ts items st') (h' : ReadsAs st' us more st'')
    (hu : ∀ rest, GreedFree rest → GreedFree (us ++ rest)) :
    ReadsAs st (ts ++ us) (items ++ more) st'' := by
  intro fuel first before rest hfuel hrest
  rw [List.length_append] at hfuel
  obtain ⟨left, hl, e⟩ := h fuel first before (us ++ rest) (by omega) (hu rest hrest)
  obtain ⟨left', hl', e'⟩ := h' left first (items.reverse ++ before) rest (by omega) hrest
  refine ⟨left', by rw [List.length_append]; omega, ?_⟩
  rw [List.append_assoc, e, e', List.reverse_append, List.append_assoc]

/-- A piece that is read in one step. -/
theorem step (h : ∀ (fuel : Nat) (first : Bool) (before : List Item) (rest : List Token),
      GreedFree rest → readSequence (fuel + 4) {} first st before (ts ++ rest)
        = readSequence (fuel + 3) {} first st' (items.reverse ++ before) rest)
    (hts : ts ≠ []) : ReadsAs st ts items st' := by
  intro fuel first before rest hfuel hrest
  have hlen : 0 < ts.length := List.length_pos_of_ne_nil hts
  obtain ⟨fuel, rfl⟩ : ∃ n, fuel = n + 4 := ⟨fuel - 4, by omega⟩
  exact ⟨fuel + 3, by omega, h fuel first before rest hrest⟩

/-- A literal text. -/
theorem literals (s : List Char) : ReadsAs st (s.map literalToken) (s.map literalItem) st := by
  induction s with
  | nil => exact nil
  | cons c s ih =>
      have hc : ReadsAs st [literalToken c] [literalItem c] st :=
        step (fun fuel first before rest _ => readSequence_literal (fuel + 3) first st before c rest)
          (by simp)
      exact append hc ih fun rest hrest => greedFree_literals_append s hrest

theorem textStart : ReadsAs st [.plain '^'] [⟨.anchor .textStart, false⟩] st :=
  step (fun _ _ _ _ _ => rfl) (by simp)

theorem lastLineEnd : ReadsAs st [.plain '$'] [⟨.anchor .lastLineEnd, false⟩] st :=
  step (fun _ _ _ _ _ => rfl) (by simp)

/-- A dot with a star. -/
theorem anyLine :
    ReadsAs st [.plain '.', .plain '*'] [⟨.rounds 0 none .greedy (.any false), false⟩] st := by
  intro fuel first before rest hfuel hrest
  have hlen : [Token.plain '.', Token.plain '*'].length = 2 := rfl
  obtain ⟨fuel, rfl⟩ : ∃ n, fuel = n + 2 := ⟨fuel - 2, by omega⟩
  refine ⟨fuel, by omega, ?_⟩
  have hstar : repeatLast 0 none (⟨.any false, true⟩ :: before) rest
      = .ok (⟨.rounds 0 none .greedy (.any false), false⟩ :: before, rest) := by
    rw [repeatLast, hrest]
  show (repeatLast 0 none (⟨.any false, true⟩ :: before) rest >>= _) = _
  rw [hstar]
  rfl

/-- A dot with a star and a question mark. The question mark settles how the rounds are chosen, so that
anything may follow. -/
theorem anyLineLazy : ReadsAs st [.plain '.', .plain '*', .plain '?']
    [⟨.rounds 0 none .lazy (.any false), false⟩] st := by
  intro fuel first before rest hfuel _
  have hlen : [Token.plain '.', Token.plain '*', Token.plain '?'].length = 3 := rfl
  obtain ⟨fuel, rfl⟩ : ∃ n, fuel = n + 2 := ⟨fuel - 2, by omega⟩
  exact ⟨fuel, by omega, rfl⟩

/-- A piece to its end. -/
theorem readSequence_eq (h : ReadsAs st ts items st') (fuel : Nat) (hfuel : 4 * ts.length < fuel)
    (first : Bool) (rest : List Token) (hrest : EndsSequence rest) :
    readSequence fuel {} first st [] (ts ++ rest)
      = .ok (.sequence (items.map (·.node)), st', rest) := by
  obtain ⟨left, hl, e⟩ := h fuel first [] rest (by omega) (greedFree_of_endsSequence hrest)
  obtain ⟨left, rfl⟩ : ∃ n, left = n + 1 := ⟨left - 1, by omega⟩
  rw [e, readSequence_end left first st' _ hrest, List.append_nil, List.reverse_reverse]

/-- The body of a group, up to its closing parenthesis. -/
theorem readAlternatives_body (h : ReadsAs st ts items st') (fuel : Nat)
    (hfuel : 4 * ts.length < fuel) (rest : List Token) :
    readAlternatives (fuel + 1) {} false false st (ts ++ .plain ')' :: rest)
      = .ok (.sequence (items.map (·.node)), st', .plain ')' :: rest) := by
  have hbody : readSequence fuel {} false st [] (ts ++ .plain ')' :: rest)
      = .ok (.sequence (items.map (·.node)), st', .plain ')' :: rest) :=
    h.readSequence_eq fuel hfuel false _ (Or.inr rfl)
  rw [readAlternatives, hbody]
  rfl

/-- A group of any kind, given what reading its tokens after the opening parenthesis comes to. -/
theorem enclosed {item : Item} (us : List Token)
    (h : ∀ (fuel : Nat) (first : Bool) (rest : List Token), 4 * us.length < fuel →
      readGroup (fuel + 3) {} first st (us ++ .plain ')' :: rest) = .ok (.item item, st', rest)) :
    ReadsAs st (.plain '(' :: (us ++ [.plain ')'])) [item] st' := by
  intro fuel first before rest hfuel _
  simp only [List.length_cons, List.length_append, List.length_nil] at hfuel
  obtain ⟨fuel, rfl⟩ : ∃ n, fuel = n + 4 := ⟨fuel - 4, by omega⟩
  refine ⟨fuel + 3, by simp only [List.length_cons, List.length_append]; omega, ?_⟩
  have hgroup := h fuel (first && before.isEmpty) rest (by omega)
  rw [show (Token.plain '(' :: (us ++ [.plain ')'])) ++ rest
      = .plain '(' :: (us ++ .plain ')' :: rest) by simp]
  show (readGroup (fuel + 3) {} (first && before.isEmpty) st _ >>= _) = _
  rw [hgroup]
  rfl

/-- A group that captures nothing, given how its opening is recognised. -/
theorem group (h : ReadsAs st ts items st') (o p : Token) (wrap : Node → Node)
    (hopen : ∀ (fuel : Nat) (first : Bool) (rest : List Token),
      readGroup (fuel + 1) {} first st (o :: p :: rest) = readUncaptured fuel {} st rest wrap) :
    ReadsAs st (.plain '(' :: o :: p :: (ts ++ [.plain ')']))
      [⟨wrap (.sequence (items.map (·.node))), true⟩] st' := by
  refine enclosed (o :: p :: ts) fun fuel first rest hfuel => ?_
  simp only [List.length_cons] at hfuel
  have hbody := h.readAlternatives_body fuel (by omega) rest
  rw [List.cons_append, List.cons_append, hopen, readUncaptured, hbody]
  rfl

/-- A group that captures, given that it opens with no mark of another kind. It gets the next number,
and is open while its body is read. -/
theorem captured (h : ReadsAs { st with widths := st.widths ++ [none] } ts items st')
    (hopen : ∀ (fuel : Nat) (first : Bool) (rest : List Token),
      readGroup (fuel + 1) {} first st (ts ++ rest) = readCapture fuel {} st (ts ++ rest)) :
    ReadsAs st (.plain '(' :: (ts ++ [.plain ')']))
      [⟨.capture (st.widths.length + 1) (.sequence (items.map (·.node))), true⟩]
      (st'.close (st.widths.length + 1) (Node.sequence (items.map (·.node))).width) := by
  refine enclosed ts fun fuel first rest hfuel => ?_
  have hbody := h.readAlternatives_body fuel hfuel rest
  rw [hopen, readCapture, hbody]
  rfl

/-- A group that only holds its body together. -/
theorem uncaptured (h : ReadsAs st ts items st') :
    ReadsAs st (.plain '(' :: .plain '?' :: .plain ':' :: (ts ++ [.plain ')']))
      [⟨.sequence (items.map (·.node)), true⟩] st' :=
  h.group (.plain '?') (.plain ':') id fun _ _ _ => rfl

/-- A look-ahead for the absence of its body. -/
theorem notAhead (h : ReadsAs st ts items st') :
    ReadsAs st (.plain '(' :: .plain '?' :: .plain '!' :: (ts ++ [.plain ')']))
      [⟨.ahead true (.sequence (items.map (·.node))), true⟩] st' :=
  h.group (.plain '?') (.plain '!') (.ahead true) fun _ _ _ => rfl

end ReadsAs

/-! ## Whole patterns -/

/-- The node of a text that stands for itself. -/
def literalNode (s : List Char) : Node := .sequence (s.map (.char · .exact))

/-- The nodes of the characters of a text. -/
theorem map_node_literalItem (s : List Char) :
    (s.map literalItem).map (·.node) = s.map (Node.char · .exact) := by
  rw [List.map_map]
  rfl

theorem sequence_map_literalItem (s : List Char) :
    Node.sequence ((s.map literalItem).map (·.node)) = literalNode s := by
  rw [map_node_literalItem, literalNode]

/-- The nodes as alternatives. -/
def anyNode : List Node → Node
  | [] => .never
  | [n] => n
  | n :: m :: r => .alt n (anyNode (m :: r))

theorem read_of_readAlternatives {text : List Char} {node : Node} {after : Progress}
    (h : readAlternatives (4 * (tokens text).length + 4) {} true true {} (tokens text)
      = .ok (node, after, []))
    (hletters : after.letters = []) (hasked : after.asked = []) (huneven : after.uneven = false) :
    read text = .ok ⟨node, after.widths.length⟩ := by
  simp only [read, h]
  show (if (after.letters.contains 'a' && after.letters.contains 'u') = true then _ else _) = _
  simp [hletters, hasked, huneven]
  rfl

/-- **A pattern whose tokens read as a list of items is read as their sequence.** -/
theorem read_of_readsAs {text : List Char} {ts : List Token} {items : List Item} {after : Progress}
    (hts : tokens text = ts) (h : ReadsAs {} ts items after) (hletters : after.letters = [])
    (hasked : after.asked = []) (huneven : after.uneven = false) :
    read text = .ok ⟨.sequence (items.map (·.node)), after.widths.length⟩ := by
  refine read_of_readAlternatives ?_ hletters hasked huneven
  have hseq := h.readSequence_eq (4 * ts.length + 3) (by omega) true [] trivial
  rw [List.append_nil] at hseq
  rw [hts, readAlternatives, hseq]
  rfl

/-- The tokens of escaped texts between bars. -/
theorem tokens_alternatives (v w : List Char) (r : List (List Char)) :
    tokens (List.intercalate ['|'] ((v :: w :: r).map escape))
      = v.map literalToken
        ++ .plain '|' :: tokens (List.intercalate ['|'] ((w :: r).map escape)) := by
  rw [intercalate_escape_cons_cons, tokens_escape_append, tokens_cons (by decide)]

theorem readAlternatives_literals (v : List Char) (r : List (List Char)) (first : Bool) (fuel : Nat)
    (hfuel : 4 * (tokens (List.intercalate ['|'] ((v :: r).map escape))).length + 2 ≤ fuel) :
    readAlternatives fuel {} true first {} (tokens (List.intercalate ['|'] ((v :: r).map escape)))
      = .ok (anyNode ((v :: r).map literalNode), {}, []) := by
  -- on the texts; each bar is one level of the recursion and costs one unit of fuel
  induction r generalizing v first fuel with
  | nil =>
      have hts : tokens (List.intercalate ['|'] ([v].map escape)) = v.map literalToken := by
        rw [List.map_singleton, List.intercalate_singleton, tokens_escape]
      rw [hts] at hfuel ⊢
      obtain ⟨fuel, rfl⟩ : ∃ n, fuel = n + 1 := ⟨fuel - 1, by omega⟩
      have hlit : ReadsAs {} (v.map literalToken) (v.map literalItem) {} := ReadsAs.literals v
      have hseq := hlit.readSequence_eq fuel (by omega) first [] trivial
      rw [List.append_nil, sequence_map_literalItem] at hseq
      rw [readAlternatives, hseq]
      rfl
  | cons w r ih =>
      rw [tokens_alternatives] at hfuel ⊢
      rw [List.length_append, List.length_cons] at hfuel
      obtain ⟨fuel, rfl⟩ : ∃ n, fuel = n + 1 := ⟨fuel - 1, by omega⟩
      have hlit : ReadsAs {} (v.map literalToken) (v.map literalItem) {} := ReadsAs.literals v
      have hseq := hlit.readSequence_eq fuel (by omega) first
        (.plain '|' :: tokens (List.intercalate ['|'] ((w :: r).map escape))) (Or.inl rfl)
      rw [sequence_map_literalItem] at hseq
      have hrest := ih w false fuel (by omega)
      rw [readAlternatives, hseq]
      show (readAlternatives fuel {} true false {} _ >>= _) = _
      rw [hrest]
      rfl

/-- Escaped texts between bars are read as alternatives. -/
theorem read_alternatives (v : List Char) (r : List (List Char)) :
    read (List.intercalate ['|'] ((v :: r).map escape))
      = .ok ⟨anyNode ((v :: r).map literalNode), 0⟩ :=
  read_of_readAlternatives (readAlternatives_literals v r true _ (by omega)) rfl rfl rfl

end StatementTagging.Pattern
