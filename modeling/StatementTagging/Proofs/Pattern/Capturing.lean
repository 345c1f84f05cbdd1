import StatementTagging.Proofs.Pattern.Finding

set_option autoImplicit false

/-! # What composed patterns capture

The patterns that extractions are compiled to have one group, which takes a part of a line between two
literal texts. The search is leftmost, and among the parts that begin at one place the group takes the
first in the order in which its repetition is left (`firstGap_around`). A place where the first text
stands, but from which the second one cannot be reached within the line, is passed over.

A group that takes as little as possible so takes the shortest part (`captures_lazy`). One that takes as
much as possible takes the rest of the line, if nothing comes after it (`captures_greedy`).
-/

namespace StatementTagging.Pattern

/-! ## Gaps -/

/-- The part `g` of a line of the text stands between the texts `x` and `y`, of which the first one
begins at place `i`. -/
def IsGap (x y t : List Char) (i : Nat) (g : List Char) : Prop :=
  '\n' ∉ g ∧ ∃ a b, t = a ++ x ++ g ++ y ++ b ∧ a.length = i

/-- Of all gaps between two texts this is one at the first place, and no other one at that place is
better than it. Without gaps there is none. -/
def FirstGap (better : List Char → List Char → Prop) (x y t : List Char) :
    Option (List Char) → Prop
  | none => ∀ i g, ¬ IsGap x y t i g
  | some g => ∃ i, IsGap x y t i g ∧ (∀ j h, IsGap x y t j h → i ≤ j)
      ∧ ∀ h, IsGap x y t i h → ¬ better h g

/-- The first gap, and the shortest at its place. -/
abbrev ShortestGap : List Char → List Char → List Char → Option (List Char) → Prop :=
  FirstGap fun g h => g.length < h.length

/-- The rest of the line after the first occurrence of `x`: no longer part of a line follows it.
Nothing if `x` does not occur. -/
def LineAfter (x t : List Char) : Option (List Char) → Prop
  | none => ¬ x <:+: t
  | some g => ∃ a b, t = a ++ x ++ g ++ b ∧ '\n' ∉ g
      ∧ (∀ c d, t = c ++ x ++ d → a.length ≤ c.length)
      ∧ ∀ h d, t = a ++ x ++ h ++ d → '\n' ∉ h → h.length ≤ g.length

/-- The text is a pattern, and what its first group captures in a text is as described. -/
def Captures (source : List Char) (describes : List Char → Option (List Char) → Prop) : Prop :=
  ∃ q, read source = .ok q ∧ ∀ t, describes t (firstGroup? q t)

/-- A gap at the place between `a` and `b`. -/
theorem isGap_append_iff (x y a b g : List Char) :
    IsGap x y (a ++ b) a.length g
      ↔ x <+: b ∧ g ∈ lineStarts (b.drop x.length) ∧ y <+: (b.drop x.length).drop g.length := by
  rw [mem_lineStarts_iff]
  constructor
  · rintro ⟨hn, a', r, hab, hlen⟩
    have hb : b = x ++ (g ++ (y ++ r)) := by
      have hab' : a ++ b = a' ++ (x ++ (g ++ (y ++ r))) := by simpa using hab
      exact (List.append_inj hab' hlen.symm).2
    subst hb
    rw [List.drop_left, List.drop_left]
    exact ⟨List.prefix_append x _, ⟨List.prefix_append g _, hn⟩, List.prefix_append y r⟩
  · rintro ⟨⟨r, rfl⟩, ⟨hg, hn⟩, hy⟩
    rw [List.drop_left] at hg hy
    obtain ⟨s, rfl⟩ := hg
    rw [List.drop_left] at hy
    obtain ⟨u, rfl⟩ := hy
    exact ⟨hn, a, u, by simp, rfl⟩

/-- Every gap is one at some place. -/
theorem IsGap.exists_append {x y t : List Char} {i : Nat} {g : List Char} (h : IsGap x y t i g) :
    ∃ a b, t = a ++ b ∧ a.length = i ∧ IsGap x y (a ++ b) a.length g := by
  obtain ⟨hn, a, b, rfl, rfl⟩ := h
  exact ⟨a, x ++ g ++ y ++ b, by simp, rfl, hn, a, b, by simp, rfl⟩

/-! ## The group -/

/-- The place between `a` and `b` with some captures. -/
def placeWith (marks : List Mark) (a b : List Char) : Place := ⟨a.reverse, b, a.length, marks⟩

theorem past_placeWith (marks : List Mark) (a s b : List Char) :
    (placeWith marks a (s ++ b)).past s = placeWith marks (a ++ s) b := by
  simp [placeWith, Place.past]

/-- The only group has captured what lies between the places where it was entered and left. -/
theorem captured?_placeWith (a g b : List Char) (r s : List Char) (h : r ++ s = a ++ g ++ b) :
    (placeWith [⟨some a.length, some (a ++ g).length⟩] r s).captured? 1 = some g := by
  have htext : (placeWith [⟨some a.length, some (a ++ g).length⟩] r s).text = a ++ (g ++ b) := by
    simp [Place.text, placeWith, h]
  have hle : a.length ≤ (a ++ g).length := by simp
  show (if a.length ≤ (a ++ g).length then some ((Place.text _ |>.drop a.length).take _) else none) = _
  rw [if_pos hle, htext, List.drop_left]
  simp

/-- A group with a part of a line in it, between two literal texts. -/
def around (x y : List Char) (line : Node) : Node :=
  .sequence (x.map (Node.char · .exact)
    ++ .capture 1 (.sequence [line]) :: y.map (Node.char · .exact))

/-- The end of a match of such a pattern, when `g` is what the group takes. -/
def aroundEnd (x y a b g : List Char) : Place :=
  (((((placeBetween 1 a b).past x).enter 1).past g).leave 1).past y

/-- The pattern succeeds behind the first of the parts of a line that lets it succeed. -/
theorem run_around {line : Node} {choices : List Char → List (List Char)}
    (hline : ∀ k p, line.run k p = (choices p.rest).findSome? fun g => k (p.past g))
    (x y a b : List Char) :
    (around x y line).run some (placeBetween 1 a b)
      = if x <+: b then
          (choices (b.drop x.length)).findSome? fun g =>
            if y <+: (b.drop x.length).drop g.length then some (aroundEnd x y a b g) else none
        else none := by
  rw [around, run_sequence_append]
  refine (run_literalNode x _ _).trans ?_
  show (if x <+: b then line.run (fun q => (literalNode y).run some (q.leave 1))
    (((placeBetween 1 a b).past x).enter 1) else none) = _
  rw [hline]
  simp only [run_literalNode]
  rfl

/-- The group has captured the part of the line that it took. -/
theorem captured?_aroundEnd (x y a b g : List Char) (h : IsGap x y (a ++ b) a.length g) :
    (aroundEnd x y a b g).captured? 1 = some g := by
  obtain ⟨hn, a', r, hab, hlen⟩ := h
  obtain ⟨rfl, rfl⟩ : a = a' ∧ b = x ++ (g ++ (y ++ r)) := by
    have hab' : a ++ b = a' ++ (x ++ (g ++ (y ++ r))) := by simpa using hab
    exact List.append_inj hab' hlen.symm
  have hend : aroundEnd x y a (x ++ (g ++ (y ++ r))) g
      = placeWith [⟨some (a ++ x).length, some (a ++ x ++ g).length⟩] (a ++ x ++ g ++ y) r := by
    rw [aroundEnd]
    show (((((placeWith (freshMarks 1) a (x ++ (g ++ (y ++ r)))).past x).enter 1).past g).leave
      1).past y = _
    rw [past_placeWith]
    show (((placeWith [⟨some (a ++ x).length, none⟩] (a ++ x) (g ++ (y ++ r))).past g).leave
      1).past y = _
    rw [past_placeWith]
    show (placeWith [⟨some (a ++ x).length, some (a ++ x ++ g).length⟩] (a ++ x ++ g)
      (y ++ r)).past y = _
    rw [past_placeWith]
  rw [hend]
  exact captured?_placeWith (a ++ x) g (y ++ r) _ _ (by simp)

/-! ## The search -/

section Search

variable {line : Node} {choices : List Char → List (List Char)}
  {better : List Char → List Char → Prop}

/-- A place where the pattern fails has no gap. -/
theorem not_isGap_of_run_around
    (hline : ∀ k p, line.run k p = (choices p.rest).findSome? fun g => k (p.past g))
    (hchoices : ∀ s g, g ∈ choices s ↔ g ∈ lineStarts s) {x y a b : List Char}
    (hrun : (around x y line).run some (placeBetween 1 a b) = none) (g : List Char) :
    ¬ IsGap x y (a ++ b) a.length g := by
  rw [isGap_append_iff, ← hchoices]
  rintro ⟨hx, hg, hy⟩
  rw [run_around hline, if_pos hx, List.findSome?_eq_none_iff] at hrun
  have hfail := hrun g hg
  rw [if_pos hy] at hfail
  cases hfail

/-- Where the pattern succeeds, it has taken a gap, and none is better. -/
theorem exists_gap_of_run_around
    (hline : ∀ k p, line.run k p = (choices p.rest).findSome? fun g => k (p.past g))
    (hchoices : ∀ s g, g ∈ choices s ↔ g ∈ lineStarts s)
    (hbetter : ∀ s, (choices s).Pairwise fun g h => ¬ better h g) (hirrefl : ∀ g, ¬ better g g)
    {x y a b : List Char} {q : Place}
    (hrun : (around x y line).run some (placeBetween 1 a b) = some q) :
    ∃ g, q = aroundEnd x y a b g ∧ IsGap x y (a ++ b) a.length g
      ∧ ∀ h, IsGap x y (a ++ b) a.length h → ¬ better h g := by
  rw [run_around hline] at hrun
  have hx : x <+: b := by
    by_contra hx
    rw [if_neg hx] at hrun
    cases hrun
  rw [if_pos hx] at hrun
  obtain ⟨l₁, g, l₂, hsplit, hend, hbefore⟩ := List.findSome?_eq_some_iff.mp hrun
  have hy : y <+: (b.drop x.length).drop g.length := by
    by_contra hy
    rw [if_neg hy] at hend
    cases hend
  rw [if_pos hy] at hend
  have hg : g ∈ choices (b.drop x.length) := by
    rw [hsplit]
    exact List.mem_append_right l₁ List.mem_cons_self
  refine ⟨g, (Option.some.inj hend).symm, ?_, ?_⟩
  · rw [isGap_append_iff, ← hchoices]
    exact ⟨hx, hg, hy⟩
  · -- what comes before the choice made does not reach the second text
    intro h hh
    rw [isGap_append_iff, ← hchoices, hsplit, List.mem_append, List.mem_cons] at hh
    obtain ⟨-, hmem, hy'⟩ := hh
    rcases hmem with hmem | rfl | hmem
    · have hfail := hbefore h hmem
      rw [if_pos hy'] at hfail
      cases hfail
    · exact hirrefl h
    · have hpair := hbetter (b.drop x.length)
      rw [hsplit, List.pairwise_append, List.pairwise_cons] at hpair
      exact hpair.2.1.1 h hmem

/-- **The group takes the first gap.** It takes a gap at the first place where there is one, and at that
place the one that comes first among the choices of its repetition. -/
theorem firstGap_around
    (hline : ∀ k p, line.run k p = (choices p.rest).findSome? fun g => k (p.past g))
    (hchoices : ∀ s g, g ∈ choices s ↔ g ∈ lineStarts s)
    (hbetter : ∀ s, (choices s).Pairwise fun g h => ¬ better h g) (hirrefl : ∀ g, ¬ better g g)
    (x y t : List Char) :
    FirstGap better x y t (firstGroup? ⟨around x y line, 1⟩ t) := by
  cases hsearch : search ⟨around x y line, 1⟩ t with
  | none =>
      have hfirst : firstGroup? ⟨around x y line, 1⟩ t = none := by
        rw [firstGroup?, hsearch]
        rfl
      have hmatch : ¬ matchesIn ⟨around x y line, 1⟩ t = true := by
        rw [matchesIn, hsearch]
        exact Bool.false_ne_true
      rw [matchesIn_iff] at hmatch
      rw [hfirst]
      intro i g h
      obtain ⟨a, b, rfl, rfl, h'⟩ := h.exists_append
      refine not_isGap_of_run_around hline hchoices ?_ g h'
      by_contra hrun
      exact hmatch ⟨a, b, rfl, Option.isSome_iff_ne_none.mpr hrun⟩
  | some q =>
      obtain ⟨a, b, rfl, hrun, hleft⟩ := leftmost_of_search hsearch
      obtain ⟨g, rfl, hgap, hbest⟩ :=
        exists_gap_of_run_around hline hchoices hbetter hirrefl hrun
      have hfirst : firstGroup? ⟨around x y line, 1⟩ (a ++ b) = some g := by
        show (search _ _).bind _ = _
        rw [hsearch]
        exact captured?_aroundEnd x y a b g hgap
      rw [hfirst]
      refine ⟨a.length, hgap, ?_, hbest⟩
      -- further to the front the pattern fails
      intro j h hj
      obtain ⟨c, d, hcd, rfl, hj'⟩ := hj.exists_append
      by_contra hlt
      have hfail := hleft c d hcd (Nat.lt_of_not_le hlt)
      exact not_isGap_of_run_around hline hchoices hfail h hj'

end Search

/-! ## The two shapes -/

theorem read_around {mark : List Token} {source : List Char} {line : Node}
    (hmark : ReadsAs { widths := [none] } mark [⟨line, false⟩] { widths := [none] })
    (hopen : ∀ (fuel : Nat) (first : Bool) (rest : List Token),
      readGroup (fuel + 1) {} first {} (mark ++ rest) = readCapture fuel {} {} (mark ++ rest))
    (x y : List Char)
    (hts : tokens source = x.map literalToken
      ++ ((.plain '(' :: (mark ++ [.plain ')'])) ++ y.map literalToken)) :
    read source = .ok ⟨around x y line, 1⟩ := by
  have hgroup : ReadsAs {} (.plain '(' :: (mark ++ [.plain ')']))
      [⟨.capture 1 (.sequence [line]), true⟩] (Progress.close { widths := [none] } 1 _) :=
    @ReadsAs.captured {} { widths := [none] } mark [⟨line, false⟩] hmark hopen
  have hall := (ReadsAs.literals x).append
    (hgroup.append (ReadsAs.literals y) fun _ => greedFree_literals_append y) fun _ _ => rfl
  have hread := read_of_readsAs hts hall rfl rfl rfl
  rw [hread, List.map_append, List.map_append, map_node_literalItem, map_node_literalItem]
  rfl

/-- **A group that takes as little as possible** takes the shortest gap. -/
theorem captures_lazy (x y : List Char) :
    Captures (escape x ++ "(.*?)".toList ++ escape y)
      (ShortestGap x y) := by
  have hts : tokens (escape x ++ "(.*?)".toList ++ escape y)
      = x.map literalToken ++ ((.plain '(' :: ([.plain '.', .plain '*', .plain '?'] ++ [.plain ')']))
        ++ y.map literalToken) := by
    rw [List.append_assoc, tokens_escape_append]
    show _ ++ tokens ('(' :: '.' :: '*' :: '?' :: ')' :: escape y) = _
    iterate 5 rw [tokens_cons (by decide)]
    rw [tokens_escape]
    rfl
  refine ⟨_, read_around ReadsAs.anyLineLazy (fun _ _ _ => rfl) x y hts, fun t => ?_⟩
  refine firstGap_around run_lazyLine (fun _ _ => Iff.rfl) (fun s => ?_) (fun g => ?_) x y t
  · exact (pairwise_lineStarts s).imp fun h => Nat.lt_asymm h
  · exact Nat.lt_irrefl _

/-- What follows an occurrence of a text begins with a part of a line, if only the empty one. -/
theorem isGap_nil_right_iff (x a b g : List Char) :
    IsGap x [] (a ++ b) a.length g ↔ '\n' ∉ g ∧ ∃ r, b = x ++ g ++ r := by
  constructor
  · rintro ⟨hn, a', r, hab, hlen⟩
    have hab' : a ++ b = a' ++ (x ++ g ++ r) := by simpa using hab
    exact ⟨hn, r, (List.append_inj hab' hlen.symm).2⟩
  · rintro ⟨hn, r, rfl⟩
    exact ⟨hn, a, r, by simp, rfl⟩

theorem lineAfter_of_firstGap {x t : List Char} {r : Option (List Char)}
    (h : FirstGap (fun g h => h.length < g.length) x [] t r) : LineAfter x t r := by
  cases r with
  | none =>
      rintro ⟨a, b, rfl⟩
      refine h a.length [] ?_
      rw [List.append_assoc, isGap_nil_right_iff]
      exact ⟨List.not_mem_nil, b, by simp⟩
  | some g =>
      obtain ⟨i, hgap, hleft, hbest⟩ := h
      obtain ⟨a, b, rfl, rfl, hgap'⟩ := hgap.exists_append
      obtain ⟨hn, s, rfl⟩ := (isGap_nil_right_iff x a b g).mp hgap'
      refine ⟨a, s, by simp, hn, ?_, ?_⟩
      · intro c d hcd
        refine hleft c.length [] ?_
        rw [hcd, List.append_assoc, isGap_nil_right_iff]
        exact ⟨List.not_mem_nil, d, by simp⟩
      · intro h d hd hh
        have hgap'' : IsGap x [] (a ++ (x ++ g ++ s)) a.length h := by
          rw [hd, List.append_assoc, List.append_assoc, isGap_nil_right_iff]
          exact ⟨hh, d, by simp⟩
        exact Nat.le_of_not_lt (hbest h hgap'')

/-- **A group that takes as much as possible** takes the rest of the line. -/
theorem captures_greedy (x : List Char) : Captures (escape x ++ "(.*)".toList) (LineAfter x) := by
  have hts : tokens (escape x ++ "(.*)".toList)
      = x.map literalToken ++ ((.plain '(' :: ([.plain '.', .plain '*'] ++ [.plain ')']))
        ++ [].map literalToken) := by
    rw [tokens_escape_append]
    rfl
  refine ⟨_, read_around ReadsAs.anyLine (fun _ _ _ => rfl) x [] hts, fun t => ?_⟩
  refine lineAfter_of_firstGap ?_
  refine firstGap_around run_greedyLine (fun _ _ => List.mem_reverse) (fun s => ?_) (fun g => ?_)
    x [] t
  · rw [List.pairwise_reverse]
    exact (pairwise_lineStarts s).imp fun h => Nat.lt_asymm h
  · exact Nat.lt_irrefl _

end StatementTagging.Pattern
