import Mathlib.Data.List.Infix
import StatementTagging.Pattern.Matcher
import StatementTagging.Proofs.Pattern.Reading

set_option autoImplicit false

/-! # Running composed patterns

How the nodes of composed patterns run. A literal text goes on exactly when it comes next in the text
(`run_literalNode`). A dot with a star can be left after every beginning of the line, and tries them
from the longest to the shortest, or the other way round (`run_greedyLine`, `run_lazyLine`). The
search succeeds exactly when the pattern succeeds at some place of the text (`matchesIn_iff`), and
what it finds begins at the first such place (`leftmost_of_search`).
-/

namespace StatementTagging.Pattern

/-! ## Places -/

/-- The place after the characters `s`, if these come next. -/
def Place.past (p : Place) (s : List Char) : Place :=
  ⟨s.reverse ++ p.before, p.rest.drop s.length, p.pos + s.length, p.marks⟩

/-- The place between `a` and `b` before anything has been captured. -/
def placeBetween (groups : Nat) (a b : List Char) : Place :=
  ⟨a.reverse, b, a.length, freshMarks groups⟩

@[simp] theorem past_nil (p : Place) : p.past [] = p := rfl

theorem past_cons {p : Place} {c : Char} {r : List Char} (hp : p.rest = c :: r) (s : List Char) :
    p.past (c :: s) = (p.advance c r).past s := by
  simp only [Place.past, Place.advance, hp, List.reverse_cons, List.append_assoc,
    List.singleton_append, List.length_cons, List.drop_succ_cons, Place.mk.injEq, true_and, and_true]
  omega

/-! ## Nodes -/

theorem run_sequence_append (ns ms : List Node) (k : Continuation) (p : Place) :
    (Node.sequence (ns ++ ms)).run k p
      = (Node.sequence ns).run (fun q => (Node.sequence ms).run k q) p := by
  induction ns generalizing p with
  | nil => rfl
  | cons n ns ih =>
      show n.run (fun q => (Node.sequence (ns ++ ms)).run k q) p = n.run _ p
      simp only [ih]

theorem run_sequence_singleton (n : Node) (k : Continuation) (p : Place) :
    (Node.sequence [n]).run k p = n.run k p := rfl

/-- **A literal text** goes on behind itself if it comes next, and fails otherwise. -/
theorem run_literalNode (s : List Char) (k : Continuation) (p : Place) :
    (literalNode s).run k p = if s <+: p.rest then k (p.past s) else none := by
  induction s generalizing p with
  | nil => simp [literalNode, Node.sequence, Node.run]
  | cons c s ih =>
      show takeChar (CaseRule.exact.accepts c) (fun q => (literalNode s).run k q) p = _
      cases hp : p.rest with
      | nil => simp [takeChar, hp]
      | cons d r =>
          by_cases hcd : c = d
          · subst hcd
            have hs : (p.advance c r).rest = r := rfl
            simp only [takeChar, hp, CaseRule.accepts, beq_self_eq_true, if_true, ih, hs,
              List.cons_prefix_cons, true_and, past_cons hp]
          · simp [takeChar, hp, CaseRule.accepts, hcd, List.cons_prefix_cons]

theorem run_notAhead (n : Node) (k : Continuation) (p : Place) :
    (Node.ahead true n).run k p = if (n.run some p).isSome then none else k p := by
  cases h : n.run some p with
  | none => simp [Node.run, h]
  | some q => simp [Node.run, h]

/-- The second alternative is tried when the first one fails. -/
theorem run_alt (a b : Node) (k : Continuation) (p : Place) :
    (Node.alt a b).run k p = (a.run k p).or (b.run k p) := by
  rw [Node.run]
  cases a.run k p with
  | none => rfl
  | some q => rfl

/-! ## A dot with a star

The rounds of a dot can be left after every beginning of the line, and they are left in the order in
which they are chosen: the longest beginning first, or the shortest. -/

/-- The beginnings of the line that a text begins with, the shortest first. -/
def lineStarts (s : List Char) : List (List Char) := (s.takeWhile (· != '\n')).inits

theorem lineStarts_nil : lineStarts [] = [[]] := rfl

/-- No beginning crosses a line break. -/
theorem lineStarts_break (s : List Char) : lineStarts ('\n' :: s) = [[]] := rfl

theorem lineStarts_cons {c : Char} (hc : c ≠ '\n') (s : List Char) :
    lineStarts (c :: s) = [] :: (lineStarts s).map (c :: ·) := by
  have htake : (c :: s).takeWhile (· != '\n') = c :: s.takeWhile (· != '\n') :=
    List.takeWhile_cons_of_pos (by simp [hc])
  rw [lineStarts, htake, List.inits_cons]
  rfl

theorem mem_lineStarts_iff (s a : List Char) : a ∈ lineStarts s ↔ a <+: s ∧ '\n' ∉ a := by
  induction s generalizing a with
  | nil =>
      rw [lineStarts_nil, List.mem_singleton, List.prefix_nil]
      constructor
      · rintro rfl
        exact ⟨rfl, List.not_mem_nil⟩
      · exact And.left
  | cons c s ih =>
      by_cases hc : c = '\n'
      · subst hc
        rw [lineStarts_break, List.mem_singleton]
        cases a with
        | nil => simp
        | cons d a =>
            -- a beginning that is not empty begins with the line break
            refine ⟨fun h => absurd h (List.cons_ne_nil d a), ?_⟩
            rintro ⟨hp, hn⟩
            have hd : d = '\n' := (List.cons_prefix_cons.mp hp).1
            exact absurd (by rw [hd]; exact List.mem_cons_self) hn
      · rw [lineStarts_cons hc, List.mem_cons, List.mem_map]
        cases a with
        | nil => simp
        | cons d a =>
            simp only [List.cons_ne_nil, false_or, List.cons.injEq]
            constructor
            · rintro ⟨x, hx, rfl, rfl⟩
              obtain ⟨hp, hn⟩ := (ih x).mp hx
              refine ⟨List.cons_prefix_cons.mpr ⟨rfl, hp⟩, ?_⟩
              rw [List.mem_cons, not_or]
              exact ⟨Ne.symm hc, hn⟩
            · rintro ⟨hp, hn⟩
              obtain ⟨hd, hp'⟩ := List.cons_prefix_cons.mp hp
              exact ⟨a, (ih a).mpr ⟨hp', fun h => hn (List.mem_cons_of_mem d h)⟩, hd.symm, rfl⟩

/-- Each beginning is longer than those before it. -/
theorem pairwise_lineStarts (s : List Char) :
    (lineStarts s).Pairwise fun a b => a.length < b.length := by
  rw [lineStarts]
  induction s.takeWhile (· != '\n') with
  | nil => exact List.pairwise_singleton _ _
  | cons c r ih =>
      rw [List.inits_cons, List.pairwise_cons]
      constructor
      · intro a ha
        obtain ⟨b, -, rfl⟩ := List.mem_map.mp ha
        exact Nat.succ_pos b.length
      · exact List.Pairwise.map _ (fun a b h => Nat.succ_lt_succ h) ih

/-! ## Rounds of one character each -/

/-- What a round that takes one character does at a place, with the run of such characters there. -/
theorem takeChar_cases (accepts : Char → Bool) (p : Place) :
    ((∀ k, takeChar accepts k p = none) ∧ p.rest.takeWhile accepts = [])
      ∨ ∃ c r, p.rest = c :: r ∧ (∀ k, takeChar accepts k p = k (p.advance c r))
        ∧ p.rest.takeWhile accepts = c :: r.takeWhile accepts := by
  cases hp : p.rest with
  | nil => exact Or.inl ⟨fun k => by rw [takeChar, hp], rfl⟩
  | cons c r =>
      by_cases hc : accepts c = true
      · refine Or.inr ⟨c, r, rfl, fun k => ?_, List.takeWhile_cons_of_pos hc⟩
        simp only [takeChar, hp, if_pos hc]
      · refine Or.inl ⟨fun k => ?_, List.takeWhile_cons_of_neg hc⟩
        simp only [takeChar, hp, if_neg hc]

/-- A round that starts further to the back than the one before it may be tried. -/
theorem roomFor_of_lt {last : Option Nat} {pos : Nat} (count : Nat)
    (hlast : ∀ n, last = some n → n < pos) : (roomFor none count && last != some pos) = true := by
  have hne : last ≠ some pos := fun h => absurd (hlast pos h) (Nat.lt_irrefl _)
  rw [roomFor, Bool.true_and, bne_iff_ne]
  exact hne

/-- One more round, and leaving if that fails. -/
theorem greedyRounds_succ (body : Matcher) (k : Continuation) (fuel : Nat) {least count : Nat}
    (hcount : least ≤ count) (last : Option Nat) (p : Place) (hlast : ∀ n, last = some n → n < p.pos) :
    greedyRounds body least none k (fuel + 1) count last p
      = (body (greedyRounds body least none k fuel (count + 1) (some p.pos)) p).or (k p) := by
  rw [greedyRounds, if_neg (Nat.not_lt.mpr hcount), if_pos (roomFor_of_lt count hlast)]
  cases body (greedyRounds body least none k fuel (count + 1) (some p.pos)) p with
  | none => rfl
  | some q => rfl

/-- Leaving, and one more round if that fails. -/
theorem lazyRounds_succ (body : Matcher) (k : Continuation) (fuel count : Nat) (last : Option Nat)
    (p : Place) (hlast : ∀ n, last = some n → n < p.pos) :
    lazyRounds body 0 none k (fuel + 1) count last p
      = (k p).or (body (lazyRounds body 0 none k fuel (count + 1) (some p.pos)) p) := by
  rw [lazyRounds, if_neg (Nat.not_lt_zero _), if_pos (roomFor_of_lt count hlast)]
  cases k p with
  | none => rfl
  | some q => rfl

/-- A round that takes a character leaves less of the text, and starts in front of the next one. -/
theorem advance_progress {p : Place} {c : Char} {r : List Char} {fuel : Nat} (hp : p.rest = c :: r)
    (hfuel : p.rest.length < fuel + 1) :
    (p.advance c r).rest.length < fuel ∧ ∀ n, some p.pos = some n → n < (p.advance c r).pos := by
  constructor
  · rw [hp, List.length_cons] at hfuel
    exact Nat.lt_of_succ_lt_succ hfuel
  · rintro n ⟨⟩
    exact Nat.lt_succ_self _

/-- What comes after a round, for the beginnings of the rest of the run. -/
theorem past_comp_cons (k : Continuation) {p : Place} {c : Char} {r : List Char}
    (hp : p.rest = c :: r) :
    ((fun a => k (p.past a)) ∘ (c :: ·)) = fun a => k ((p.advance c r).past a) := by
  funext a
  show k (p.past (c :: a)) = _
  rw [past_cons hp]

/-- Rounds of one character each, beyond the least number, are left after the beginnings of the run of
accepted characters, the longest first. -/
theorem greedyRounds_takeChar (accepts : Char → Bool) (k : Continuation) (fuel : Nat)
    {least count : Nat} (hcount : least ≤ count) (last : Option Nat) (p : Place)
    (hfuel : p.rest.length < fuel) (hlast : ∀ n, last = some n → n < p.pos) :
    greedyRounds (takeChar accepts) least none k fuel count last p
      = (p.rest.takeWhile accepts).inits.reverse.findSome? fun a => k (p.past a) := by
  -- on the fuel, which is more than the rest of the text at every round
  induction fuel generalizing count last p with
  | zero => exact absurd hfuel (Nat.not_lt_zero _)
  | succ fuel ih =>
      rw [greedyRounds_succ _ k fuel hcount last p hlast]
      rcases takeChar_cases accepts p with ⟨hrun, hstop⟩ | ⟨c, r, hp, hrun, hgo⟩
      · rw [hrun, hstop]
        simp
      · obtain ⟨hnext, hpos⟩ := advance_progress hp hfuel
        have hrest : (p.advance c r).rest = r := rfl
        rw [hrun, ih (Nat.le_succ_of_le hcount) _ _ hnext hpos, hrest, hgo, List.inits_cons,
          List.reverse_cons, List.findSome?_append, ← List.map_reverse, List.findSome?_map,
          past_comp_cons k hp]
        simp

theorem lazyRounds_takeChar (accepts : Char → Bool) (k : Continuation) (fuel count : Nat)
    (last : Option Nat) (p : Place) (hfuel : p.rest.length < fuel)
    (hlast : ∀ n, last = some n → n < p.pos) :
    lazyRounds (takeChar accepts) 0 none k fuel count last p
      = (p.rest.takeWhile accepts).inits.findSome? fun a => k (p.past a) := by
  -- on the fuel, as before
  induction fuel generalizing count last p with
  | zero => exact absurd hfuel (Nat.not_lt_zero _)
  | succ fuel ih =>
      rw [lazyRounds_succ _ k fuel count last p hlast]
      rcases takeChar_cases accepts p with ⟨hrun, hstop⟩ | ⟨c, r, hp, hrun, hgo⟩
      · rw [hrun, hstop]
        simp
      · obtain ⟨hnext, hpos⟩ := advance_progress hp hfuel
        have hrest : (p.advance c r).rest = r := rfl
        rw [hrun, ih _ _ _ hnext hpos, hrest, hgo, List.inits_cons, List.findSome?_cons,
          List.findSome?_map, past_comp_cons k hp, past_nil]
        cases k p with
        | none => rfl
        | some q => rfl

/-! ## Rounds of a dot -/

/-- **A dot with a star** is left after the longest beginning of the line that lets the rest succeed. -/
theorem run_greedyLine (k : Continuation) (p : Place) :
    (Node.rounds 0 none .greedy (.any false)).run k p
      = (lineStarts p.rest).reverse.findSome? fun a => k (p.past a) := by
  rw [Node.run, repetition]
  exact greedyRounds_takeChar (· != '\n') k _ (Nat.le_refl 0) none p (by rw [roundsFuel]; omega)
    (by simp)

/-- **A dot with a star and a question mark** is left after the shortest one. -/
theorem run_lazyLine (k : Continuation) (p : Place) :
    (Node.rounds 0 none .lazy (.any false)).run k p
      = (lineStarts p.rest).findSome? fun a => k (p.past a) := by
  rw [Node.run, repetition]
  exact lazyRounds_takeChar (· != '\n') k _ 0 none p (by rw [roundsFuel]; omega) (by simp)

/-- A dot with a star can be left after every beginning of the line. -/
theorem isSome_run_anyLine_iff (k : Continuation) (p : Place) :
    ((Node.rounds 0 none .greedy (.any false)).run k p).isSome
      ↔ ∃ a, a <+: p.rest ∧ '\n' ∉ a ∧ (k (p.past a)).isSome := by
  rw [run_greedyLine, List.findSome?_isSome_iff]
  simp only [List.mem_reverse, mem_lineStarts_iff, and_assoc]

/-! ## Alternatives -/

/-- Alternatives succeed when one of them does. -/
theorem isSome_run_anyNode_iff (ns : List Node) (k : Continuation) (p : Place) :
    ((anyNode ns).run k p).isSome ↔ ∃ n ∈ ns, (n.run k p).isSome := by
  induction ns with
  | nil =>
      cases hp : p.rest with
      | nil => simp [anyNode, Node.never, Node.run, takeChar, hp]
      | cons c r => simp [anyNode, Node.never, Node.run, takeChar, hp, CaseRule.classAccepts]
  | cons n ns ih =>
      cases ns with
      | nil => simp [anyNode]
      | cons m r =>
          rw [anyNode, run_alt, Option.isSome_or, Bool.or_eq_true, ih]
          simp

/-! ## The search -/

theorem searchFrom_cons (n : Node) (groups : Nat) (before : List Char) (pos : Nat) (c : Char)
    (r : List Char) :
    n.searchFrom groups before pos (c :: r)
      = (n.run some ⟨before, c :: r, pos, freshMarks groups⟩).or
          (n.searchFrom groups (c :: before) (pos + 1) r) := by
  rw [Node.searchFrom]
  cases n.run some ⟨before, c :: r, pos, freshMarks groups⟩ with
  | none => rfl
  | some q => rfl

theorem isSome_searchFrom_iff (n : Node) (groups : Nat) (before rest : List Char) :
    (n.searchFrom groups before before.length rest).isSome
      ↔ ∃ a b, rest = a ++ b ∧
          (n.run some (placeBetween groups (before.reverse ++ a) b)).isSome := by
  induction rest generalizing before with
  | nil =>
      simp [Node.searchFrom, placeBetween]
  | cons c r ih =>
      have hnext := ih (c :: before)
      rw [List.length_cons] at hnext
      rw [searchFrom_cons, Option.isSome_or, Bool.or_eq_true, hnext]
      constructor
      · rintro (h | ⟨a, b, rfl, h⟩)
        · exact ⟨[], c :: r, rfl, by simpa [placeBetween] using h⟩
        · exact ⟨c :: a, b, rfl, by simpa [placeBetween] using h⟩
      · rintro ⟨a, b, hab, h⟩
        cases a with
        | nil =>
            obtain rfl : c :: r = b := hab
            exact Or.inl (by simpa [placeBetween] using h)
        | cons d a =>
            obtain ⟨rfl, rfl⟩ := List.cons.inj hab
            exact Or.inr ⟨a, b, rfl, by simpa [placeBetween] using h⟩

/-- What the search finds begins at the first place where the pattern succeeds. -/
theorem leftmost_of_searchFrom (n : Node) (groups : Nat) (before rest : List Char) {q : Place}
    (h : n.searchFrom groups before before.length rest = some q) :
    ∃ a b, rest = a ++ b ∧ n.run some (placeBetween groups (before.reverse ++ a) b) = some q ∧
      ∀ x y, rest = x ++ y → x.length < a.length →
        n.run some (placeBetween groups (before.reverse ++ x) y) = none := by
  induction rest generalizing before with
  | nil =>
      refine ⟨[], [], rfl, ?_, fun x y _ hx => absurd hx (Nat.not_lt_zero _)⟩
      simpa [placeBetween, Node.searchFrom] using h
  | cons c r ih =>
      rw [searchFrom_cons] at h
      have hplace : placeBetween groups (before.reverse ++ []) (c :: r)
          = ⟨before, c :: r, before.length, freshMarks groups⟩ := by simp [placeBetween]
      cases hrun : n.run some ⟨before, c :: r, before.length, freshMarks groups⟩ with
      | some q' =>
          rw [hrun] at h
          exact ⟨[], c :: r, rfl, by rw [hplace, hrun]; exact h,
            fun x y _ hx => absurd hx (Nat.not_lt_zero _)⟩
      | none =>
          rw [hrun, Option.none_or] at h
          obtain ⟨a, b, rfl, hq, hleft⟩ := ih (c :: before) h
          refine ⟨c :: a, b, rfl, ?_, ?_⟩
          · simpa using hq
          · intro x y hxy hx
            cases x with
            | nil =>
                obtain rfl : c :: (a ++ b) = y := hxy
                rw [hplace, hrun]
            | cons d x =>
                obtain ⟨rfl, hxy'⟩ := List.cons.inj hxy
                have hnone := hleft x y hxy' (Nat.lt_of_succ_lt_succ hx)
                simpa using hnone

/-- **The search is leftmost.** -/
theorem leftmost_of_search {n : Node} {groups : Nat} {text : List Char} {q : Place}
    (h : search ⟨n, groups⟩ text = some q) :
    ∃ a b, text = a ++ b ∧ n.run some (placeBetween groups a b) = some q ∧
      ∀ x y, text = x ++ y → x.length < a.length → n.run some (placeBetween groups x y) = none := by
  have hleft := leftmost_of_searchFrom n groups [] text h
  simpa using hleft

/-- **The search succeeds** exactly when the pattern succeeds at some place of the text. -/
theorem matchesIn_iff (n : Node) (groups : Nat) (text : List Char) :
    matchesIn ⟨n, groups⟩ text = true
      ↔ ∃ a b, text = a ++ b ∧ (n.run some (placeBetween groups a b)).isSome := by
  have h := isSome_searchFrom_iff n groups [] text
  simpa [matchesIn, search] using h

end StatementTagging.Pattern
