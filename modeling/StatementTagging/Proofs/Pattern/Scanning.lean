import Mathlib.Data.List.TakeWhile
import StatementTagging.Proofs.Pattern.Matching

set_option autoImplicit false

/-! # Patterns that scan

Backtracking only matters if something fails later on. A node *scans* by a function if, before anything
that cannot fail, it takes exactly the part of the text that the function takes from the front, and
fails if the function does (`Scans`). A class of characters does so before anything at all (`Takes`).

A sequence scans part after part if nothing in it is ever taken back (`Takes.seq`, `Scans.seq`). An
optional character or a star in front may be taken back, but to no avail if what follows refuses the
characters that they take (`Takes.optional_seq`, `run_star_of_refused`).
-/

namespace StatementTagging.Pattern

/-! ## Two notions -/

/-- A way of taking something from the front of a text. -/
abbrev Scanner := List Char → Option (List Char)

/-- The node takes what the scanner takes, whatever comes afterwards. -/
def Takes (n : Node) (f : Scanner) : Prop :=
  ∀ (k : Continuation) (p : Place), n.run k p = (f p.rest).bind fun a => k (p.past a)

/-- **The node scans**: it takes what the scanner takes if nothing fails afterwards. -/
def Scans (n : Node) (f : Scanner) : Prop :=
  ∀ (k : Continuation) (p : Place), (∀ q, (k q).isSome) →
    n.run k p = (f p.rest).bind fun a => k (p.past a)

theorem Takes.scans {n : Node} {f : Scanner} (h : Takes n f) : Scans n f := fun k p _ => h k p

theorem Scans.congr {n : Node} {f g : Scanner} (h : Scans n f) (hfg : ∀ cs, f cs = g cs) :
    Scans n g := by
  intro k p hk
  rw [h k p hk, hfg]

/-! ## Places -/

@[simp] theorem rest_past (p : Place) (a : List Char) : (p.past a).rest = p.rest.drop a.length := rfl

theorem past_append (p : Place) (a b : List Char) : p.past (a ++ b) = (p.past a).past b := by
  simp only [Place.past, List.reverse_append, List.append_assoc, List.length_append,
    List.drop_drop, Nat.add_assoc]

/-! ## Nodes -/

/-- The scanner of a single character of a class. -/
def oneChar (accepts : Char → Bool) : Scanner
  | c :: _ => if accepts c then some [c] else none
  | [] => none

/-- The scanner of a run of characters that is not empty. -/
def someChars (accepts : Char → Bool) : Scanner := fun cs =>
  if cs.takeWhile accepts = [] then none else some (cs.takeWhile accepts)

theorem takeChar_eq_oneChar (accepts : Char → Bool) (k : Continuation) (p : Place) :
    takeChar accepts k p = (oneChar accepts p.rest).bind fun a => k (p.past a) := by
  cases hp : p.rest with
  | nil => simp [takeChar, oneChar, hp]
  | cons c r =>
      have hpast : p.past [c] = p.advance c r := past_cons hp []
      by_cases hc : accepts c = true
      · simp [takeChar, oneChar, hp, hc, hpast]
      · simp [takeChar, oneChar, hp, hc]

theorem Takes.oneOf (items : List ClassItem) (rule : CaseRule) :
    Takes (.oneOf false items rule) (oneChar fun c => rule.classAccepts items c != false) :=
  takeChar_eq_oneChar _

theorem Takes.char (x : Char) : Takes (.char x .exact) (oneChar (x == ·)) :=
  takeChar_eq_oneChar _

/-- One after the other, if the first is never taken back. -/
theorem Takes.seq {m n : Node} {f g : Scanner} (hm : Takes m f) (hn : Scans n g) :
    Scans (.seq m n) fun cs => (f cs).bind fun a => (g (cs.drop a.length)).map (a ++ ·) := by
  intro k p hk
  rw [Node.run, hm]
  cases hf : f p.rest with
  | none => simp [hf]
  | some a =>
      rw [Option.bind_some, hn k _ hk, rest_past]
      simp only [hf, Option.bind_some, Option.bind_map, Function.comp_def, past_append]

/-- One after the other, if the second never fails. -/
theorem Scans.seq {m n : Node} {f : Scanner} {g : List Char → List Char} (hm : Scans m f)
    (hn : Scans n fun cs => some (g cs)) :
    Scans (.seq m n) fun cs => (f cs).map fun a => a ++ g (cs.drop a.length) := by
  intro k p hk
  have hrun : (fun q => n.run k q) = fun q => k (q.past (g q.rest)) := funext fun q => hn k q hk
  rw [Node.run, hrun, hm _ _ fun q => hk _, Option.bind_map]
  simp only [Function.comp_def, past_append, rest_past]

/-- A sequence ends with an empty node, which takes nothing. -/
theorem Scans.last {n : Node} {f : Scanner} (h : Scans n f) : Scans (.seq n .empty) f := h

theorem Scans.alt {m n : Node} {f g : Scanner} (hm : Scans m f) (hn : Scans n g) :
    Scans (.alt m n) fun cs => (f cs).or (g cs) := by
  intro k p hk
  rw [run_alt, hm k p hk, hn k p hk]
  cases hf : f p.rest with
  | none => simp [hf]
  | some a =>
      -- nothing fails afterwards, so the second alternative is not tried
      obtain ⟨q, hq⟩ := Option.isSome_iff_exists.mp (hk (p.past a))
      simp [hf, hq]

/-! ## Repetitions -/

/-- At most one round is one round, or none if that fails. -/
theorem run_optional (n : Node) (k : Continuation) (p : Place) :
    (Node.rounds 0 (some 1) .greedy n).run k p = (n.run k p).or (k p) := by
  have hleave : ∀ fuel q, greedyRounds (fun k q => n.run k q) 0 (some 1) k (fuel + 1) 1 (some p.pos) q
      = k q := by
    intro fuel q
    rw [greedyRounds, if_neg (Nat.not_lt_zero _), if_neg (by simp [roomFor])]
  show greedyRounds (fun k q => n.run k q) 0 (some 1) k (p.rest.length + 2 + 1) 0 none p = _
  have hround : greedyRounds (fun k q => n.run k q) 0 (some 1) k (p.rest.length + 2) 1 (some p.pos) = k :=
    funext (hleave (p.rest.length + 1))
  rw [greedyRounds, if_neg (Nat.not_lt_zero _), if_pos (by simp [roomFor]), Nat.zero_add, hround]
  cases n.run k p with
  | none => simp
  | some q => simp

/-- An optional node never fails. -/
theorem Scans.optional {n : Node} {f : Scanner} (h : Scans n f) :
    Scans (.rounds 0 (some 1) .greedy n) fun cs => some ((f cs).getD []) := by
  intro k p hk
  rw [run_optional, h k p hk]
  cases hf : f p.rest with
  | none => simp [hf]
  | some a =>
      obtain ⟨q, hq⟩ := Option.isSome_iff_exists.mp (hk (p.past a))
      simp [hf, hq]

/-- **An optional node is not given back** if what follows it refuses the texts that it accepts. -/
theorem Takes.optional_seq {m n : Node} {f g : Scanner} (hm : Takes m f) (hn : Scans n g)
    (hrefuse : ∀ cs, (f cs).isSome → g cs = none) :
    Scans (.seq (.rounds 0 (some 1) .greedy m) n) fun cs =>
      (g (cs.drop ((f cs).getD []).length)).map ((f cs).getD [] ++ ·) := by
  intro k p hk
  rw [Node.run, run_optional, hm, hn k p hk]
  cases hf : f p.rest with
  | none => simp [hf]
  | some a =>
      -- without the optional node nothing could follow
      have hnone : g p.rest = none := hrefuse p.rest (by rw [hf]; rfl)
      rw [Option.bind_some, hn k _ hk, rest_past, hnone, Option.bind_none, Option.or_none]
      simp only [hf, Option.getD_some, Option.bind_map, Function.comp_def, past_append]

/-- The beginnings of a text are itself and shorter ones. -/
theorem exists_inits_eq (l : List Char) :
    ∃ xs, l.inits = xs ++ [l] ∧ ∀ a ∈ xs, a <+: l ∧ a ≠ l := by
  induction l with
  | nil => exact ⟨[], rfl, fun a ha => absurd ha List.not_mem_nil⟩
  | cons c l ih =>
      obtain ⟨xs, hxs, hshort⟩ := ih
      refine ⟨[] :: xs.map (c :: ·), by rw [List.inits_cons, hxs, List.map_append]; rfl, ?_⟩
      intro a ha
      rcases List.mem_cons.mp ha with rfl | ha
      · exact ⟨List.nil_prefix, (List.cons_ne_nil _ _).symm⟩
      · obtain ⟨b, hb, rfl⟩ := List.mem_map.mp ha
        obtain ⟨hpre, hne⟩ := hshort b hb
        exact ⟨List.cons_prefix_cons.mpr ⟨rfl, hpre⟩, fun h => hne (List.cons.inj h).2⟩

/-- Of the beginnings of a text the longest is chosen, if it succeeds or no other one does. -/
theorem findSome?_longest {l : List Char} {f : List Char → Option Place}
    (h : (f l).isSome ∨ ∀ a, a <+: l → a ≠ l → f a = none) :
    l.inits.reverse.findSome? f = f l := by
  obtain ⟨xs, hxs, hshort⟩ := exists_inits_eq l
  rw [hxs, List.reverse_append, List.reverse_singleton, List.singleton_append, List.findSome?_cons]
  cases hf : f l with
  | some q => rfl
  | none =>
      have hall : ∀ a, a <+: l → a ≠ l → f a = none :=
        h.resolve_left (by rw [hf]; exact Bool.false_ne_true)
      refine List.findSome?_eq_none_iff.mpr fun a ha => ?_
      obtain ⟨hpre, hne⟩ := hshort a (List.mem_reverse.mp ha)
      exact hall a hpre hne

section Class

variable {n : Node} {accepts : Char → Bool}

theorem run_eq_takeChar (h : Takes n (oneChar accepts)) :
    (fun k q => n.run k q) = takeChar accepts := by
  funext k q
  rw [h k q, takeChar_eq_oneChar]

theorem run_star (h : Takes n (oneChar accepts)) (k : Continuation) (p : Place) :
    (Node.rounds 0 none .greedy n).run k p
      = (p.rest.takeWhile accepts).inits.reverse.findSome? fun a => k (p.past a) := by
  rw [Node.run, repetition, run_eq_takeChar h]
  exact greedyRounds_takeChar accepts k _ (Nat.le_refl 0) none p (by rw [roundsFuel]; omega) (by simp)

/-- **A star is not taken back** if what follows it refuses the characters that it accepts. -/
theorem run_star_of_refused (h : Takes n (oneChar accepts)) {k : Continuation} {p : Place}
    (hk : ∀ a c r, p.rest = a ++ c :: r → accepts c = true → k (p.past a) = none) :
    (Node.rounds 0 none .greedy n).run k p = k (p.past (p.rest.takeWhile accepts)) := by
  rw [run_star h]
  refine findSome?_longest (Or.inr fun a hpre hne => ?_)
  obtain ⟨b, hb⟩ := hpre
  have hsplit : p.rest = a ++ (b ++ p.rest.dropWhile accepts) := by
    rw [← List.append_assoc, hb, List.takeWhile_append_dropWhile]
  cases b with
  | nil => exact absurd (by simpa using hb) hne
  | cons c b =>
      have hmem : c ∈ p.rest.takeWhile accepts := by
        rw [← hb]
        exact List.mem_append_right a List.mem_cons_self
      have hc : accepts c = true := List.mem_takeWhile_imp hmem
      exact hk a c _ hsplit hc

/-- A class with a star takes the whole run of its characters. -/
theorem Scans.star (h : Takes n (oneChar accepts)) :
    Scans (.rounds 0 none .greedy n) fun cs => some (cs.takeWhile accepts) := by
  intro k p hk
  rw [run_star h]
  exact findSome?_longest (Or.inl (hk _))

/-- A class with a plus takes the whole run of its characters, of which there must be one. -/
theorem Scans.plus (h : Takes n (oneChar accepts)) :
    Scans (.rounds 1 none .greedy n) (someChars accepts) := by
  intro k p hk
  -- the first round has to be taken, and those behind it are the rounds of a star
  have hfirst : (Node.rounds 1 none .greedy n).run k p
      = takeChar accepts (greedyRounds (takeChar accepts) 1 none k (p.rest.length + 3) 1 none) p := by
    rw [Node.run, repetition, run_eq_takeChar h]
    show greedyRounds _ 1 none k (roundsFuel 1 p) 0 none p = _
    rw [roundsFuel, show 1 + p.rest.length + 3 = p.rest.length + 3 + 1 by omega, greedyRounds,
      if_pos Nat.one_pos]
  rw [hfirst, someChars]
  rcases takeChar_cases accepts p with ⟨hrun, hstop⟩ | ⟨c, r, hp, hrun, hgo⟩
  · rw [hrun, hstop]
    rfl
  · have hrest : (p.advance c r).rest = r := rfl
    have hfuel : (p.advance c r).rest.length < p.rest.length + 3 := by
      rw [hrest, hp, List.length_cons]
      omega
    rw [hrun, hgo, if_neg (List.cons_ne_nil _ _), Option.bind_some, past_cons hp,
      greedyRounds_takeChar accepts k _ (Nat.le_refl 1) none _ hfuel (by simp), hrest]
    exact findSome?_longest (Or.inl (hk _))

end Class

end StatementTagging.Pattern
