import StatementTagging.Proofs.Datum
import StatementTagging.Proofs.Json.Number
import StatementTagging.Proofs.Json.Text

set_option autoImplicit false

/-! # What is written is read back

The text of a datum, with whatever ends it behind, is read as that datum, given as much fuel as the text
has characters (`ReadsBack`). The induction is on the datum: a list or a record reads its parts one after
the other, each followed by a comma or by the line break before the closing bracket. Keys must be distinct
because an entry with a key that is there already would change the earlier one.
-/

namespace StatementTagging.Json

open Text

/-! ## Blanks -/

theorem skipSpace_newline (level : ℕ) (cs : List Char) :
    skipSpace (newline level ++ cs) = skipSpace cs := by
  refine List.dropWhile_append_of_pos fun c hc => ?_
  rcases List.mem_cons.mp hc with rfl | hc
  · rfl
  · rw [List.eq_of_mem_replicate hc]
    rfl

theorem skipSpace_cons {c : Char} (hc : isSpace c = false) (r : List Char) :
    skipSpace (c :: r) = c :: r :=
  List.dropWhile_cons_of_neg (by rw [hc]; exact Bool.false_ne_true)

theorem ended_newline (level : ℕ) (cs : List Char) : Ended (newline level ++ cs) := by
  rintro c ⟨⟩
  exact Or.inr rfl

/-- A written value does not begin with a blank, the closing bracket of a list or a byte order mark. -/
def Opens (cs : List Char) : Prop :=
  ∃ c r, cs = c :: r ∧ isSpace c = false ∧ c ≠ ']' ∧ c ≠ '\ufeff'

/-! ## Values without parts -/

/-- The text is a word with its value or a number with the value of its parts. -/
inductive Plain : List Char → Datum → Prop where
  | word {cs : List Char} {d : Datum} (h : (cs, d) ∈ wordValues) : Plain cs d
  | number {n : Numeral} (hwhole : IsWhole n.whole) (hfraction : Digits n.fraction) : Plain n.chars n.datum

/-- A number begins with a digit, or with a minus sign and a digit. -/
theorem Numeral.exists_cons {n : Numeral} (hwhole : IsWhole n.whole) :
    ∃ c r, isBasicDigit c = true ∧ (n.chars = c :: r ∨ n.chars = '-' :: c :: r) := by
  obtain ⟨c, r, hcr, hc⟩ := hwhole.exists_cons
  refine ⟨c, r ++ (pointed n.fraction ++ exponentChars n.exponent), hc, ?_⟩
  rw [Numeral.chars, hcr]
  cases n.negative with
  | false => exact Or.inl rfl
  | true => exact Or.inr rfl

theorem ne_of_isBasicDigit {c d : Char} (hc : isBasicDigit c = true) (hd : isBasicDigit d = false) :
    c ≠ d := by
  rintro rfl
  rw [hc] at hd
  cases hd

theorem isSpace_of_isBasicDigit {c : Char} (hc : isBasicDigit c = true) : isSpace c = false := by
  simp only [isSpace, Bool.or_eq_false_iff, beq_eq_false_iff_ne]
  exact ⟨⟨⟨ne_of_isBasicDigit hc rfl, ne_of_isBasicDigit hc rfl⟩, ne_of_isBasicDigit hc rfl⟩,
    ne_of_isBasicDigit hc rfl⟩

theorem readWord?_eq_none {c : Char} (hc : isBasicDigit c = true) (r : List Char) :
    readWord? (c :: r) = none ∧ readWord? ('-' :: c :: r) = none := by
  have hfirst : ∀ {d : Char} {w cs : List Char}, (d :: w).isPrefixOf cs = true → cs.head? = some d := by
    intro d w cs h
    obtain ⟨t, rfl⟩ := List.isPrefixOf_iff_prefix.mp h
    rfl
  constructor
  · rw [readWord?, Option.map_eq_none_iff, List.find?_eq_none]
    intro w hw hprefix
    simp only [wordValues, List.mem_cons, List.not_mem_nil, or_false] at hw
    rcases hw with rfl | rfl | rfl | rfl | rfl | rfl <;>
      exact ne_of_isBasicDigit hc rfl (Option.some.inj (hfirst hprefix))
  · rw [readWord?, Option.map_eq_none_iff, List.find?_eq_none]
    intro w hw hprefix
    simp only [wordValues, List.mem_cons, List.not_mem_nil, or_false] at hw
    rcases hw with rfl | rfl | rfl | rfl | rfl | rfl
    · cases hfirst hprefix
    · cases hfirst hprefix
    · cases hfirst hprefix
    · cases hfirst hprefix
    · cases hfirst hprefix
    · have htail : "Infinity".toList.isPrefixOf (c :: r) = true := hprefix
      exact ne_of_isBasicDigit hc rfl (Option.some.inj (hfirst htail))

/-- A number that is not a word is read as a number. -/
theorem readValue_number {cs rest : List Char} {d : Datum} (fuel : ℕ)
    (hquote : cs.head? ≠ some '"') (hlist : cs.head? ≠ some '[') (hrecord : cs.head? ≠ some '\x7b')
    (hword : readWord? cs = none) (hnumber : readNumber? cs = some (d, rest)) :
    readValue (fuel + 1) cs = .ok (d, rest) := by
  rw [readValue]
  · rw [hword, hnumber]
  · rintro r rfl
    exact hquote rfl
  · rintro r rfl
    exact hlist rfl
  · rintro r rfl
    exact hrecord rfl

theorem Plain.opens {cs : List Char} {d : Datum} (h : Plain cs d) : Opens cs := by
  cases h with
  | word hmem =>
      simp only [wordValues, List.mem_cons, Prod.mk.injEq, List.not_mem_nil, or_false] at hmem
      rcases hmem with ⟨rfl, -⟩ | ⟨rfl, -⟩ | ⟨rfl, -⟩ | ⟨rfl, -⟩ | ⟨rfl, -⟩ | ⟨rfl, -⟩ <;>
        exact ⟨_, _, rfl, rfl, by decide, by decide⟩
  | number hwhole hfraction =>
      obtain ⟨c, r, hc, heq | heq⟩ := Numeral.exists_cons hwhole
      · exact ⟨c, r, heq, isSpace_of_isBasicDigit hc, ne_of_isBasicDigit hc rfl, ne_of_isBasicDigit hc rfl⟩
      · exact ⟨'-', c :: r, heq, rfl, by decide, by decide⟩

theorem Plain.read {cs : List Char} {d : Datum} (h : Plain cs d) (fuel : ℕ) {rest : List Char}
    (hrest : Ended rest) : readValue (fuel + 1) (cs ++ rest) = .ok (d, rest) := by
  cases h with
  | word hmem =>
      simp only [wordValues, List.mem_cons, Prod.mk.injEq, List.not_mem_nil, or_false] at hmem
      rcases hmem with ⟨rfl, rfl⟩ | ⟨rfl, rfl⟩ | ⟨rfl, rfl⟩ | ⟨rfl, rfl⟩ | ⟨rfl, rfl⟩ | ⟨rfl, rfl⟩ <;> rfl
  | @number n hwhole hfraction =>
      have hread := Numeral.read_chars hwhole hfraction hrest
      obtain ⟨c, r, hc, heq | heq⟩ := Numeral.exists_cons hwhole
      · rw [heq] at hread ⊢
        have hhead : ∀ {d : Char}, isBasicDigit d = false → (c :: (r ++ rest)).head? ≠ some d :=
          fun hd h => ne_of_isBasicDigit hc hd (Option.some.inj h)
        exact readValue_number fuel (hhead rfl) (hhead rfl) (hhead rfl) (readWord?_eq_none hc _).1 hread
      · rw [heq] at hread ⊢
        exact readValue_number fuel (fun h => absurd (Option.some.inj h) (by decide))
          (fun h => absurd (Option.some.inj h) (by decide))
          (fun h => absurd (Option.some.inj h) (by decide)) (readWord?_eq_none hc _).2 hread

theorem plain_int (n : ℤ) : Plain (writeScalar (.int n)) (.int n) := by
  have h : Plain (Numeral.ofInt n).chars (Numeral.ofInt n).datum :=
    .number (IsWhole.toDigits _) fun _ hc => absurd hc List.not_mem_nil
  rwa [Numeral.chars_ofInt, Numeral.datum_ofInt] at h

theorem plain_float (x : Float) : Plain (writeScalar (.float x)) (.float x) := by
  cases h : Binary.ofFloat? x with
  | some b =>
      obtain ⟨n, hchars, hwhole, hfraction, hdatum⟩ := exists_numeral_text h
      have hplain : Plain n.chars n.datum := .number hwhole hfraction
      rwa [hchars, hdatum] at hplain
  | none =>
      refine .word ?_
      rw [writeScalar, NumberFormat.text, h]
      dsimp only
      rcases eq_of_ofFloat?_eq_none h with rfl | rfl | rfl
      · rw [if_pos (by decide)]
        exact .tail _ (.tail _ (.tail _ (.head _)))
      · rw [if_neg (by decide), if_neg (by decide)]
        exact .tail _ (.tail _ (.tail _ (.tail _ (.head _))))
      · rw [if_neg (by decide), if_pos (by decide)]
        exact .tail _ (.tail _ (.tail _ (.tail _ (.tail _ (.head _)))))

/-! ## Lists and records -/

theorem opens_writeAt (level : ℕ) (d : Datum) : Opens (writeAt level d) := by
  cases d with
  | null => exact (Plain.word (.head _)).opens
  | bool b =>
      cases b with
      | false => exact (Plain.word (.tail _ (.tail _ (.head _)))).opens
      | true => exact (Plain.word (.tail _ (.head _))).opens
  | int n => exact (plain_int n).opens
  | float x => exact (plain_float x).opens
  | text s => exact ⟨'"', _, rfl, rfl, by decide, by decide⟩
  | list items =>
      cases items with
      | nil => exact ⟨'[', _, rfl, rfl, by decide, by decide⟩
      | cons d r => exact ⟨'[', _, rfl, rfl, by decide, by decide⟩
  | record entries =>
      cases entries with
      | nil => exact ⟨'\x7b', _, rfl, rfl, by decide, by decide⟩
      | cons e r => exact ⟨'\x7b', _, rfl, rfl, by decide, by decide⟩

/-- The datum is read back from its text, whatever ends it. -/
def ReadsBack (d : Datum) : Prop :=
  ∀ (level fuel : ℕ) (rest : List Char), (writeAt level d).length ≤ fuel → Ended rest →
    readValue fuel (writeAt level d ++ rest) = .ok (d, rest)

/-- There is fuel for a first step, because no written value is empty. -/
theorem readsBack_of_succ {d : Datum}
    (h : ∀ (level fuel : ℕ) (rest : List Char), (writeAt level d).length ≤ fuel + 1 → Ended rest →
      readValue (fuel + 1) (writeAt level d ++ rest) = .ok (d, rest)) : ReadsBack d := by
  intro level fuel rest hfuel hrest
  obtain ⟨c, r, hcr, -⟩ := opens_writeAt level d
  have hpos : 0 < (writeAt level d).length := by
    rw [hcr]
    exact Nat.succ_pos _
  obtain ⟨fuel, rfl⟩ : ∃ f, fuel = f + 1 := ⟨fuel - 1, by omega⟩
  exact h level fuel rest hfuel hrest

theorem Plain.readsBack {d : Datum} (hwrite : ∀ level, writeAt level d = writeScalar d)
    (h : Plain (writeScalar d) d) : ReadsBack d := by
  refine readsBack_of_succ fun level fuel rest _ hrest => ?_
  rw [hwrite]
  exact h.read fuel hrest

section Steps

variable {fuel : ℕ} {cs r r' rest : List Char} {d : Datum} {items : List Datum} {key : String}
  {entries all : List (String × Datum)}

theorem readItems_last (hvalue : readValue fuel cs = .ok (d, r)) (hr : skipSpace r = ']' :: rest) :
    readItems (fuel + 1) cs = .ok ([d], rest) := by
  rw [readItems, hvalue]
  dsimp only [bind, Except.bind]
  rw [hr]
  rfl

theorem readItems_more (hvalue : readValue fuel cs = .ok (d, r)) (hr : skipSpace r = ',' :: r')
    (hitems : readItems fuel (skipSpace r') = .ok (items, rest)) :
    readItems (fuel + 1) cs = .ok (d :: items, rest) := by
  rw [readItems, hvalue]
  dsimp only [bind, Except.bind]
  rw [hr]
  show (readItems fuel (skipSpace r') >>= _) = _
  rw [hitems]
  rfl

theorem readValue_items {t : List Char} (hr : skipSpace r = t) (ht : Opens t)
    (hitems : readItems fuel t = .ok (items, rest)) :
    readValue (fuel + 1) ('[' :: r) = .ok (.list items, rest) := by
  obtain ⟨c, t, rfl, -, hc, -⟩ := ht
  rw [readValue, hr]
  split
  · next heq => exact absurd (List.cons.inj heq).1 hc
  · exact congrArg (Except.map _) hitems

theorem readValue_entries {t : List Char} (hr : skipSpace r = '"' :: t)
    (hentries : readEntries fuel [] ('"' :: t) = .ok (all, rest)) :
    readValue (fuel + 1) ('\x7b' :: r) = .ok (.record all, rest) := by
  rw [readValue, hr]
  exact congrArg (Except.map _) hentries

/-- After a key and a value, the closing brace or a comma decides how it goes on. -/
theorem readEntries_step (hkey : readString ('"' :: cs) = .ok (key, ':' :: r'))
    (hvalue : readValue fuel (skipSpace r') = .ok (d, r)) :
    readEntries (fuel + 1) entries ('"' :: cs)
      = match skipSpace r with
        | '\x7d' :: rest => .ok (upsert (· == ·) key d entries, rest)
        | ',' :: r => readEntries fuel (upsert (· == ·) key d entries) (skipSpace r)
        | r => .error ⟨.expectedComma, r.length⟩ := by
  rw [readEntries, hkey]
  dsimp only [bind, Except.bind]
  rw [skipSpace_cons rfl]
  show (readValue fuel (skipSpace r') >>= _) = _
  rw [hvalue]
  rfl

end Steps

theorem Opens.append {cs : List Char} (h : Opens cs) (rest : List Char) : Opens (cs ++ rest) := by
  obtain ⟨c, r, rfl, hc⟩ := h
  exact ⟨c, r ++ rest, rfl, hc⟩

theorem Opens.skipSpace_append {cs : List Char} (h : Opens cs) (rest : List Char) :
    skipSpace (cs ++ rest) = cs ++ rest := by
  obtain ⟨c, r, rfl, hc, -⟩ := h
  exact skipSpace_cons hc _

theorem skipSpace_writeString (s : String) (rest : List Char) :
    skipSpace (writeString s ++ rest) = writeString s ++ rest := skipSpace_cons rfl _

/-- The items of a list are read back. There is fuel for each of them because the text has a comma or a
bracket for each. -/
theorem readItems_writeItems {d : Datum} {r : List Datum} (hd : ReadsBack d)
    (hr : ∀ d ∈ r, ReadsBack d) (level k fuel : ℕ) (rest : List Char)
    (hfuel : (writeAt level d).length + (writeItems level r).length < fuel) :
    readItems fuel (writeAt level d ++ (writeItems level r ++ (newline k ++ ']' :: rest)))
      = .ok (d :: r, rest) := by
  -- what follows a comma is again an item with further items behind it
  induction r generalizing d fuel with
  | nil =>
      cases fuel with
      | zero => omega
      | succ fuel =>
          refine readItems_last (hd level fuel _ (by omega) (ended_newline k _)) ?_
          show skipSpace (newline k ++ ']' :: rest) = _
          rw [skipSpace_newline, skipSpace_cons rfl]
  | cons e r ih =>
      obtain ⟨he, hr⟩ := List.forall_mem_cons.mp hr
      cases fuel with
      | zero => omega
      | succ fuel =>
          have hlength : (writeItems level (e :: r)).length
              = 1 + (newline level).length + (writeAt level e).length + (writeItems level r).length := by
            rw [writeItems, List.cons_append, List.cons_append, List.length_cons, List.length_append,
              List.length_append]
            omega
          have hitems : writeItems level (e :: r) ++ (newline k ++ ']' :: rest)
              = ',' :: (newline level
                ++ (writeAt level e ++ (writeItems level r ++ (newline k ++ ']' :: rest)))) := by
            rw [writeItems]
            simp only [List.cons_append, List.append_assoc]
          rw [hitems]
          refine readItems_more (hd level fuel _ (by omega) ?_) (skipSpace_cons rfl _) ?_
          · rintro c ⟨⟩
            exact Or.inl rfl
          · rw [skipSpace_newline, (opens_writeAt level e).skipSpace_append]
            exact ih he hr fuel (by omega)

/-- A written entry with a new key is read and put behind the others. -/
theorem readEntries_writeEntry {key : String} {d : Datum} (hd : ReadsBack d) (level : ℕ) {fuel : ℕ}
    {cs : List Char} {entries : List (String × Datum)} (hkey : key ∉ entries.map Prod.fst)
    (hfuel : (writeAt level d).length ≤ fuel) (hcs : Ended cs) :
    readEntries (fuel + 1) entries (writeString key ++ (':' :: ' ' :: (writeAt level d ++ cs)))
      = match skipSpace cs with
        | '\x7d' :: rest => .ok (entries ++ [(key, d)], rest)
        | ',' :: r => readEntries fuel (entries ++ [(key, d)]) (skipSpace r)
        | r => .error ⟨.expectedComma, r.length⟩ := by
  rw [← upsert_of_not_mem hkey]
  refine readEntries_step (readString_writeString key _) ?_
  show readValue fuel (skipSpace (writeAt level d ++ cs)) = .ok (d, cs)
  rw [(opens_writeAt level d).skipSpace_append]
  exact hd level fuel cs hfuel hcs

/-- The entries of a record are read back, behind those that were read before. -/
theorem readEntries_writeEntries {key : String} {d : Datum} {r : List (String × Datum)}
    (hd : ReadsBack d) (hr : ∀ e ∈ r, ReadsBack e.2) (level k fuel : ℕ) (rest : List Char)
    {entries : List (String × Datum)} (hkeys : ((entries ++ (key, d) :: r).map Prod.fst).Nodup)
    (hfuel : (writeAt level d).length + (writeEntries level r).length < fuel) :
    readEntries fuel entries (writeString key ++ (':' :: ' ' :: (writeAt level d
        ++ (writeEntries level r ++ (newline k ++ '\x7d' :: rest)))))
      = .ok (entries ++ (key, d) :: r, rest) := by
  have hkey : key ∉ entries.map Prod.fst := by
    rw [List.map_append] at hkeys
    exact fun hmem => (List.nodup_append.mp hkeys).2.2 _ hmem _ List.mem_cons_self rfl
  -- the entry that is read moves to those that were read before
  induction r generalizing key d entries fuel with
  | nil =>
      cases fuel with
      | zero => omega
      | succ fuel =>
          refine (readEntries_writeEntry hd level hkey (by omega) (ended_newline k _)).trans ?_
          rw [skipSpace_newline, skipSpace_cons rfl]
          rfl
  | cons e r ih =>
      obtain ⟨he, hr⟩ := List.forall_mem_cons.mp hr
      cases fuel with
      | zero => omega
      | succ fuel =>
          have hlength : (writeEntries level (e :: r)).length = 3 + (newline level).length
              + (writeString e.1).length + (writeAt level e.2).length + (writeEntries level r).length := by
            rw [writeEntries]
            simp only [List.cons_append, List.length_cons, List.length_append, List.length_nil]
            omega
          have hentries : writeEntries level (e :: r) ++ (newline k ++ '\x7d' :: rest)
              = ',' :: (newline level ++ (writeString e.1 ++ (':' :: ' ' :: (writeAt level e.2
                ++ (writeEntries level r ++ (newline k ++ '\x7d' :: rest)))))) := by
            rw [writeEntries]
            simp only [List.cons_append, List.append_assoc, List.nil_append]
          rw [hentries]
          refine (readEntries_writeEntry hd level hkey (by omega) ?_).trans ?_
          · rintro c ⟨⟩
            exact Or.inl rfl
          · rw [List.append_cons entries _ (e :: r)] at hkeys ⊢
            rw [skipSpace_cons rfl]
            show readEntries fuel (entries ++ [(key, d)]) (skipSpace (newline level ++ _)) = _
            rw [skipSpace_newline, skipSpace_writeString]
            refine ih he hr fuel hkeys (by omega) fun hmem => ?_
            rw [List.map_append] at hkeys
            exact (List.nodup_append.mp hkeys).2.2 _ hmem _ List.mem_cons_self rfl

/-! ## Data -/

theorem ReadsBack.text (s : String) : ReadsBack (.text s) :=
  readsBack_of_succ fun _ _ rest _ _ => congrArg (Except.map _) (readString_writeString s rest)

theorem ReadsBack.list {items : List Datum} (h : ∀ d ∈ items, ReadsBack d) :
    ReadsBack (.list items) := by
  refine readsBack_of_succ fun level fuel rest hfuel hrest => ?_
  cases items with
  | nil => rfl
  | cons d r =>
      obtain ⟨hd, hr⟩ := List.forall_mem_cons.mp h
      have hchars : writeAt level (.list (d :: r)) ++ rest
          = '[' :: (newline (level + 1) ++ (writeAt (level + 1) d
            ++ (writeItems (level + 1) r ++ (newline level ++ ']' :: rest)))) := by
        rw [writeAt]
        simp only [List.cons_append, List.append_assoc, List.nil_append]
      have hlength := congrArg List.length hchars
      simp only [List.length_append, List.length_cons] at hlength
      rw [hchars]
      refine readValue_items ?_ ((opens_writeAt _ d).append _)
        (readItems_writeItems hd hr (level + 1) level fuel rest (by omega))
      rw [skipSpace_newline, (opens_writeAt _ d).skipSpace_append]

theorem ReadsBack.record {entries : List (String × Datum)} (hkeys : (entries.map Prod.fst).Nodup)
    (h : ∀ e ∈ entries, ReadsBack e.2) : ReadsBack (.record entries) := by
  refine readsBack_of_succ fun level fuel rest hfuel hrest => ?_
  cases entries with
  | nil => rfl
  | cons e r =>
      obtain ⟨he, hr⟩ := List.forall_mem_cons.mp h
      have hchars : writeAt level (.record (e :: r)) ++ rest
          = '\x7b' :: (newline (level + 1) ++ (writeString e.1 ++ (':' :: ' ' :: (writeAt (level + 1) e.2
            ++ (writeEntries (level + 1) r ++ (newline level ++ '\x7d' :: rest)))))) := by
        rw [writeAt]
        simp only [List.cons_append, List.append_assoc, List.nil_append]
      have hlength := congrArg List.length hchars
      simp only [List.length_append, List.length_cons] at hlength
      -- nothing was read before the first entry
      have hdistinct : ((([] : List (String × Datum)) ++ e :: r).map Prod.fst).Nodup := hkeys
      rw [hchars]
      refine readValue_entries ?_
        (readEntries_writeEntries he hr (level + 1) level fuel rest hdistinct (by omega))
      rw [skipSpace_newline, skipSpace_writeString]
      rfl

/-- **Every datum with distinct keys is read back.** -/
theorem readsBack_of_wellKeyed {d : Datum} (h : d.WellKeyed) : ReadsBack d := by
  induction h with
  | null => exact Plain.readsBack (fun _ => rfl) (.word (.head _))
  | bool b =>
      refine Plain.readsBack (fun _ => rfl) (.word ?_)
      cases b with
      | false => exact .tail _ (.tail _ (.head _))
      | true => exact .tail _ (.head _)
  | int n => exact Plain.readsBack (fun _ => rfl) (plain_int n)
  | float x => exact Plain.readsBack (fun _ => rfl) (plain_float x)
  | text s => exact .text s
  | list hitems ih => exact .list ih
  | record hkeys hentries ih => exact .record hkeys ih

/-- **What is written is read back.** -/
theorem read_write {d : Datum} (h : d.WellKeyed) : read (write d) = .ok d := by
  have hchars : (write d).toList = writeAt 0 d := String.toList_ofList
  obtain ⟨c, r, hcr, hspace, -, hmark⟩ := opens_writeAt 0 d
  have hvalue := readsBack_of_wellKeyed h 0 (2 * (writeAt 0 d).length + 2) [] (by omega)
    fun c hc => by cases hc
  have hstart : ¬ (writeAt 0 d).head? = some '\ufeff' := by
    rw [hcr]
    exact fun h => hmark (Option.some.inj h)
  have hskip : skipSpace (writeAt 0 d) = writeAt 0 d := by
    rw [hcr, skipSpace_cons hspace]
  have hscan : scan (writeAt 0 d) = .ok d := by
    rw [List.append_nil] at hvalue
    rw [scan, if_neg hstart, hskip, hvalue]
    rfl
  rw [read, hchars, hscan]
  rfl

end StatementTagging.Json
