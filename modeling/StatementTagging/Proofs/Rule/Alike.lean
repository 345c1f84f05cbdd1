import StatementTagging.Analysis
import StatementTagging.Proofs.Number.Integer
import StatementTagging.Proofs.Outcome
import StatementTagging.Table.Frame

set_option autoImplicit false

/-! # Values that rules do not tell apart

Rules look at a value of a row in four ways: whether it is null, whether it is present, its text, and the
number it stands for. They look at the values of the fields only that they name (`fieldsOf`). Rows whose
values in these fields agree in the four ways are analysed alike (`analyzeRow_of_alikeOn`). An integer and
the floating-point number with exactly its value are such values (`alike_of_isExact`).
-/

namespace StatementTagging

/-- Rules do not tell the values apart. -/
structure Datum.Alike (d d' : Datum) : Prop where
  isNull : d.isNull = d'.isNull
  truthy : d.truthy = d'.truthy
  fieldText : d.fieldText = d'.fieldText
  number : d.number? = d'.number?

theorem Datum.Alike.refl (d : Datum) : d.Alike d := ⟨rfl, rfl, rfl, rfl⟩

/-- An integer and the number with its value. -/
theorem alike_of_isExact {n : Int} (h : IsExact n) : (Datum.int n).Alike (asFloat (.int n)) := by
  obtain ⟨x, hx, hn⟩ := h
  rw [asFloat, hx, Option.getD_some]
  refine ⟨rfl, ?_, ?_, ?_⟩
  · show (n != 0) = !(x == 0)
    rw [beq_zero_of_integral? hn]
    rfl
  · have htext : (Datum.float x).fieldText = toString n := by rw [Datum.fieldText, hn]
    rw [htext]
    rfl
  · rw [Datum.number?, Datum.number?, hx, isNaN_of_integral? hn]
    rfl

/-! ## Fields that rules read -/

/-- The fields of a context. -/
def Context.fields (c : Context) : List String := c.map (·.key)

/-- The field of an expression. Only a text can be the name of one. -/
def Expression.fields (e : Expression) : List String := e.field.text?.toList

/-- The fields that a definition reads: those of its context, its rules and its attributes. -/
def Definition.fields (d : Definition) : List String :=
  d.context.fields ++ d.rules.flatMap (·.flatMap (·.fields)) ++ d.attributes.flatMap (·.expression.fields)

/-- The fields that libraries read. -/
def fieldsOf (libraries : List Library) : List String :=
  libraries.flatMap fun l => l.context.fields ++ l.definitions.flatMap (·.fields)

/-! ## Rows -/

/-- Rules do not tell the values of the rows in the fields apart. -/
def AlikeOn (fields : List String) (row row' : Row) : Prop :=
  ∀ key ∈ fields, (Datum.valueAt row key).Alike (Datum.valueAt row' key)

/-- Rules do not tell the values of the rows apart. -/
def RowsAlike (row row' : Row) : Prop :=
  ∀ key, (Datum.valueAt row key).Alike (Datum.valueAt row' key)

section Rows

variable {row row' : Row}

theorem alikeOn_append {fields fields' : List String} :
    AlikeOn (fields ++ fields') row row' ↔ AlikeOn fields row row' ∧ AlikeOn fields' row row' :=
  List.forall_mem_append

theorem alikeOn_flatMap {α : Type} {items : List α} {fields : α → List String} :
    AlikeOn (items.flatMap fields) row row' ↔ ∀ a ∈ items, AlikeOn (fields a) row row' := by
  simp only [AlikeOn, List.mem_flatMap, forall_exists_index, and_imp]
  exact ⟨fun h a ha key hkey => h key a ha hkey, fun h key a ha hkey => h a ha key hkey⟩

theorem matchesRow_of_alikeOn {c : Context} (h : AlikeOn c.fields row row') :
    c.matchesRow row = c.matchesRow row' := by
  rw [Bool.eq_iff_iff, Context.matchesRow, Context.matchesRow, List.all_eq_true, List.all_eq_true]
  refine forall₂_congr fun e he => ?_
  obtain ⟨hnull, -, htext, -⟩ := h e.key (List.mem_map_of_mem he)
  dsimp only
  rw [hnull, htext]

theorem accepts_of_alikeOn {e : Expression} (h : AlikeOn e.fields row row') :
    e.accepts row = e.accepts row' := by
  rw [Expression.accepts, Expression.accepts]
  rw [Expression.fields] at h
  cases hfield : e.field with
  | text key =>
      rw [hfield] at h
      obtain ⟨hnull, -, htext, hnumber⟩ := h key List.mem_cons_self
      show (if (Datum.valueAt row key).isNull then _ else _)
        = if (Datum.valueAt row' key).isNull then _ else _
      rw [hnull]
      refine ite_congr rfl (fun _ => rfl) fun _ => bind_congr fun source => ?_
      cases Criterion.ofSource source with
      | pattern source => rw [Criterion.accepts, Criterion.accepts, htext]
      | comparison c threshold => rw [Criterion.accepts, Criterion.accepts, hnumber]
  | _ => rfl

theorem groupAccepts_of_alikeOn {group : List Expression}
    (h : AlikeOn (group.flatMap (·.fields)) row row') :
    groupAccepts group row = groupAccepts group row' := by
  induction group with
  | nil => rfl
  | cons e r ih =>
      rw [List.flatMap_cons, alikeOn_append] at h
      rw [groupAccepts, groupAccepts, accepts_of_alikeOn h.1, ih h.2]

theorem someGroupAccepts_of_alikeOn {rules : RuleSet}
    (h : AlikeOn (rules.flatMap (·.flatMap (·.fields))) row row') :
    someGroupAccepts rules row = someGroupAccepts rules row' := by
  induction rules with
  | nil => rfl
  | cons group r ih =>
      rw [List.flatMap_cons, alikeOn_append] at h
      rw [someGroupAccepts, someGroupAccepts, groupAccepts_of_alikeOn h.1, ih h.2]

theorem extract_of_alikeOn {a : Attribute} (h : AlikeOn a.expression.fields row row') :
    a.extract row = a.extract row' := by
  rw [Attribute.extract, Attribute.extract]
  rw [Expression.fields] at h
  cases hfield : a.expression.field with
  | text key =>
      rw [hfield] at h
      obtain ⟨-, htruthy, htext, -⟩ := h key List.mem_cons_self
      show (if (!(Datum.valueAt row key).truthy) = true then _ else _)
        = if (!(Datum.valueAt row' key).truthy) = true then _ else _
      rw [htruthy, htext]
  | _ => rfl

theorem extractAll_of_alikeOn {attributes : List Attribute}
    (h : AlikeOn (attributes.flatMap (·.expression.fields)) row row') :
    extractAll attributes row = extractAll attributes row' := by
  rw [alikeOn_flatMap] at h
  rw [extractAll, extractAll]
  exact foldlM_congr (fun a ha table => by rw [extract_of_alikeOn (h a ha)]) []

/-- A definition applies to both rows or to neither, and contributes the same. -/
theorem definition_of_alikeOn {d : Definition} (h : AlikeOn d.fields row row') (today : String) :
    d.applies row today = d.applies row' today ∧ ∀ a : Analysis, a.add d row = a.add d row' := by
  rw [Definition.fields, alikeOn_append, alikeOn_append] at h
  obtain ⟨⟨hcontext, hrules⟩, hattributes⟩ := h
  constructor
  · rw [Definition.applies, Definition.applies, RuleSet.accepts, RuleSet.accepts,
      matchesRow_of_alikeOn hcontext, someGroupAccepts_of_alikeOn hrules]
  · intro a
    rw [Analysis.add, Analysis.add, extractAll_of_alikeOn hattributes]

/-- **Rules read the fields only that they name.** Rows that they do not tell apart in these are analysed
alike, faults included. -/
theorem analyzeRow_of_alikeOn {libraries : List Library} (h : AlikeOn (fieldsOf libraries) row row')
    (today : String) : analyzeRow libraries today row = analyzeRow libraries today row' := by
  rw [fieldsOf, alikeOn_flatMap] at h
  refine foldlM_congr (fun l hl a => ?_) ({} : Analysis)
  obtain ⟨hcontext, hdefinitions⟩ := alikeOn_append.mp (h l hl)
  rw [alikeOn_flatMap] at hdefinitions
  rw [Analysis.addLibrary, Analysis.addLibrary, matchesRow_of_alikeOn hcontext]
  refine ite_congr rfl (fun _ => foldlM_congr (fun d hd a => ?_) a) fun _ => rfl
  obtain ⟨happlies, hadd⟩ := definition_of_alikeOn (hdefinitions d hd) today
  rw [happlies, hadd]

/-- Rows that are not told apart, one by one. -/
theorem analyzeRows_of_alikeOn {libraries : List Library} {rows rows' : List Row}
    (h : List.Forall₂ (AlikeOn (fieldsOf libraries)) rows rows') (today : String) :
    analyzeRows libraries today rows = analyzeRows libraries today rows' := by
  unfold analyzeRows
  induction h with
  | nil => rfl
  | cons hrow _ ih => rw [List.mapM_cons, List.mapM_cons, analyzeRow_of_alikeOn hrow, ih]

end Rows

end StatementTagging
