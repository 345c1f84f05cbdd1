import StatementTagging.Rule.Definition

set_option autoImplicit false

/-! # Collections of definitions

The definitions that an editor works on, grouped into libraries by context. A definition is known by its
identifier. Changing its context moves it to the library with that context, which is made if there is
none; a library that a move or a removal leaves empty is dropped.
-/

namespace StatementTagging

/-- Libraries, and where the identifiers of new ones come from: the library that is made as number `n` gets
`newId n`. -/
structure Collection where
  libraries : List Library
  newId : Nat → String
  made : Nat := 0

namespace Collection

/-- A collection without libraries. -/
def empty (newId : Nat → String) : Collection := { libraries := [], newId := newId }

/-! ## Finding -/

/-- All definitions in the order of their libraries. -/
def definitions (c : Collection) : List Definition := c.libraries.flatMap (·.definitions)

/-- The definition has the identifier. -/
def hasId (id : Datum) (d : Definition) : Bool := d.id.same id

/-- The first definition with an identifier in libraries, and its library. -/
def findIn (id : Datum) : List Library → Option (Library × Definition)
  | [] => none
  | l :: r =>
    match l.definitions.find? (hasId id) with
    | some d => some (l, d)
    | none => findIn id r

/-- The first definition with an identifier, and its library. -/
def find (c : Collection) (id : Datum) : Option (Library × Definition) := findIn id c.libraries

/-! ## Changing -/

/-- Applies a change to the first library that satisfies a test. -/
def changeFirst (test : Library → Bool) (change : Library → Library) :
    List Library → List Library
  | [] => []
  | l :: r => if test l then change l :: r else l :: changeFirst test change r

/-- Applies a change to the first definition that is the one found under an identifier or equal to
it. -/
def changeDefinition (id : Datum) (found : Definition) (change : Definition → List Definition) :
    List Definition → List Definition
  | [] => []
  | d :: r =>
    if hasId id d || d.same found then change d ++ r
    else d :: changeDefinition id found change r

/-- The library holds a definition with the identifier. -/
def holds (id : Datum) (l : Library) : Bool := l.definitions.any (hasId id)

/-- Applies a change to the definition found under an identifier, in its library. -/
def changed (id : Datum) (found : Definition) (change : Definition → List Definition)
    (libraries : List Library) : List Library :=
  changeFirst (holds id)
    (fun l => { l with definitions := changeDefinition id found change l.definitions }) libraries

/-- Replaces the definition found under an identifier, in its place. -/
def replaced (id : Datum) (found d : Definition) (libraries : List Library) : List Library :=
  changed id found (fun _ => [d]) libraries

/-- Removes the definition found under an identifier. -/
def removed (id : Datum) (found : Definition) (libraries : List Library) : List Library :=
  changed id found (fun _ => []) libraries

/-- The definition is put at the end of the first library with the context, which is made if there is none. The
identifier of that library comes first. -/
def append (context : Context) (d : Definition) (c : Collection) : Datum × Collection :=
  match c.libraries.find? (·.context.same context) with
  | some l =>
    (l.id, { c with
        libraries := changeFirst (·.context.same context)
          (fun l => { l with definitions := l.definitions ++ [d] }) c.libraries })
  | none =>
    let id : Datum := .text (c.newId c.made)
    (id, { c with libraries := c.libraries ++ [⟨context, [d], id⟩], made := c.made + 1 })

/-- The collection without its empty libraries. -/
def dropEmpty (c : Collection) : Collection :=
  { c with libraries := c.libraries.filter fun l => !l.definitions.isEmpty }

/-! ## Operations -/

/-- Work on a collection. What it has changed before a fault stays changed. -/
abbrev Editing := EStateM Fault Collection

/-- The definition with an identifier, which must be there, and its library. -/
def located (id : Datum) : Editing (Library × Definition) := do
  match (← get).find id with
  | none => throw (.unknownDefinition id.display)
  | some f => return f

/-- Adds a definition, whose identifier must be new, and gives the identifier of its library. -/
def add (context : Context) (d : Definition) : Editing Datum := do
  match (← get).find d.id with
  | some _ => throw (.duplicateDefinition d.id.display)
  | none => modifyGet (append context d)

/-- Replaces the definition with the same identifier, which must be there. It stays in its place if the
context is that of its library; otherwise it moves. -/
def update (context : Context) (d : Definition) : Editing Datum := do
  let (l, found) ← located d.id
  if l.context.same context then
    modify fun c => { c with libraries := replaced d.id found d c.libraries }
    return l.id
  else
    modify fun c => { c with libraries := removed d.id found c.libraries }
    let id ← modifyGet (append context d)
    modify dropEmpty
    return id

/-- Removes the definition with an identifier, which must be there. -/
def delete (id : Datum) : Editing Definition := do
  let (_, d) ← located id
  modify fun c => { c with libraries := removed id d c.libraries }
  modify dropEmpty
  return d

/-- Adds a definition, or replaces the one with its identifier. -/
def upsert (context : Context) (d : Definition) : Editing Datum := do
  match (← get).find d.id with
  | none => add context d
  | some _ => update context d

/-- Takes over a definition after `count` others. -/
def importNext (context : Context) (count : Nat) (d : Definition) : Editing Nat := do
  let _ ← upsert context d
  return count + 1

/-- Takes over all definitions of libraries and gives their number. -/
def importLibraries (libraries : List Library) : Editing Nat :=
  libraries.foldlM (fun count l => l.definitions.foldlM (importNext l.context) count) 0

/-- The definition with an identifier, which must be there, alone in its library. -/
def exportDefinition (id : Datum) : Editing (List Library) := do
  let (l, d) ← located id
  return [{ l with definitions := [d] }]

end Collection

end StatementTagging
