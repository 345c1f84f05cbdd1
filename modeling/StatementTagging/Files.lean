import StatementTagging.Fault
import StatementTagging.Path
import StatementTagging.Table.CsvReader
import StatementTagging.Text.Utf8

set_option autoImplicit false

/-! # Files

The files that commands read and write, as a value: bytes under places. A place is the list of names
that leads to a file from the root, without any way back.
-/

namespace StatementTagging

/-- The names that lead from the root to a file or a directory. -/
abbrev Place := List String

/-- Files, the directories that exist even without a file in them, and the directory from which paths
start. -/
structure Files where
  entries : List (Place × List UInt8) := []
  directories : List Place := []
  current : Place := []

namespace Files

/-! ## Places -/

/-- The place at which a path starts. -/
def startPlace (files : Files) (p : Path) : Place :=
  match p.start with
  | .current => files.current
  | _ => []

/-- There is a directory at a place. -/
def isDirectory (files : Files) (place : Place) : Bool :=
  (files.current :: files.directories ++ files.entries.map (·.1.dropLast)).any place.isPrefixOf

/-- Goes one name further; the way back leads only out of a directory. -/
def step? (files : Files) (place : Place) (name : String) : Option Place :=
  if name = ".." then if files.isDirectory place then some place.dropLast else none
  else some (place ++ [name])

/-- The place to which a path leads. -/
def place? (files : Files) (p : Path) : Option Place :=
  p.names.foldlM files.step? (files.startPlace p)

/-! ## Reading -/

/-- The bytes of a file. -/
def find? (files : Files) (p : Path) : Option (List UInt8) :=
  (files.place? p).bind fun place => files.entries.lookup place

/-- The bytes of a file that must be there; `role` is what the file is for. -/
def expect (files : Files) (role : String) (p : Path) : Except Fault (List UInt8) :=
  match files.find? p with
  | some bytes => .ok bytes
  | none => .error (.fileMissing role p.text)

/-! ## Writing -/

/-- Makes the directory to which a path leads, and those on the way. -/
def makeDirectory (files : Files) (p : Path) : Files :=
  let (made, _) := p.names.foldl
    (fun ((files, place) : Files × Place) name =>
      let next := if name = ".." then place.dropLast else place ++ [name]
      ({ files with directories := next :: files.directories }, next))
    (files, files.startPlace p)
  made

/-- Writes a file into a directory that exists. -/
def write (files : Files) (p : Path) (bytes : List UInt8) : Files :=
  match files.place? p with
  | some place => { files with entries := upsert (· == ·) place bytes files.entries }
  | none => files

/-! ## Texts and tables -/

/-- The text that bytes write, with a line feed for every line break. -/
def textOf (bytes : List UInt8) : Except Fault (List Char) :=
  ((Text.decodeBytes bytes).mapError .bytes).map Text.unifyBreaks

/-- A character that the end of a table cuts off is counted from its own first byte: by then the bytes
before it have been used up. -/
def tableByteFault (f : Text.ByteFault) : Text.ByteFault :=
  match f.kind with
  | .ending => { f with offset := 0 }
  | _ => f

/-- The frame that bytes write as a table. -/
def tableOf (bytes : List UInt8) : Except Fault Frame := do
  let text ← (Text.decodeBytes bytes).mapError fun f => .bytes (tableByteFault f)
  (Csv.read text).mapError .table

end Files

end StatementTagging
