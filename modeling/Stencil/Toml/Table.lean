import Stencil.Fields
import Stencil.Toml.Basic

/-!
Tables of a TOML document.

A document names its tables in headers and its values by keys with dots, in any order, but nothing twice. A table
that a header merely passes through may still get a header of its own; one that a dotted key made may get more
dotted keys; a table with a header or written in braces is complete. That takes remembering how each table came
about, for as long as the document is read.
-/

namespace Stencil.Toml

/-! ## 1. Tables being built -/

/-- How a table came about. -/
inductive Origin where
  /-- By its own header. -/
  | header
  /-- By the header of a table inside it. -/
  | passed
  /-- By a dotted key. -/
  | dotted
  deriving DecidableEq

/-- Something under a key, while the document is read. -/
inductive Node where
  | value (v : Toml)
  | table (origin : Origin) (entries : List (String × Node))
  /-- A list of tables, the last of which is written to; it comes first here. -/
  | tables (newest : List (String × Node)) (older : List (List (String × Node)))
  deriving Inhabited

/-- The entries of a table being built. -/
abbrev Entries := Fields Node

mutual

/-- What was built. -/
def Node.done : Node → Toml
  | .value v => v
  | .table _ entries => .table (doneEntries entries)
  | .tables newest older => .list ((Toml.table (doneEntries newest) :: doneTables older).reverse)

/-- The entries of a table that was built. -/
def doneEntries : List (String × Node) → List (String × Toml)
  | [] => []
  | (key, node) :: entries => (key, node.done) :: doneEntries entries

/-- A list of tables that were built. -/
def doneTables : List (List (String × Node)) → List Toml
  | [] => []
  | entries :: more => .table (doneEntries entries) :: doneTables more

end

/-! ## 2. Values -/

/-- Puts a value under a dotted key. The table at the end of the path must be the one that the key started in, or
have come about by dotted keys (`open_`). -/
def put (v : Toml) (isOpen : Bool) (entries : Entries) : List String → Option Entries
  | [] => none
  | [key] => if isOpen && !entries.has key then some (entries.insert key (.value v)) else none
  | key :: rest =>
    match Fields.get? key entries with
    | none => (put v true [] rest).map fun inner => entries.insert key (.table .dotted inner)
    | some (.table .header _) | some (.value _) => none
    | some (.table origin inner) =>
      (put v (origin == .dotted) inner rest).map fun inner => entries.insert key (.table origin inner)
    | some (.tables newest older) =>
      (put v false newest rest).map fun newest => entries.insert key (.tables newest older)

/-- Puts values under dotted keys, in order. -/
def putAll (entries : Entries) (pairs : List (List String × Toml)) : Option Entries :=
  pairs.foldlM (fun entries (path, v) => put v true entries path) entries

/-- The table that is written in braces. -/
def inline? (pairs : List (List String × Toml)) : Option Toml :=
  (putAll [] pairs).map fun entries => .table (doneEntries entries)

/-! ## 3. Headers -/

/-- Changes the table at a path, making what is missing. A list of tables stands for its newest one. -/
def within (change : Entries → Option Entries) (entries : Entries) : List String → Option Entries
  | [] => change entries
  | key :: rest =>
    match Fields.get? key entries with
    | none => (within change [] rest).map fun inner => entries.insert key (.table .passed inner)
    | some (.value _) => none
    | some (.table origin inner) =>
      (within change inner rest).map fun inner => entries.insert key (.table origin inner)
    | some (.tables newest older) =>
      (within change newest rest).map fun newest => entries.insert key (.tables newest older)

/-- A table with its own header. A table that was only passed through is taken up again, and moves to the end. -/
def addTable (pairs : List (List String × Toml)) (key : String) (entries : Entries) : Option Entries :=
  match Fields.get? key entries with
  | none => (putAll [] pairs).map fun inner => entries.insert key (.table .header inner)
  | some (.table .passed started) =>
    (putAll started pairs).map fun inner => (entries.erase key).insert key (.table .header inner)
  | some _ => none

/-- One more table of a list of tables. -/
def addToList (pairs : List (List String × Toml)) (key : String) (entries : Entries) : Option Entries :=
  match Fields.get? key entries with
  | none => (putAll [] pairs).map fun inner => entries.insert key (.tables inner [])
  | some (.tables newest older) =>
    (putAll [] pairs).map fun inner => entries.insert key (.tables inner (newest :: older))
  | some _ => none

/-- A header with what follows it: the path, whether it is that of a list of tables, and the values. -/
structure Section where
  path : List String
  isList : Bool
  pairs : List (List String × Toml)

/-- Adds a section. -/
def addSection (entries : Entries) (s : Section) : Option Entries :=
  match s.path.getLast? with
  | none => none
  | some key => within (if s.isList then addToList s.pairs key else addTable s.pairs key) entries s.path.dropLast

/-- The document of the values before the first header and the sections. -/
def document? (pairs : List (List String × Toml)) (sections : List Section) : Option Toml := do
  let entries ← putAll [] pairs
  let entries ← sections.foldlM addSection entries
  return .table (doneEntries entries)

end Stencil.Toml
