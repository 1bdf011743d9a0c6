import Stencil.Fields
import Stencil.Files.Names

/-!
Files on disk.

A disk is what the template roots hold, for each root its files and its folders, and what there is outside of
them. A file has bytes, which may be text or not, and a modification time that an overwrite does not have to
change. Folders stay when the files in them go. A name is looked for in the roots in order, and the first that
has it, file or folder, wins.

Reading goes through a cache. An entry counts for as long as what is at its place, file or folder, has the
modification time that the file had when it was read; what cannot be read loses its entry.
-/

namespace Stencil

/-! ## 1. Roots -/

/-- A file: its text, when its bytes are text, and its modification time in milliseconds. -/
structure DiskFile where
  text? : Option String
  modified : Int
  deriving DecidableEq, Repr

/-- A template root. It is there when its own path, the empty one, is among the folders. -/
structure Root where
  folders : List Path
  files : Fields DiskFile Path
  deriving Inhabited

namespace Root

/-- A root that is not there. -/
def missing : Root := ⟨[], []⟩

/-- A root without files. -/
def empty : Root := ⟨[[]], []⟩

/-- Whether a path is that of a folder. -/
def hasFolder (root : Root) (path : Path) : Bool := root.folders.contains path

/-- Whether a path is that of a file or of a folder. -/
def has (root : Root) (path : Path) : Bool :=
  (Fields.get? path root.files).isSome || root.hasFolder path

/-- The path without its steps up. Every step leads out of a folder that is there, and none out of the root. -/
def straighten? (root : Root) (path : Path) : Option Path :=
  path.foldlM (fun reached segment =>
    if !root.hasFolder reached then none
    else if segment != ".." then some (reached ++ [segment])
    else if reached.isEmpty then none
    else some reached.dropLast) []

/-- Writes a file, and makes the folders it is in. Where there is a folder already, or a file in the place of one
of the folders, nothing is written. -/
def write (root : Root) (path : Path) (file : DiskFile) : Root :=
  let path := (root.straighten? path).getD path
  let above := path.ancestors
  if root.hasFolder path || above.any (Fields.has · root.files) then root
  else ⟨root.folders ++ above.filter (!root.hasFolder ·), root.files.insert path file⟩

/-- Deletes a file. -/
def delete (root : Root) (path : Path) : Root :=
  { root with files := root.files.erase ((root.straighten? path).getD path) }

/-- The names in a folder; none when there is no such folder. -/
def list (root : Root) (folder : Path) : List String :=
  if root.hasFolder folder then Files.namesIn folder (root.folders ++ Fields.keys root.files) else []

end Root

/-! ## 2. Places -/

/-- Where a file is: in which of the roots, if in any, and under which path. -/
structure Location where
  root : Option Nat
  path : Path
  deriving DecidableEq, Repr

/-- The template roots, in order of precedence, what there is outside of them, and the time that folders show. -/
structure Disk where
  roots : List Root
  outside : Root := .missing
  folderTime : Int := 0
  deriving Inhabited

namespace Disk

/-- The root of a location, and the path there, without steps up. -/
def find? (disk : Disk) (place : Location) : Option (Root × Path) := do
  let root ← match place.root with
    | some i => disk.roots[i]?
    | none => some disk.outside
  return (root, ← root.straighten? place.path)

/-- The file at a location. -/
def file? (disk : Disk) (place : Location) : Option DiskFile :=
  (disk.find? place).bind fun (root, path) => Fields.get? path root.files

/-- Whether there is a folder at a location. -/
def hasFolder (disk : Disk) (place : Location) : Bool :=
  (disk.find? place).any fun (root, path) => root.hasFolder path

/-- Whether there is a file or folder at a location. -/
def has (disk : Disk) (place : Location) : Bool := (disk.file? place).isSome || disk.hasFolder place

/-- The modification time of what is at a location. -/
def modified? (disk : Disk) (place : Location) : Option Int :=
  match disk.file? place with
  | some file => some file.modified
  | none => if disk.hasFolder place then some disk.folderTime else none

/-- The names in the folder at a location. -/
def list (disk : Disk) (place : Location) : List String :=
  match disk.find? place with
  | some (root, path) => root.list path
  | none => []

/-- The first root that has a path, counted from `i`. -/
def findFrom (path : Path) (i : Nat) : List Root → Option Location
  | [] => none
  | root :: roots => if root.has path then some ⟨some i, path⟩ else findFrom path (i + 1) roots

/-- The location that a name in a template stands for. -/
def resolve (disk : Disk) (name : String) : Except PathError Location := do
  let path ← Path.normalize name
  match findFrom path 0 disk.roots with
  | some place => .ok place
  | none => .error (.notFound name)

/-- The disk with one of its roots changed, or what is outside of them. -/
def update (disk : Disk) (change : Root → Root) : Option Nat → Disk
  | some i => { disk with roots := disk.roots.modify i change }
  | none => { disk with outside := change disk.outside }

end Disk

/-! ## 3. The cache -/

/-- A text that was read, and the modification time of its file then. -/
structure CachedText where
  text : String
  modified : Int
  deriving DecidableEq, Repr

/-- The texts that were read. -/
abbrev TextCache := Fields CachedText Location

/-- Reads a text through the cache. -/
def Disk.read (disk : Disk) (cache : TextCache) (place : Location) : Option String × TextCache :=
  match (Fields.get? place cache).filter (some ·.modified == disk.modified? place) with
  | some entry => (some entry.text, cache)
  | none =>
    match disk.file? place with
    | some ⟨some text, modified⟩ => (some text, cache.insert place ⟨text, modified⟩)
    | _ => (none, cache.erase place)

end Stencil
