import Stencil.Files.Disk
import Stencil.Files.Memory

/-!
The files of templates.

Templates come from memory or from disk. Either way a name is first resolved to a location, and everything else
is asked of the location. Who does not come from a template may also ask for an address, which is a location as it
is written out: on disk it makes a difference whether there is a slash at its end.
-/

namespace Stencil

/-! ## 1. Locations -/

/-- Where templates read their files. -/
inductive Files where
  | memory (files : MemoryFiles)
  | disk (disk : Disk) (cache : TextCache)

namespace Files

/-- The location that a name in a template stands for. -/
def resolve : Files → String → Except PathError Location
  | .memory files, name => (files.resolve name).map fun path => ⟨none, path⟩
  | .disk d _, name => d.resolve name

/-- The text at a location, and the files after it was read. -/
def read (files : Files) (place : Location) : Option String × Files :=
  match files with
  | .memory m => (m.text? place.path, files)
  | .disk d cache =>
    let (text, cache) := d.read cache place
    (text, .disk d cache)

/-- The modification time of what is at a location, in milliseconds. -/
def modified? : Files → Location → Option Int
  | .memory files, place => (files.time? place.path).map Int.ofNat
  | .disk d _, place => d.modified? place

/-- The names in the folder at a location. -/
def list : Files → Location → List String
  | .memory files, place => files.list place.path
  | .disk d _, place => d.list place

/-- Whether there is a file or folder at a location. -/
def has : Files → Location → Bool
  | .memory files, place => files.has place.path
  | .disk d _, place => d.has place

/-- The files without what was read of a location. -/
def forget : Files → Location → Files
  | .memory files, _ => .memory files
  | .disk d cache, place => .disk d (cache.erase place)

/-- The files without anything that was read of them. -/
def forgetAll : Files → Files
  | .memory files => .memory files
  | .disk d _ => .disk d []

/-- How many texts that were read are kept. -/
def cachedCount : Files → Nat
  | .memory _ => 0
  | .disk _ cache => cache.length

end Files

/-! ## 2. Addresses -/

/-- A location as it is written out. A folder is meant when there is a slash at its end. -/
structure FileAddress where
  place : Location
  folder : Bool
  deriving DecidableEq, Repr

/-- The address that a path on disk is, taken from one of the roots or from outside of them. A path that starts
with a slash is outside of everything that is known here. -/
def FileAddress.onDisk (root : Option Nat) (text : String) : FileAddress :=
  match Path.components text with
  | "/" :: path => ⟨⟨none, "/" :: path⟩, false⟩
  | path =>
    let last := (Text.splitOn (· == '/') text.toList).getLast?
    ⟨⟨root, path.filter (· != ".")⟩, last == some [] || last == some ['.']⟩

/-- The address that a path in memory is; slashes at its end mean nothing there. -/
def FileAddress.inMemory (text : String) : FileAddress := ⟨⟨none, Path.components text⟩, false⟩

namespace Files

/-- The address that a path is among these files. -/
def address (files : Files) (root : Option Nat) (text : String) : FileAddress :=
  match files with
  | .memory _ => .inMemory text
  | .disk .. => .onDisk root text

/-- Whether nothing can be at an address, because it names as a folder what is none. -/
def misses (files : Files) (address : FileAddress) : Bool :=
  match files with
  | .memory _ => false
  | .disk d _ => address.folder && !d.hasFolder address.place

/-- The text at an address, and the files after it was read. -/
def readAt (files : Files) (address : FileAddress) : Option String × Files :=
  if files.misses address then (none, files.forget address.place) else files.read address.place

/-- The modification time of what is at an address. -/
def modifiedAt? (files : Files) (address : FileAddress) : Option Int :=
  if files.misses address then none else files.modified? address.place

/-- Whether there is a file or folder at an address. -/
def hasAt (files : Files) (address : FileAddress) : Bool := !files.misses address && files.has address.place

/-- The files with a file written to an address on disk. -/
def write (files : Files) (address : FileAddress) (file : DiskFile) : Files :=
  match files with
  | .memory m => .memory m
  | .disk d cache =>
    if address.folder then files
    else .disk (d.update (·.write address.place.path file) address.place.root) cache

/-- The files without the file at an address on disk. -/
def delete (files : Files) (address : FileAddress) : Files :=
  match files with
  | .memory m => .memory m
  | .disk d cache =>
    if address.folder then files
    else .disk (d.update (·.delete address.place.path) address.place.root) cache

end Files

end Stencil
