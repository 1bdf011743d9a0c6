import Stencil.Fields
import Stencil.Files.Names

/-!
Files in memory.

A set of texts under accepted paths. There are no folders but those that the paths of files imply. An addition
has its time, in milliseconds. Who has no clock at hand leaves it to the set, which then takes a time later than all
before and than the time at which it was made.
-/

namespace Stencil

/-- A text and the time at which it was added. -/
structure MemoryFile where
  text : String
  time : Nat
  deriving DecidableEq, Repr

/-- The files, and the latest time given. -/
structure MemoryFiles where
  files : Fields MemoryFile Path
  latest : Nat
  deriving Inhabited

namespace MemoryFiles

/-- No files, at a time. -/
def empty (now : Nat) : MemoryFiles := ⟨[], now⟩

/-- Adds a file or replaces it, at a time. A path that is refused is left aside. -/
def addAt (memory : MemoryFiles) (path text : String) (time : Nat) : MemoryFiles :=
  match Path.normalize path with
  | .ok path => ⟨memory.files.insert path ⟨text, time⟩, max memory.latest time⟩
  | .error _ => memory

/-- Adds a file or replaces it, at a time of its own. -/
def add (memory : MemoryFiles) (path text : String) : MemoryFiles := memory.addAt path text (memory.latest + 1)

/-- Takes a file away. -/
def remove (memory : MemoryFiles) (path : String) : MemoryFiles :=
  match Path.normalize path with
  | .ok path => { memory with files := memory.files.erase path }
  | .error _ => memory

/-- After an addition there is what was added and what was there before. -/
theorem get?_addAt {memory : MemoryFiles} {given text : String} {time : Nat} {path : Path} {file : MemoryFile}
    (h : Fields.get? path (memory.addAt given text time).files = some file) :
    Fields.get? path memory.files = some file ∨ Path.normalize given = .ok path ∧ file = ⟨text, time⟩ := by
  rw [addAt] at h
  split at h
  · next added hgiven =>
    rw [Fields.get?_insert] at h
    split at h
    · next hadded =>
      cases h
      exact .inr ⟨hadded ▸ hgiven, rfl⟩
    · exact .inl h
  · exact .inl h

theorem get?_remove {memory : MemoryFiles} {given : String} {path : Path} {file : MemoryFile}
    (h : Fields.get? path (memory.remove given).files = some file) : Fields.get? path memory.files = some file := by
  rw [remove] at h
  split at h
  · rw [Fields.get?_erase] at h
    split at h
    · cases h
    · exact h
  · exact h

/-- The text of a file. -/
def text? (memory : MemoryFiles) (path : Path) : Option String :=
  (Fields.get? path memory.files).map (·.text)

/-- The time of a file. -/
def time? (memory : MemoryFiles) (path : Path) : Option Nat :=
  (Fields.get? path memory.files).map (·.time)

/-- The names in a folder. -/
def list (memory : MemoryFiles) (folder : Path) : List String :=
  Files.namesIn folder (Fields.keys memory.files)

/-- Whether a path is that of a file or of a folder. -/
def has (memory : MemoryFiles) (path : Path) : Bool :=
  (memory.text? path).isSome || !(memory.list path).isEmpty

/-- The path that a name in a template stands for, when it is there. -/
def resolve (memory : MemoryFiles) (name : String) : Except PathError Path := do
  let path ← Path.normalize name
  if memory.has path then .ok path else .error (.notFound name)

end MemoryFiles

end Stencil
