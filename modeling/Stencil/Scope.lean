import Stencil.Value.Basic

/-!
Scopes.

What a name means depends on where it stands: each block, component and loop pass adds a frame of its own
bindings to the ones around it, and takes it away when it is done. A lookup goes from the innermost frame
outwards and stops at a frame that is marked as isolated. The root frame holds the data of the render; it is
apart from the others in the type, so there is always one.
-/

namespace Stencil

/-! ## 1. Frames -/

/-- The bindings of one block, and whether they hide everything around them. -/
structure Frame where
  bindings : Fields Value
  isolated : Bool

/-- The frames above the root, innermost first, and the root. -/
structure Scope where
  frames : List Frame
  root : Fields Value
  deriving Inhabited

namespace Scope

/-- The scope with nothing but a root. -/
def ofFields (root : Fields Value) : Scope := ⟨[], root⟩

/-- The scope whose root holds the entries of a map; of no other value. -/
def ofValue (data : Value) : Scope := .ofFields data.entries

/-! ## 2. Looking up -/

/-- The meaning of a name from the given frames outwards. -/
def getFrom (root : Fields Value) (key : String) : List Frame → Option Value
  | [] => Fields.get? key root
  | frame :: frames =>
    match Fields.get? key frame.bindings with
    | some v => some v
    | none => if frame.isolated then none else getFrom root key frames

/-- The meaning of a name. -/
def get? (scope : Scope) (key : String) : Option Value := getFrom scope.root key scope.frames

/-- Whether a name has a meaning. -/
def has (scope : Scope) (key : String) : Bool := (scope.get? key).isSome

/-- The value at a path that starts with a name. -/
def getPath? (scope : Scope) : List String → Option Value
  | [] => none
  | key :: rest => (scope.get? key).bind (·.getPath? rest)

/-- The segments of a dotted path; always at least one. -/
def segments (dotted : String) : List String :=
  (Text.splitOn (· == '.') dotted.toList).map String.ofList

/-- The value at a dotted path. -/
def lookup? (scope : Scope) (dotted : String) : Option Value := scope.getPath? (segments dotted)

/-- The number of frames, the root included. -/
def depth (scope : Scope) : Nat := scope.frames.length + 1

/-- All bindings that the given frames leave visible, inner ones winning. -/
def flattenFrom (root : Fields Value) : List Frame → Fields Value
  | [] => root
  | frame :: frames =>
    if frame.isolated then frame.bindings
    else (flattenFrom root frames).insertAll frame.bindings

/-- All visible bindings in one map. -/
def flatten (scope : Scope) : Fields Value := flattenFrom scope.root scope.frames

/-! ## 3. Binding -/

/-- The scope with a name bound in its innermost frame. -/
def insert (scope : Scope) (key : String) (v : Value) : Scope :=
  match scope.frames with
  | frame :: frames => { scope with frames := { frame with bindings := frame.bindings.insert key v } :: frames }
  | [] => { scope with root := scope.root.insert key v }

/-- The scope with a name bound in its root, visible to every later part of the render. -/
def insertRoot (scope : Scope) (key : String) (v : Value) : Scope :=
  { scope with root := scope.root.insert key v }

/-- The name that local variables live under. -/
def varsName : String := "vars"

/-- The local variables as visible. -/
def vars (scope : Scope) : Fields Value := ((scope.get? varsName).getD .null).entries

/-- The scope with a local variable set in its innermost frame. All visible variables are copied there first,
so that the frames around keep their own view. -/
def setVar (scope : Scope) (name : String) (v : Value) : Scope :=
  scope.insert varsName (.map (scope.vars.insert name v))

/-- The scope with a value at a dotted path below a name of the root. -/
def setNamespaced (scope : Scope) (name dotted : String) (v : Value) : Scope :=
  let current := ((Fields.get? name scope.root).filter Value.isMap).getD (.map [])
  scope.insertRoot name (current.insertPath v (segments dotted))

/-! ## 4. Frames -/

/-- The scope with one more frame. -/
def push (scope : Scope) (bindings : Fields Value) : Scope :=
  { scope with frames := ⟨bindings, false⟩ :: scope.frames }

/-- The scope with one more frame that hides everything around it. -/
def pushIsolated (scope : Scope) (bindings : Fields Value) : Scope :=
  { scope with frames := ⟨bindings, true⟩ :: scope.frames }

/-- The scope without its innermost frame; the root stays. -/
def pop (scope : Scope) : Scope := { scope with frames := scope.frames.tail }

end Scope

/-! ## 5. The meaning of bare words -/

namespace Scope

/-- The words that always mean the same value. -/
def keyword? (word : String) : Option Value :=
  if word = "true" then some (.bool true)
  else if word = "false" then some (.bool false)
  else if word = "null" ∨ word = "undefined" then some .null
  else none

/-- A keyword or a number. -/
def constant? (word : String) : Option Value :=
  match keyword? word with
  | some v => some v
  | none => if Number.looksNumeric word.toList then some (.number (Number.parse word)) else none

/-- The value of a bare word as an argument. A word with a slash is literal text, as file names are. A dotted
word is a path only when its first segment is visible, so that names with dots survive as text. Any other
word that has no meaning stands for itself. -/
def coerce (scope : Scope) (word : String) : Value :=
  match constant? word with
  | some v => v
  | none =>
    let cs := word.toList
    if cs.any (fun c => c == '/' || c == '\\') then .string word
    else if cs.any (· == '.') then
      if scope.has ((segments word).headD "") then (scope.lookup? word).getD .null else .string word
    else (scope.get? word).getD (.string word)

/-- The value of a bare word that is an expression by itself; a word without meaning has none. -/
def resolve? (scope : Scope) (word : String) : Option Value :=
  match constant? word with
  | some v => some v
  | none => scope.lookup? word

end Scope

end Stencil
