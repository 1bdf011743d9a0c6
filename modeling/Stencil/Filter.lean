import Stencil.Filter.Pattern
import Stencil.Value.Basic

/-!
What a caller may see.

The data that a render gets from the framework is filtered by whether the caller is authenticated. A list of
patterns for that state says what is taken out; a list of patterns for both says what is kept all the same.
Filtering looks the kept values up first, takes out what is denied, and puts the kept values back, so that a
whole subtree can be denied and a small part of it still be shown.

Lists are transparent: a pattern applies to every item of a list that it meets, and only keys of maps are ever
taken out. A list that was taken out is not rebuilt from single items.

Each pattern is worked off segment by segment. For one segment, a walk goes down through lists, and for the
segment of any depth also through maps, and hands what it reaches on to the rest of the pattern.
-/

namespace Stencil.Filter

/-! ## 1. Places -/

/-- A step from a value to a part of it. -/
inductive Step where
  | key (key : String)
  | index (i : Nat)
  deriving DecidableEq, Repr

/-- A part of the data and where it stands. -/
structure Capture where
  path : List Step
  value : Value

/-- Whether a segment goes on through any number of levels: two stars that are not at the end. -/
def Segment.isDeep (segment : Segment) (last : Bool) : Bool := decide (segment = .anyDepth) && !last

/-! ## 2. Capturing -/

mutual

/-- What one segment reaches in a value, handed to `next` with its place. The path comes in reverse. -/
def captureAt (segment : Segment) (last : Bool) (next : List Step → Value → List Capture)
    (path : List Step) : Value → List Capture
  | .list items => captureItems segment last next path 0 items
  | .map entries =>
    (if segment.isDeep last then next path (.map entries) else []) ++
      captureEntries segment last next path entries
  | _ => []

/-- What one segment reaches in the items of a list, counted from `i`. -/
def captureItems (segment : Segment) (last : Bool) (next : List Step → Value → List Capture)
    (path : List Step) (i : Nat) : List Value → List Capture
  | [] => []
  | v :: items =>
    captureAt segment last next (.index i :: path) v ++ captureItems segment last next path (i + 1) items

/-- What one segment reaches in the entries of a map. -/
def captureEntries (segment : Segment) (last : Bool) (next : List Step → Value → List Capture)
    (path : List Step) : List (String × Value) → List Capture
  | [] => []
  | (key, v) :: entries =>
    (if segment.accepts key then
      if segment.isDeep last then captureAt segment last next (.key key :: path) v
      else next (.key key :: path) v
    else []) ++ captureEntries segment last next path entries

end

/-- Everything a pattern reaches. The path comes in reverse. -/
def capture : List Segment → List Step → Value → List Capture
  | [], path, v => [⟨path.reverse, v⟩]
  | segment :: rest, path, v => captureAt segment rest.isEmpty (capture rest) path v

/-! ## 3. Taking out -/

mutual

/-- The value without what one segment reaches, when it is the last, or with `next` applied to that. -/
def removeAt (segment : Segment) (last : Bool) (next : Value → Value) : Value → Value
  | .list items => .list (removeItems segment last next items)
  | .map entries =>
    if segment.isDeep last then next (.map (removeEntries segment last next entries))
    else .map (removeEntries segment last next entries)
  | v => v

/-- The items of a list, each without what the segment reaches. -/
def removeItems (segment : Segment) (last : Bool) (next : Value → Value) : List Value → List Value
  | [] => []
  | v :: items => removeAt segment last next v :: removeItems segment last next items

/-- The entries of a map without what the segment reaches. -/
def removeEntries (segment : Segment) (last : Bool) (next : Value → Value) :
    List (String × Value) → List (String × Value)
  | [] => []
  | (key, v) :: entries =>
    if !segment.accepts key then (key, v) :: removeEntries segment last next entries
    else if last then removeEntries segment last next entries
    else if segment.isDeep last then
      (key, removeAt segment last next v) :: removeEntries segment last next entries
    else (key, next v) :: removeEntries segment last next entries

end

/-- The value without everything that a pattern reaches. -/
def remove : List Segment → Value → Value
  | [], v => v
  | segment :: rest, v => removeAt segment rest.isEmpty (remove rest) v

/-! ## 4. Putting back -/

/-- Whether a path goes through a list. -/
def throughList (path : List Step) : Bool :=
  path.any fun
    | .index _ => true
    | .key _ => false

/-- The value with another one put back at a path. Maps on the way are made where they are missing; lists are
not. -/
def restore (new : Value) : List Step → Value → Value
  | [], _ => new
  | .index i :: rest, target =>
    match target with
    | .list items =>
      match items[i]? with
      | some item => .list (items.set i (restore new rest item))
      | none => target
    | _ => target
  | .key key :: rest, target =>
    let entries := target.entries
    if rest.isEmpty then .map (Fields.insert key new entries)
    else
      match Fields.get? key entries with
      | some child => .map (Fields.insert key (restore new rest child) entries)
      | none =>
        if throughList rest then .map entries
        else .map (Fields.insert key (restore new rest (.map [])) entries)

end Filter

/-! ## 5. The filter -/

/-- The patterns for authenticated callers, for all others, and for what is always kept. -/
structure Filter where
  withAuth : List Filter.Pattern
  withoutAuth : List Filter.Pattern
  alwaysAllow : List Filter.Pattern
  deriving DecidableEq, Repr

namespace Filter

/-- The filter of three lists of texts; texts that spell no pattern are left out. -/
def ofTexts (withAuth withoutAuth alwaysAllow : List String) : Filter :=
  ⟨withAuth.filterMap Pattern.read?, withoutAuth.filterMap Pattern.read?, alwaysAllow.filterMap Pattern.read?⟩

/-- Whether the filter denies nothing to anyone. -/
def isEmpty (filter : Filter) : Bool := filter.withAuth.isEmpty && filter.withoutAuth.isEmpty

/-- The patterns of what is denied in an authentication state. -/
def rules (filter : Filter) (authenticated : Bool) : List Pattern :=
  if authenticated then filter.withAuth else filter.withoutAuth

/-- The data as a caller may see it. -/
def apply (filter : Filter) (authenticated : Bool) (data : Value) : Value :=
  let rules := filter.rules authenticated
  if rules.isEmpty then data
  else
    let kept := filter.alwaysAllow.flatMap fun pattern => capture pattern.segments [] data
    let removed := rules.foldl (fun v pattern => remove pattern.segments v) data
    kept.foldl (fun v c => restore c.value c.path v) removed

end Filter

end Stencil
