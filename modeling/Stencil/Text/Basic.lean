/-!
Text as a list of characters: splitting, joining, searching, and sizes in UTF-8.

A string is taken apart once, worked on as a list of characters, and put together again, so every function
of the library that looks inside text is a structural recursion or ends by the length of what is left.
`stripPrefix?` is the step that all searching is built from, and `length_of_stripPrefix?` is what its
callers need to know to end.
-/

namespace Stencil.Text

/-! ## 1. Splitting and joining -/

/-- The pieces between the characters that `p` accepts; always at least one piece. -/
def splitOn (p : Char → Bool) : List Char → List (List Char)
  | [] => [[]]
  | c :: cs =>
    match splitOn p cs with
    | [] => [[]]
    | piece :: pieces => if p c then [] :: piece :: pieces else (c :: piece) :: pieces

/-- The pieces with `sep` between neighbours. -/
def join (sep : List Char) : List (List Char) → List Char
  | [] => []
  | [piece] => piece
  | piece :: pieces => piece ++ sep ++ join sep pieces

/-! ## 2. Searching and replacing -/

/-- `some rest` when the text starts with `pat` and goes on with `rest`. -/
def stripPrefix? : List Char → List Char → Option (List Char)
  | [], cs => some cs
  | _ :: _, [] => none
  | p :: ps, c :: cs => if p = c then stripPrefix? ps cs else none

/-- The text before the first occurrence of `pat` and the text after it. -/
def cutAt? (pat : List Char) : List Char → Option (List Char × List Char)
  | [] => if pat.isEmpty then some ([], []) else none
  | c :: cs =>
    match stripPrefix? pat (c :: cs) with
    | some rest => some ([], rest)
    | none => (cutAt? pat cs).map fun (before, after) => (c :: before, after)

/-- Whether `pat` occurs in the text. -/
def contains (pat cs : List Char) : Bool := (cutAt? pat cs).isSome

/-- What `stripPrefix?` leaves is no longer than the text it was given. -/
theorem length_of_stripPrefix? {pat cs rest : List Char} (h : stripPrefix? pat cs = some rest) :
    cs.length = pat.length + rest.length := by
  induction pat generalizing cs with
  | nil => simp only [stripPrefix?, Option.some.injEq] at h; subst h; simp
  | cons p ps ih =>
    cases cs with
    | nil => simp [stripPrefix?] at h
    | cons c cs =>
      simp only [stripPrefix?] at h
      split at h
      · have := ih h
        simp only [List.length_cons]
        omega
      · simp at h

/-- Cutting at an occurrence loses nothing but the occurrence. -/
theorem length_of_cutAt? {pat cs before after : List Char} (h : cutAt? pat cs = some (before, after)) :
    cs.length = before.length + pat.length + after.length := by
  induction cs generalizing before with
  | nil =>
    simp only [cutAt?] at h
    split at h
    · next hp =>
      simp only [Option.some.injEq, Prod.mk.injEq] at h
      obtain ⟨rfl, rfl⟩ := h
      simp [List.isEmpty_iff.1 hp]
    · simp at h
  | cons c cs ih =>
    simp only [cutAt?] at h
    split at h
    · next hs =>
      simp only [Option.some.injEq, Prod.mk.injEq] at h
      obtain ⟨rfl, rfl⟩ := h
      have := length_of_stripPrefix? hs
      simp only [List.length_nil, List.length_cons] at this ⊢
      omega
    · simp only [Option.map_eq_some_iff, Prod.mk.injEq, Prod.exists] at h
      obtain ⟨b, a, hb, rfl, rfl⟩ := h
      have := ih hb
      simp only [List.length_cons]
      omega

/-- The text with the leftmost non-overlapping occurrences of `pat` exchanged for `new`. An empty `pat`
occurs nowhere. -/
def replaceAll (pat new : List Char) (cs : List Char) : List Char :=
  match pat, cs with
  | [], cs => cs
  | _ :: _, [] => []
  | p :: ps, c :: cs =>
    match _h : stripPrefix? (p :: ps) (c :: cs) with
    | some rest => new ++ replaceAll (p :: ps) new rest
    | none => c :: replaceAll (p :: ps) new cs
termination_by cs.length
decreasing_by
  · have := length_of_stripPrefix? _h
    simp only [List.length_cons] at this ⊢
    omega
  · simp

/-! ## 3. Sizes -/

/-- The bytes that the text takes in UTF-8. -/
def byteSize : List Char → Nat
  | [] => 0
  | c :: cs => c.utf8Size + byteSize cs

/-- The text from byte `start` up to byte `stop`; empty when either is out of range or inside a character. -/
def byteSlice (start stop : Nat) (cs : List Char) : List Char :=
  match dropBytes? start cs with
  | some rest => if stop < start then [] else (takeBytes? (stop - start) rest).getD []
  | none => []
where
  /-- The text after its first `n` bytes. -/
  dropBytes? : Nat → List Char → Option (List Char)
    | 0, cs => some cs
    | _ + 1, [] => none
    | n + 1, c :: cs => if c.utf8Size ≤ n + 1 then dropBytes? (n + 1 - c.utf8Size) cs else none
  /-- The first `n` bytes of the text. -/
  takeBytes? : Nat → List Char → Option (List Char)
    | 0, _ => some []
    | _ + 1, [] => none
    | n + 1, c :: cs =>
      if c.utf8Size ≤ n + 1 then (takeBytes? (n + 1 - c.utf8Size) cs).map (c :: ·) else none

end Stencil.Text
