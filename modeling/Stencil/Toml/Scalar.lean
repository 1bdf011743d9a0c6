import Stencil.Calendar.Reader
import Stencil.Number.Hex
import Stencil.Toml.Basic

/-!
Scalars of a TOML document: strings in their four forms, numbers, and dates and times.

Each reader takes what it reads off the front of a text. Where forms begin alike, the longer one is tried
first: a date with a time, a date, a time, a number with a point or a power, an integer.
-/

namespace Stencil.Toml

open Stencil.Number Stencil.Calendar Stencil.Calendar.Reader

/-! ## 1. Strings -/

/-- Whether a character may stand in a string or comment as it is: no control character but the tab. -/
def isPlain (c : Char) : Bool := c == '\t' || (32 ≤ c.toNat && c.toNat != 127)

/-- The character of a code point, when it has one. -/
def scalar? (n : Nat) : Option Char :=
  if n < 0xD800 ∨ (0xE000 ≤ n ∧ n < 0x110000) then some (.ofNat n) else none

/-- The escapes of one letter. -/
def letterEscape? (c : Char) : Option Char :=
  match c with
  | 'b' => some (.ofNat 8)
  | 't' => some '\t'
  | 'n' => some '\n'
  | 'f' => some (.ofNat 12)
  | 'r' => some '\r'
  | '"' => some '"'
  | '\\' => some '\\'
  | _ => none

/-- What follows a string that began with a character. -/
def prepend (c : Char) (result : Option (List Char × List Char)) : Option (List Char × List Char) :=
  result.map fun (s, rest) => (c :: s, rest)

/-- The character that an escape sequence behind the backslash stands for, and the rest. -/
def escape? : List Char → Option (Char × List Char)
  | 'u' :: cs => (hex? (cs.take 4)).bind fun n =>
    if cs.length < 4 then none else (scalar? n).map fun c => (c, cs.drop 4)
  | 'U' :: cs => (hex? (cs.take 8)).bind fun n =>
    if cs.length < 8 then none else (scalar? n).map fun c => (c, cs.drop 8)
  | c :: cs => (letterEscape? c).map fun c => (c, cs)
  | [] => none

theorem length_of_escape? {cs rest : List Char} {c : Char} (h : escape? cs = some (c, rest)) :
    rest.length < cs.length := by
  unfold escape? at h
  split at h
  · simp only [Option.bind_eq_some_iff] at h
    obtain ⟨n, -, h⟩ := h
    split at h
    · simp at h
    · simp only [Option.map_eq_some_iff, Prod.mk.injEq] at h
      obtain ⟨_, -, -, rfl⟩ := h
      simp only [List.length_cons, List.length_drop]
      omega
  · simp only [Option.bind_eq_some_iff] at h
    obtain ⟨n, -, h⟩ := h
    split at h
    · simp at h
    · simp only [Option.map_eq_some_iff, Prod.mk.injEq] at h
      obtain ⟨_, -, -, rfl⟩ := h
      simp only [List.length_cons, List.length_drop]
      omega
  · simp only [Option.map_eq_some_iff, Prod.mk.injEq] at h
    obtain ⟨_, -, -, rfl⟩ := h
    simp
  · simp at h

/-- A string in double quotes, behind the first one. -/
def basic? (cs : List Char) : Option (List Char × List Char) :=
  match cs with
  | [] => none
  | '"' :: rest => some ([], rest)
  | c :: rest =>
    if c = '\\' then
      match _h : escape? rest with
      | some (e, after) => prepend e (basic? after)
      | none => none
    else if isPlain c then prepend c (basic? rest) else none
termination_by cs.length
decreasing_by
  · have := length_of_escape? _h
    simp only [List.length_cons]
    omega
  · simp

/-- A string in single quotes, behind the first one. Nothing is escaped. -/
def literal? : List Char → Option (List Char × List Char)
  | [] => none
  | '\'' :: rest => some ([], rest)
  | c :: rest => if isPlain c then prepend c (literal? rest) else none

/-- Whether a character is a blank within a line. -/
def isLineBlank (c : Char) : Bool := c == ' ' || c == '\t'

/-- The text after the end of a line, when that is at the front. -/
def lineEnd? : List Char → Option (List Char)
  | '\n' :: cs => some cs
  | '\r' :: '\n' :: cs => some cs
  | _ => none

/-- The text behind all blanks and ends of lines. -/
def skipLines (cs : List Char) : List Char :=
  match cs with
  | '\r' :: '\n' :: rest => skipLines rest
  | c :: rest => if isLineBlank c || c == '\n' then skipLines rest else c :: rest
  | [] => []

theorem length_skipLines_le (cs : List Char) : (skipLines cs).length ≤ cs.length := by
  fun_induction skipLines cs with
  | case1 rest ih => simp only [List.length_cons]; omega
  | case2 c rest _ _ ih => simp only [List.length_cons]; omega
  | case3 => exact Nat.le_refl _
  | case4 => exact Nat.le_refl _

theorem length_skipLines_lt (c : Char) (rest : List Char) : (skipLines rest).length < (c :: rest).length :=
  Nat.lt_succ_of_le (length_skipLines_le rest)

/-- The text without one end of a line at its front. -/
def dropLineEnd (cs : List Char) : List Char := (lineEnd? cs).getD cs

/-- The end of a string over several lines: three quotes, up to two more before them being part of it. -/
def closing? (quote : Char) : List Char → Option (List Char × List Char)
  | a :: b :: c :: cs =>
    if a = quote ∧ b = quote ∧ c = quote then
      match cs with
      | d :: e :: rest =>
        if d = quote ∧ e = quote then some ([quote, quote], rest)
        else if d = quote then some ([quote], e :: rest) else some ([], d :: e :: rest)
      | [d] => if d = quote then some ([quote], []) else some ([], [d])
      | [] => some ([], [])
    else none
  | _ => none

/-- A string in three double quotes, behind the first ones. A backslash at the end of a line takes the blanks
that follow away, in this line and the next ones. -/
def basicLines? (cs : List Char) : Option (List Char × List Char) :=
  match closing? '"' cs with
  | some found => some found
  | none =>
    match cs with
    | [] => none
    | '\r' :: '\n' :: rest => prepend '\n' (basicLines? rest)
    | c :: rest =>
      if c = '\\' then
        match lineEnd? (rest.dropWhile isLineBlank) with
        | some _ => basicLines? (skipLines rest)
        | none =>
          match _h : escape? rest with
          | some (e, after) => prepend e (basicLines? after)
          | none => none
      else if isPlain c || c == '\n' then prepend c (basicLines? rest) else none
termination_by cs.length
decreasing_by
  · simp only [List.length_cons]
    omega
  · exact length_skipLines_lt c rest
  · have := length_of_escape? _h
    simp only [List.length_cons]
    omega
  · simp

/-- A string in three single quotes, behind the first ones. -/
def literalLines? (cs : List Char) : Option (List Char × List Char) :=
  match closing? '\'' cs with
  | some found => some found
  | none =>
    match cs with
    | [] => none
    | '\r' :: '\n' :: rest => prepend '\n' (literalLines? rest)
    | c :: rest => if isPlain c || c == '\n' then prepend c (literalLines? rest) else none
termination_by cs.length

/-- A string in one of the four forms. -/
def string? : List Char → Option (List Char × List Char)
  | '"' :: '"' :: '"' :: cs => basicLines? (dropLineEnd cs)
  | '"' :: cs => basic? cs
  | '\'' :: '\'' :: '\'' :: cs => literalLines? (dropLineEnd cs)
  | '\'' :: cs => literal? cs
  | _ => none

/-! ## 2. Numbers -/

/-- Digits that go on a number, each perhaps behind a low line, without the low lines, and the rest. -/
def moreDigits (isDigit : Char → Bool) : List Char → List Char × List Char
  | '_' :: c :: cs =>
    if isDigit c then
      let (ds, rest) := moreDigits isDigit cs
      (c :: ds, rest)
    else ([], '_' :: c :: cs)
  | c :: cs =>
    if isDigit c then
      let (ds, rest) := moreDigits isDigit cs
      (c :: ds, rest)
    else ([], c :: cs)
  | [] => ([], [])

/-- Digits with single low lines between them, without the low lines, and the rest. At least one digit. -/
def run? (isDigit : Char → Bool) : List Char → Option (List Char × List Char)
  | [] => none
  | c :: cs =>
    if isDigit c then
      let (ds, rest) := moreDigits isDigit cs
      some (c :: ds, rest)
    else none

/-- The digits of a whole number: a zero by itself, or a run that does not begin with one. -/
def whole? : List Char → Option (List Char × List Char)
  | '0' :: cs => some (['0'], cs)
  | cs => run? Char.isDigit cs

/-- A number to another base, behind its mark. -/
def based? (base : Nat) (cs : List Char) : Option (Int × List Char) :=
  (run? (fun c => (hexValue? c).any (· < base)) cs).map fun (ds, rest) =>
    ((ds.foldl (fun n c => base * n + (hexValue? c).getD 0) 0 : Nat), rest)

/-- An integer of 64 bits. -/
def integer? (cs : List Char) : Option (Int × List Char) := do
  let (i, rest) ← match cs with
    | '0' :: 'x' :: cs => based? 16 cs
    | '0' :: 'o' :: cs => based? 8 cs
    | '0' :: 'b' :: cs => based? 2 cs
    | cs => do
      let (negative, cs) := signOf cs
      let (ds, rest) ← whole? cs
      let n ← value? ds
      some (if negative then -(n : Int) else n, rest)
  if -(2 ^ 63) ≤ i ∧ i < 2 ^ 63 then some (i, rest) else none

/-- A power of ten behind its letter. -/
def power? : List Char → Option (Int × List Char)
  | c :: cs =>
    if c = 'e' ∨ c = 'E' then do
      let (negative, cs) := signOf cs
      let (ds, rest) ← run? Char.isDigit cs
      let n ← value? ds
      return (if negative then -(n : Int) else n, rest)
    else none
  | [] => none

/-- A number with a point or a power of ten, and not one that is too large. -/
def real? (cs : List Char) : Option (Float × List Char) := do
  let (negative, cs) := signOf cs
  match cs with
  | 'i' :: 'n' :: 'f' :: rest => return (if negative then -1.0 / 0.0 else 1.0 / 0.0, rest)
  | 'n' :: 'a' :: 'n' :: rest => return (0.0 / 0.0, rest)
  | cs =>
    let (ds, rest) ← whole? cs
    let (fraction, rest) ← match rest with
      | '.' :: more => run? Char.isDigit more
      | rest => if (power? rest).isSome then some ([], rest) else none
    let (power, rest) := (power? rest).getD (0, rest)
    let x := (Numeral.mk ds fraction power).toFloat
    if x.isInf && !negative then none
    return (if negative then -x else x, rest)

/-! ## 3. Dates and times -/

/-- The digits behind the point of a second that count: at most nine, without the zeros at their end. -/
def significantFraction (ds : List Char) : List Char :=
  ((ds.take 9).reverse.dropWhile (· == '0')).reverse

/-- A time of the day in its plain form, and the rest. -/
def time? (cs : List Char) : Option (List Char × List Char) := do
  let (hour, cs) ← number? 2 2 cs
  let cs ← exactly? ':' cs
  let (minute, cs) ← number? 2 2 cs
  let cs ← exactly? ':' cs
  let (second, cs) ← number? 2 2 cs
  guard (hour < 24 ∧ minute < 60 ∧ second ≤ 60)
  let text := padded 2 hour ++ ':' :: padded 2 minute ++ ':' :: padded 2 second
  match cs with
  | '.' :: more =>
    let (ds, rest) := spanDigits more
    if ds.isEmpty then none
    let ds := significantFraction ds
    return (if ds.isEmpty then text else text ++ '.' :: ds, rest)
  | cs => return (text, cs)

/-- An offset in its plain form, and the rest. -/
def offset? : List Char → Option (List Char × List Char)
  | 'Z' :: rest | 'z' :: rest => some (['Z'], rest)
  | sign :: cs => do
    if sign ≠ '+' ∧ sign ≠ '-' then none
    let (hours, cs) ← number? 2 2 cs
    let cs ← exactly? ':' cs
    let (minutes, cs) ← number? 2 2 cs
    guard (hours < 24 ∧ minutes < 60)
    let sign := if hours = 0 ∧ minutes = 0 then '+' else sign
    return (sign :: padded 2 hours ++ ':' :: padded 2 minutes, cs)
  | [] => none

/-- A date, a time, or both with an offset or without, in plain form, and the rest. -/
def date? (cs : List Char) : Option (List Char × List Char) :=
  match day? cs with
  | none => time? cs
  | some (day, rest) =>
    match behindDay? rest with
    | none => some (day, rest)
    | some (time, rest) =>
      match offset? rest with
      | none => some (day ++ 'T' :: time, rest)
      | some (offset, rest) => some (day ++ 'T' :: time ++ offset, rest)
where
  /-- A day of the calendar. -/
  day? (cs : List Char) : Option (List Char × List Char) := do
    let (year, cs) ← number? 4 4 cs
    let cs ← exactly? '-' cs
    let (month, cs) ← number? 2 2 cs
    let cs ← exactly? '-' cs
    let (day, cs) ← number? 2 2 cs
    let date ← Date.ofParts? year month day
    return (dateText date, cs)
  /-- The time behind a day. -/
  behindDay? : List Char → Option (List Char × List Char)
    | c :: cs => if c = 'T' ∨ c = 't' ∨ c = ' ' then time? cs else none
    | [] => none

/-! ## 4. Scalars -/

/-- A word or number. -/
def plainScalar? (cs : List Char) : Option (Toml × List Char) :=
  match cs with
  | 't' :: 'r' :: 'u' :: 'e' :: rest => some (.bool true, rest)
  | 'f' :: 'a' :: 'l' :: 's' :: 'e' :: rest => some (.bool false, rest)
  | cs =>
    match date? cs with
    | some (text, rest) => some (.date (.ofList text), rest)
    | none =>
      match real? cs with
      | some (x, rest) => some (.real x, rest)
      | none => (integer? cs).map fun (i, rest) => (.integer i, rest)

/-- A value that is neither a list nor a table. -/
def scalarValue? (cs : List Char) : Option (Toml × List Char) :=
  match cs.head? with
  | some '"' | some '\'' => (string? cs).map fun (s, rest) => (.string (.ofList s), rest)
  | _ => plainScalar? cs

end Stencil.Toml
