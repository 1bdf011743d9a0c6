import Stencil.Toml.Scalar
import Stencil.Toml.Table

/-!
Reading TOML.

A document is read line by line: a header, a key with its value, or nothing, and then perhaps a comment. Values
may go on over several lines. Lists and tables in braces may lie inside one another to a limit, on which the
reader of values is a recursion; everything else goes forward in the text, and the length of the text bounds it.
-/

namespace Stencil.Toml

/-! ## 1. Between things -/

/-- The text behind blanks. -/
def skipBlanks (cs : List Char) : List Char := cs.dropWhile isLineBlank

/-- The text behind a comment, if there is one; `none` when it holds a control character. -/
def skipComment? : List Char → Option (List Char)
  | '#' :: cs =>
    let rest := cs.dropWhile isPlain
    match rest with
    | [] => some []
    | rest => if (lineEnd? rest).isSome then some rest else none
  | cs => some cs

/-- The text behind the end of a line, with the blanks and the comment before it. -/
def endOfLine? (cs : List Char) : Option (List Char) := do
  let cs ← skipComment? (skipBlanks cs)
  if cs.isEmpty then some [] else lineEnd? cs

/-- The text behind blanks, comments and ends of lines, of which there are at most `n`. -/
def skipGap? : Nat → List Char → Option (List Char)
  | 0, cs => some cs
  | n + 1, cs =>
    match skipLines cs with
    | '#' :: rest => (skipComment? ('#' :: rest)).bind (skipGap? n)
    | rest => some rest

/-! ## 2. Keys -/

/-- Whether a key may hold a character without quotes. -/
def isBare (c : Char) : Bool := c.isAlphanum || c == '-' || c == '_'

/-- A key without dots, and the rest. -/
def simpleKey? (cs : List Char) : Option (String × List Char) :=
  match cs.head? with
  | some '"' => (basic? (cs.drop 1)).map fun (s, rest) => (.ofList s, rest)
  | some '\'' => (literal? (cs.drop 1)).map fun (s, rest) => (.ofList s, rest)
  | _ =>
    let word := cs.takeWhile isBare
    if word.isEmpty then none else some (.ofList word, cs.dropWhile isBare)

/-- The parts of a dotted key, of which there are at most `n`, and the rest behind blanks. -/
def key? : Nat → List Char → Option (List String × List Char)
  | 0, _ => none
  | n + 1, cs => do
    let (part, rest) ← simpleKey? (skipBlanks cs)
    match skipBlanks rest with
    | '.' :: rest =>
      let (parts, rest) ← key? n rest
      return (part :: parts, rest)
    | rest => return ([part], rest)

/-- How deep lists, tables and keys may go. -/
def maxDepth : Nat := 79

/-! ## 3. Values -/

/-- The items of a list behind its bracket, of which there are at most `n`, and the rest. -/
def items? (value? : List Char → Option (Toml × List Char)) : Nat → List Char → Option (List Toml × List Char)
  | 0, _ => none
  | n + 1, cs => do
    match ← skipGap? (cs.length + 1) cs with
    | ']' :: rest => return ([], rest)
    | cs =>
      let (v, rest) ← value? cs
      match ← skipGap? (rest.length + 1) rest with
      | ']' :: rest => return ([v], rest)
      | ',' :: rest =>
        let (vs, rest) ← items? value? n rest
        return (v :: vs, rest)
      | _ => none

/-- A key with its value, and the rest. -/
def pair? (value? : List Char → Option (Toml × List Char)) (cs : List Char) :
    Option ((List String × Toml) × List Char) := do
  let (path, rest) ← key? maxDepth cs
  match rest with
  | '=' :: rest =>
    let (v, rest) ← value? (skipBlanks rest)
    return ((path, v), rest)
  | _ => none

/-- The pairs of a table in braces behind the first, of which there are at most `n`, and the rest. -/
def pairs? (value? : List Char → Option (Toml × List Char)) :
    Nat → List Char → Option (List (List String × Toml) × List Char)
  | 0, _ => none
  | n + 1, cs => do
    let (pair, rest) ← pair? value? cs
    match skipBlanks rest with
    | '}' :: rest => return ([pair], rest)
    | ',' :: rest =>
      let (pairs, rest) ← pairs? value? n rest
      return (pair :: pairs, rest)
    | _ => none

/-- A value with no more than `depth` lists and tables inside one another, and the rest. -/
def value? : Nat → List Char → Option (Toml × List Char)
  | 0, cs => scalarValue? cs
  | depth + 1, cs =>
    match cs with
    | '[' :: rest => (items? (value? depth) (rest.length + 1) rest).map fun (vs, rest) => (.list vs, rest)
    | '{' :: rest =>
      match skipBlanks rest with
      | '}' :: rest => some (.table [], rest)
      | rest => do
        let (pairs, rest) ← pairs? (value? depth) (rest.length + 1) rest
        return (← inline? pairs, rest)
    | cs => scalarValue? cs

/-! ## 4. Documents -/

/-- A line of a document. -/
inductive Line where
  | blank
  | pair (path : List String) (v : Toml)
  | header (path : List String) (isList : Bool)

/-- The first line of a text, and the lines behind it. -/
def line? (cs : List Char) : Option (Line × List Char) :=
  match skipBlanks cs with
  | '[' :: '[' :: rest => do
    let (path, rest) ← key? maxDepth rest
    match rest with
    | ']' :: ']' :: rest => return (.header path true, ← endOfLine? rest)
    | _ => none
  | '[' :: rest => do
    let (path, rest) ← key? maxDepth rest
    match rest with
    | ']' :: rest => return (.header path false, ← endOfLine? rest)
    | _ => none
  | cs =>
    if cs.isEmpty ∨ cs.head? = some '#' ∨ (lineEnd? cs).isSome then
      (endOfLine? cs).map fun rest => (.blank, rest)
    else do
      let ((path, v), rest) ← pair? (value? maxDepth) cs
      return (.pair path v, ← endOfLine? rest)

/-- The lines of a text, of which there are at most `n`. -/
def lines? : Nat → List Char → Option (List Line)
  | _, [] => some []
  | 0, _ => none
  | n + 1, cs => do
    let (line, rest) ← line? cs
    return line :: (← lines? n rest)

/-- The pairs before the first header, and the sections. -/
def sections : List Line → List (List String × Toml) × List Section
  | [] => ([], [])
  | .blank :: lines => sections lines
  | .pair path v :: lines =>
    let (pairs, more) := sections lines
    ((path, v) :: pairs, more)
  | .header path isList :: lines =>
    let (pairs, more) := sections lines
    ([], ⟨path, isList, pairs⟩ :: more)

/-- The document in a text. A mark of byte order at its start is left out. -/
def ofText? (s : String) : Option Toml := do
  let cs := match s.toList with
    | '\uFEFF' :: cs => cs
    | cs => cs
  let (pairs, more) := sections (← lines? (cs.length + 1) cs)
  document? pairs more

end Stencil.Toml
