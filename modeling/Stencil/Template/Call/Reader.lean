import Stencil.Template.Call
import Stencil.Text.Blank

/-!
Reading calls.

The inside of a tag is cut into lexemes, and one pass over them builds the call. The calls that are not closed
yet wait on a stack, so the pass is a fold and ends whatever the input. Reading never fails: a parenthesis
without a partner becomes an `unbalanced` argument at the place where it was noticed. When parentheses are
still open at the end, the whole of the outermost one becomes that mark.
-/

namespace Stencil.Template

open Stencil.Text

/-! ## 1. Lexemes -/

/-- A word or mark inside a tag. -/
inductive Lexeme where
  | word (s : String)
  /-- A word with an equals sign right behind it. -/
  | key (s : String)
  | quoted (s : String)
  | opening
  | closing
  | equals
  | gap
  deriving DecidableEq, Repr

/-- Whether a character goes on with a word that has begun. -/
def isWordChar (c : Char) : Bool := !(isBlank c || c == '(' || c == ')' || c == '=')

/-- The literal after an opening quote, and what follows it. A backslash before the quote or before another
backslash gives that character; before anything else it stands for itself. A literal that is never closed
reaches to the end. -/
def readLiteral (quote : Char) : List Char → List Char × List Char
  | [] => ([], [])
  | ['\\'] => (['\\'], [])
  | '\\' :: c :: cs =>
    let (literal, rest) := readLiteral quote cs
    if c = quote ∨ c = '\\' then (c :: literal, rest) else ('\\' :: c :: literal, rest)
  | c :: cs =>
    if c = quote then ([], cs)
    else
      let (literal, rest) := readLiteral quote cs
      (c :: literal, rest)

theorem length_readLiteral (quote : Char) (cs : List Char) : (readLiteral quote cs).2.length ≤ cs.length := by
  fun_induction readLiteral quote cs with
  | case1 | case2 => simp
  | case3 c cs literal rest h _ ih | case4 c cs literal rest h _ ih =>
    simp only [h] at ih
    simp only [List.length_cons]
    omega
  | case5 cs _ => simp
  | case6 c cs _ _ _ literal rest h ih =>
    simp only [h] at ih
    simp only [List.length_cons]
    omega

theorem length_dropWhile_le {α : Type} (p : α → Bool) (l : List α) : (l.dropWhile p).length ≤ l.length := by
  induction l with
  | nil => simp
  | cons a l ih =>
    rw [List.dropWhile_cons]
    split
    · simp only [List.length_cons]; omega
    · simp

/-- The lexemes of the inside of a tag. A quote opens a literal only where a lexeme starts; inside a word it is
a character like any other. -/
def lexemes : List Char → List Lexeme
  | [] => []
  | c :: cs =>
    if isBlank c then .gap :: lexemes (cs.dropWhile isBlank)
    else if c = '"' ∨ c = '\'' then
      .quoted (.ofList (readLiteral c cs).1) :: lexemes (readLiteral c cs).2
    else if c = '(' then .opening :: lexemes cs
    else if c = ')' then .closing :: lexemes cs
    else if c = '=' then .equals :: lexemes cs
    else
      let word := String.ofList (c :: cs.takeWhile isWordChar)
      match _h : cs.dropWhile isWordChar with
      | '=' :: rest => .key word :: lexemes rest
      | rest => .word word :: lexemes rest
termination_by cs => cs.length
decreasing_by
  all_goals simp only [List.length_cons]
  · have := length_dropWhile_le isBlank cs; omega
  · have := length_readLiteral c cs; omega
  · omega
  · omega
  · omega
  · have := length_dropWhile_le isWordChar cs
    rw [_h] at this
    simp only [List.length_cons] at this
    omega
  · have := length_dropWhile_le isWordChar cs
    rw [_h] at this
    omega

/-! ## 2. Calls under construction -/

/-- A call that is being read, its arguments in reverse. -/
structure OpenCall where
  head? : Option Argument
  positional : List Argument
  named : List (String × Argument)
  /-- The name whose value comes next. -/
  pending : Option String

namespace OpenCall

/-- A call of which nothing is read yet. -/
def start : OpenCall := ⟨none, [], [], none⟩

/-- The call with one more argument: its head, the value of the pending name, or a positional one. -/
def put (call : OpenCall) (arg : Argument) : OpenCall :=
  match call.head?, call.pending with
  | none, _ => { call with head? := some arg }
  | some _, some key => { call with named := (key, arg) :: call.named, pending := none }
  | some _, none => { call with positional := arg :: call.positional }

/-- The call with an empty value for the pending name, if there is one. -/
def settle (call : OpenCall) : OpenCall :=
  if call.pending.isSome then call.put (.quoted "") else call

/-- The finished call, with the given head when none was read. -/
def close (call : OpenCall) (missing : Argument) : Call :=
  let call := call.settle
  ⟨call.head?.getD missing, call.positional.reverse, call.named.reverse⟩

/-- The call after a name with an equals sign. Only a name that stands where an argument may begin takes a
value; as a head or as a value itself it is a word, and the equals sign one more argument. -/
def putKey (call : OpenCall) (key : String) : OpenCall :=
  if call.head?.isNone || call.pending.isSome then (call.put (.bare key)).put (.bare "=")
  else { call with pending := some key }

end OpenCall

/-- The call being read and the calls around it, innermost first. -/
structure CallStack where
  current : OpenCall
  outer : List OpenCall

namespace CallStack

/-- The stack before the first lexeme. -/
def start : CallStack := ⟨.start, []⟩

/-- The stack after one more lexeme. -/
def step (stack : CallStack) : Lexeme → CallStack
  | .gap => { stack with current := stack.current.settle }
  | .word s => { stack with current := stack.current.put (.bare s) }
  | .key s => { stack with current := stack.current.putKey s }
  | .quoted s => { stack with current := stack.current.put (.quoted s) }
  | .equals => { stack with current := stack.current.put (.bare "=") }
  | .opening => ⟨.start, stack.current :: stack.outer⟩
  | .closing =>
    match stack.outer with
    | parent :: outer => ⟨parent.put (stack.current.close .unbalanced).toArgument, outer⟩
    | [] => { stack with current := stack.current.settle.put .unbalanced }

/-- The call that was read. -/
def finish (stack : CallStack) : Call :=
  match stack.outer.getLast? with
  | some call => (call.put .unbalanced).close (.bare "")
  | none => stack.current.close (.bare "")

end CallStack

/-- The call written inside a tag. -/
def Call.read (inner : String) : Call := ((lexemes inner.toList).foldl CallStack.step .start).finish

end Stencil.Template
