import Stencil.Template.Span
import Stencil.Text.Blank

/-!
Tags and text.

A source without comments is cut into literal text and tags in double braces. Scanning never fails: two braces
that open no tag are reported where they stand and kept as text, and a backslash before two braces takes their
meaning away. The content of a tag ends at the first two closing braces outside a quoted argument; when a
quote is never closed, at the first two closing braces at all.
-/

namespace Stencil.Template

open Stencil.Text

/-! ## 1. Tokens -/

/-- What a piece of a source is. -/
inductive TokenKind where
  /-- Literal text, escapes already undone. -/
  | text (s : String)
  /-- The tag that opens a block. -/
  | opening (inner : String)
  /-- The tag that closes a block. -/
  | closing (name : String)
  /-- The tag between a block's body and its other branch. -/
  | otherwise
  /-- A tag that stands for a value. -/
  | expression (inner : String)
  /-- Two braces that no closing braces belong to. -/
  | unterminated
  deriving DecidableEq, Repr

/-- A piece of a source and its place. -/
structure Token where
  kind : TokenKind
  span : Span
  deriving DecidableEq, Repr

/-- The kind of a tag, by its content without the blanks around it. -/
def TokenKind.ofInner (inner : List Char) : TokenKind :=
  match inner with
  | '#' :: rest => .opening (.ofList (trim rest))
  | '/' :: rest => .closing (.ofList (trim rest))
  | ['e', 'l', 's', 'e'] => .otherwise
  | inner => .expression (.ofList inner)

/-! ## 2. The text before a tag -/

/-- A stretch of text: the characters it stands for, the characters it is written with, and what follows it,
which is empty or starts a tag. -/
structure Stretch where
  shown : List Char
  written : List Char
  rest : List Char

/-- The text up to the first tag. -/
def stretch : List Char → Stretch
  | '\\' :: '{' :: '{' :: cs =>
    let s := stretch cs
    ⟨'{' :: '{' :: s.shown, '\\' :: '{' :: '{' :: s.written, s.rest⟩
  | '{' :: '{' :: cs => ⟨[], [], '{' :: '{' :: cs⟩
  | c :: cs =>
    let s := stretch cs
    ⟨c :: s.shown, c :: s.written, s.rest⟩
  | [] => ⟨[], [], []⟩

theorem written_append_rest (cs : List Char) : (stretch cs).written ++ (stretch cs).rest = cs := by
  fun_induction stretch cs
  case case1 s ih | case3 s ih => simpa [s] using ih
  case case2 | case4 => rfl

/-! ## 3. The content of a tag -/

/-- How the search for the end of a tag comes out. -/
inductive TagScan where
  /-- Closing braces after the content. -/
  | closed (content rest : List Char)
  /-- Another tag opens first. -/
  | interrupted (content rest : List Char)
  /-- The source ends, inside a quoted argument or outside. -/
  | exhausted (quoted : Bool)

/-- The scan with one more character of content in front. -/
def TagScan.cons (c : Char) : TagScan → TagScan
  | .closed content rest => .closed (c :: content) rest
  | .interrupted content rest => .interrupted (c :: content) rest
  | .exhausted quoted => .exhausted quoted

/-- Searches for the end of a tag, inside the quotation that `quote` opened or outside any. Inside one a
backslash takes the meaning of the next character away. -/
def scanTag (quote : Option Char) : List Char → TagScan
  | [] => .exhausted quote.isSome
  | c :: cs =>
    match quote with
    | some q =>
      if c = '\\' then
        match cs with
        | [] => .exhausted true
        | d :: cs => ((scanTag (some q) cs).cons d).cons c
      else (scanTag (if c = q then none else some q) cs).cons c
    | none =>
      match c, cs with
      | '}', '}' :: rest => .closed [] rest
      | '{', '{' :: rest => .interrupted [] ('{' :: '{' :: rest)
      | c, cs => (scanTag (if c = '"' ∨ c = '\'' then some c else none) cs).cons c

/-- The text before the first two opening braces, and the text from there on. -/
def beforeTag : List Char → List Char × List Char
  | [] => ([], [])
  | '{' :: '{' :: cs => ([], '{' :: '{' :: cs)
  | c :: cs =>
    let (before, rest) := beforeTag cs
    (c :: before, rest)

/-- What follows two opening braces: the content of a tag and the text after it, or the stretch that is no
tag and the text after that. -/
inductive TagContent where
  | tag (content rest : List Char)
  | stray (content rest : List Char)

/-- The content of the tag whose opening braces were just passed. A quote that is never closed does not
swallow the rest of the source: the first two closing braces then end the tag all the same. -/
def tagContent (cs : List Char) : TagContent :=
  match scanTag none cs with
  | .closed content rest => .tag content rest
  | .interrupted content rest => .stray content rest
  | .exhausted quoted =>
    match if quoted then cutAt? ['}', '}'] cs else none with
    | some (content, rest) => .tag content rest
    | none =>
      let (content, rest) := beforeTag cs
      .stray content rest

/-! ## 4. Scanning -/

/-- The number of characters that are left after the content of a tag. -/
def TagContent.restLength : TagContent → Nat
  | .tag _ rest | .stray _ rest => rest.length

/-- The number of characters after a scanned tag. -/
def TagScan.restLength : TagScan → Nat
  | .closed _ rest | .interrupted _ rest => rest.length
  | .exhausted _ => 0

@[simp] theorem TagScan.restLength_cons (c : Char) (s : TagScan) : (s.cons c).restLength = s.restLength := by
  cases s <;> rfl

theorem restLength_scanTag (quote : Option Char) (cs : List Char) :
    (scanTag quote cs).restLength ≤ cs.length := by
  fun_induction scanTag quote cs
  case case1 | case2 | case6 => simp [TagScan.restLength]
  case case5 => simp only [TagScan.restLength, List.length_cons]; omega
  case case3 ih => simp only [TagScan.restLength_cons, List.length_cons]; omega
  case case4 ih | case7 ih => simp only [TagScan.restLength_cons, List.length_cons]; omega

theorem length_beforeTag (cs : List Char) : (beforeTag cs).2.length ≤ cs.length := by
  fun_induction beforeTag cs with
  | case1 => simp
  | case2 cs => exact Nat.le_refl _
  | case3 c cs _ before rest h ih =>
    simp only [h] at ih
    simp only [List.length_cons]
    omega

theorem restLength_tagContent (cs : List Char) : (tagContent cs).restLength ≤ cs.length := by
  have hscan := restLength_scanTag none cs
  unfold tagContent
  split
  · next h => rw [h] at hscan; exact hscan
  · next h => rw [h] at hscan; exact hscan
  · split
    · next h =>
      split at h
      · have := length_of_cutAt? h
        simp only [TagContent.restLength]
        omega
      · simp at h
    · exact length_beforeTag cs

theorem length_stretch_rest (cs : List Char) : (stretch cs).rest.length ≤ cs.length := by
  have h := congrArg List.length (written_append_rest cs)
  simp only [List.length_append] at h
  omega

/-- The tokens of a text that starts at byte `start` of its source. -/
def tokensFrom (start : Nat) (cs : List Char) : List Token :=
  let s := stretch cs
  let tagStart := start + byteSize s.written
  let before : List Token :=
    if s.shown.isEmpty then [] else [⟨.text (.ofList s.shown), ⟨start, tagStart⟩⟩]
  match _h : s.rest with
  | _ :: _ :: inner =>
    match _h' : tagContent inner with
    | .tag content rest =>
      let span : Span := ⟨tagStart, tagStart + byteSize content + 4⟩
      before ++ ⟨.ofInner (trim content), span⟩ :: tokensFrom span.stop rest
    | .stray content rest =>
      let span : Span := ⟨tagStart, tagStart + byteSize content + 2⟩
      before ++ ⟨.unterminated, span⟩ :: ⟨.text (.ofList ('{' :: '{' :: content)), span⟩ ::
        tokensFrom span.stop rest
  | _ => before
termination_by cs.length
decreasing_by
  all_goals
    have h₁ := length_stretch_rest cs
    have h₂ := restLength_tagContent inner
    rw [_h'] at h₂
    simp only [s] at _h
    rw [_h] at h₁
    simp only [TagContent.restLength, List.length_cons] at h₁ h₂
    omega

/-- The tokens of a source without comments. -/
def tokens (source : String) : List Token := tokensFrom 0 source.toList

end Stencil.Template
