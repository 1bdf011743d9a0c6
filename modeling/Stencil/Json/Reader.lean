import Stencil.Json.Basic
import Stencil.Number.Hex
import Stencil.Number.Numeral

/-!
Reading JSON.

Reading goes in three steps. `Token.scan?` cuts the text into tokens. `Written.ofTokens?` checks the nesting
with one pass over the tokens and an explicit stack of open lists and objects, and yields what was written.
`Written.value?` is what that means: of repeated names the last counts, strings may not hold half a surrogate
pair, numbers must fit a double, and nesting has a limit. The last step is apart because a reader of a document
with fixed keys applies it only to the parts that it keeps.
-/

namespace Stencil.Json

open Stencil.Text Stencil.Number

/-! ## 1. Numbers -/

/-- The digits before the point, the digits after it when there is a point, and the power of ten. -/
structure WrittenNumber where
  negative : Bool
  whole : List Char
  fraction : Option (List Char)
  exponent : Option Int
  deriving DecidableEq

/-- Digits appended to a significand for as long as it fits in 64 bits; the digits left over. -/
def accumulate (significand : Nat) : List Char → Nat × List Char
  | [] => (significand, [])
  | c :: cs =>
    let next := 10 * significand + ((digitValue? c).getD 0)
    if next < 2 ^ 64 then accumulate next cs else (significand, c :: cs)

/-- A power of ten as the nearest double, up to the largest that is finite. -/
def powerOfTen (n : Nat) : Float := Float.ofScientific 1 false n

/-- Divides by `10^n` in steps that a double can hold. -/
def scaleDown (x : Float) (n : Nat) : Float :=
  if n ≤ 308 then x / powerOfTen n
  else if x == 0 then x
  else scaleDown (x / powerOfTen 308) (n - 308)
termination_by n

/-- `significand · 10^power` by one multiplication or division; `none` when it is too large for a double. -/
def scaled? (significand : Nat) (power : Int) : Option Float :=
  let x := Float.ofNat significand
  if power < 0 then some (scaleDown x power.natAbs)
  else if power ≤ 308 then
    let y := x * powerOfTen power.natAbs
    if y.isInf then none else some y
  else if x == 0 then some x
  else none

/-- What a written number means: an exact integer when it has neither point nor power and fits a machine word,
and a double otherwise. -/
def WrittenNumber.value? (n : WrittenNumber) : Option Json :=
  let (significand, dropped) := accumulate 0 n.whole
  let signed (x : Float) : Json := .real (if n.negative then -x else x)
  if n.fraction.isNone && n.exponent.isNone && dropped.isEmpty then
    if !n.negative then some (.integer significand)
    else if 0 < significand && significand ≤ 2 ^ 63 then some (.integer (-significand))
    else some (signed (Float.ofNat significand))
  else
    let fraction := n.fraction.getD []
    let (significand, rest) := accumulate significand fraction
    let power : Int := dropped.length - (fraction.length - rest.length : Nat)
    let exponent := n.exponent.getD 0
    if exponent.natAbs ≤ 2147483647 then (scaled? significand (power + exponent)).map signed
    else if significand ≠ 0 && 0 < exponent then none
    else some (signed 0)

/-- The digits behind a point, if there is one at the front of the text, and the rest. -/
def readFraction? : List Char → Option (Option (List Char) × List Char)
  | '.' :: rest =>
    let (ds, rest) := spanDigits rest
    if ds.isEmpty then none else some (some ds, rest)
  | rest => some (none, rest)

/-- The power of ten, if there is one at the front of the text, and the rest. -/
def readPower? : List Char → Option (Option Int × List Char)
  | [] => some (none, [])
  | c :: rest =>
    if c = 'e' ∨ c = 'E' then
      let (minus, rest) := signOf rest
      let (ds, rest) := spanDigits rest
      (capped? (2 ^ 31) ds).map fun n => (some (if minus then -(n : Int) else n), rest)
    else some (none, c :: rest)

/-- A number at the front of the text, without its sign. -/
def readNumber? (negative : Bool) (cs : List Char) : Option (WrittenNumber × List Char) :=
  let (whole, rest) := spanDigits cs
  if whole.isEmpty || (whole.head? == some '0' && 1 < whole.length) then none
  else do
    let (fraction, rest) ← readFraction? rest
    let (exponent, rest) ← readPower? rest
    return (⟨negative, whole, fraction, exponent⟩, rest)

/-! ## 2. Strings -/

/-- A unit of a written string: a character that stands for itself, or a 16-bit code. -/
inductive Piece where
  | char (c : Char)
  | code (n : Nat)
  deriving DecidableEq

/-- The value of four hexadecimal digits. -/
def hexCode? (a b c d : Char) : Option Nat := hex? [a, b, c, d]

/-- The escapes of one letter. -/
def letterEscape? (c : Char) : Option Char :=
  match c with
  | '"' => some '"'
  | '\\' => some '\\'
  | '/' => some '/'
  | 'b' => some (.ofNat 8)
  | 'f' => some (.ofNat 12)
  | 'n' => some '\n'
  | 'r' => some '\r'
  | 't' => some '\t'
  | _ => none

/-- A string up to its closing quote, and the rest. Control characters must be escaped. -/
def readPieces? : List Char → Option (List Piece × List Char)
  | [] => none
  | '"' :: rest => some ([], rest)
  | '\\' :: 'u' :: a :: b :: c :: d :: rest => do
    let n ← hexCode? a b c d
    let (pieces, rest) ← readPieces? rest
    return (.code n :: pieces, rest)
  | '\\' :: c :: rest => do
    let e ← letterEscape? c
    let (pieces, rest) ← readPieces? rest
    return (.char e :: pieces, rest)
  | c :: rest => do
    if c.toNat < 32 then none
    let (pieces, rest) ← readPieces? rest
    return (.char c :: pieces, rest)

/-- The characters of a written string; `none` when it holds half a surrogate pair. -/
def pieceChars? : List Piece → Option (List Char)
  | [] => some []
  | .char c :: pieces => (pieceChars? pieces).map (c :: ·)
  | .code n :: .code m :: pieces =>
    if 0xD800 ≤ n ∧ n < 0xDC00 ∧ 0xDC00 ≤ m ∧ m < 0xE000 then
      (pieceChars? pieces).map (.ofNat (0x10000 + 1024 * (n - 0xD800) + (m - 0xDC00)) :: ·)
    else if 0xD800 ≤ n ∧ n < 0xE000 then none
    else (pieceChars? (.code m :: pieces)).map (.ofNat n :: ·)
  | .code n :: pieces =>
    if 0xD800 ≤ n ∧ n < 0xE000 then none else (pieceChars? pieces).map (.ofNat n :: ·)

/-- The text of a written string. -/
def pieceText? (pieces : List Piece) : Option String := (pieceChars? pieces).map .ofList

/-! ## 3. Tokens -/

/-- The words and marks of a document. -/
inductive Token where
  | openList | closeList | openMap | closeMap | comma | colon
  | null
  | bool (b : Bool)
  | number (n : WrittenNumber)
  | string (pieces : List Piece)
  deriving DecidableEq

/-- The first token of a text that starts with no blank. -/
def Token.next? : List Char → Option (Token × List Char)
  | '[' :: cs => some (.openList, cs)
  | ']' :: cs => some (.closeList, cs)
  | '{' :: cs => some (.openMap, cs)
  | '}' :: cs => some (.closeMap, cs)
  | ',' :: cs => some (.comma, cs)
  | ':' :: cs => some (.colon, cs)
  | '"' :: cs => (readPieces? cs).map fun (pieces, rest) => (.string pieces, rest)
  | '-' :: cs => (readNumber? true cs).map fun (n, rest) => (.number n, rest)
  | 'n' :: 'u' :: 'l' :: 'l' :: cs => some (.null, cs)
  | 't' :: 'r' :: 'u' :: 'e' :: cs => some (.bool true, cs)
  | 'f' :: 'a' :: 'l' :: 's' :: 'e' :: cs => some (.bool false, cs)
  | cs => (readNumber? false cs).map fun (n, rest) => (.number n, rest)

/-- The blanks between tokens. -/
def isGap (c : Char) : Bool := c == ' ' || c == '\n' || c == '\t' || c == '\r'

/-- The tokens of a text. Every token takes at least one character, so a text has at most as many tokens as
characters, and that many steps are enough. -/
def Token.scan? (cs : List Char) : Option (List Token) := go cs.length cs
where
  /-- At most `n` tokens. -/
  go : Nat → List Char → Option (List Token)
    | n, cs =>
      match cs.dropWhile isGap with
      | [] => some []
      | rest =>
        match n with
        | 0 => none
        | n + 1 => do
          let (token, rest) ← Token.next? rest
          return token :: (← go n rest)

/-! ## 4. Nesting -/

/-- A document as written: members in order, repeated names included, numbers, strings and names not yet
judged. -/
inductive Written where
  | null
  | bool (b : Bool)
  | number (n : WrittenNumber)
  | string (pieces : List Piece)
  | list (items : List Written)
  | map (members : List (List Piece × Written))

/-- A list or object that is not closed yet, its parts in reverse. -/
inductive OpenPart where
  | list (done : List Written)
  | map (done : List (List Piece × Written)) (key : List Piece)

/-- What may come next. -/
inductive Expected where
  /-- A document. -/
  | value
  /-- A document or the end of the list just opened. -/
  | firstItem
  /-- A name or the end of the object just opened. -/
  | firstKey (done : List (List Piece × Written))
  /-- A name. -/
  | key (done : List (List Piece × Written))
  /-- The colon after a name. -/
  | colon (done : List (List Piece × Written)) (key : List Piece)
  /-- The end, or what follows a part of the innermost open list or object. -/
  | after (value : Written)

/-- Where the reader stands: what may come next, and the open lists and objects, innermost first. -/
structure Position where
  expected : Expected
  stack : List OpenPart

/-- The position after a finished document. -/
def Position.finish (value : Written) (stack : List OpenPart) : Position := ⟨.after value, stack⟩

/-- One token further. -/
def Position.step? (p : Position) (token : Token) : Option Position :=
  match p.expected, token with
  | .firstItem, .closeList =>
    match p.stack with
    | .list done :: stack => some (.finish (.list done.reverse) stack)
    | _ => none
  | .firstKey done, .closeMap => some (.finish (.map done.reverse) p.stack)
  | .firstKey done, .string key | .key done, .string key => some ⟨.colon done key, p.stack⟩
  | .colon done key, .colon => some ⟨.value, .map done key :: p.stack⟩
  | .after value, .comma =>
    match p.stack with
    | .list done :: stack => some ⟨.value, .list (value :: done) :: stack⟩
    | .map done key :: stack => some ⟨.key ((key, value) :: done), stack⟩
    | [] => none
  | .after value, .closeList =>
    match p.stack with
    | .list done :: stack => some (.finish (.list (value :: done).reverse) stack)
    | _ => none
  | .after value, .closeMap =>
    match p.stack with
    | .map done key :: stack => some (.finish (.map ((key, value) :: done).reverse) stack)
    | _ => none
  | .value, token | .firstItem, token =>
    match token with
    | .openList => some ⟨.firstItem, .list [] :: p.stack⟩
    | .openMap => some ⟨.firstKey [], p.stack⟩
    | .null => some (.finish .null p.stack)
    | .bool b => some (.finish (.bool b) p.stack)
    | .number n => some (.finish (.number n) p.stack)
    | .string pieces => some (.finish (.string pieces) p.stack)
    | _ => none
  | _, _ => none

/-- The document that the tokens spell. -/
def Written.ofTokens? (tokens : List Token) : Option Written :=
  match tokens.foldlM Position.step? ⟨.value, []⟩ with
  | some ⟨.after value, []⟩ => some value
  | _ => none

/-- The document as written in a text. -/
def Written.read? (cs : List Char) : Option Written := (Token.scan? cs).bind Written.ofTokens?

/-! ## 5. Meaning -/

mutual

/-- The document that was meant, when no list or object lies inside `depth` others. -/
def Written.value? (depth : Nat) : Written → Option Json
  | .null => some .null
  | .bool b => some (.bool b)
  | .number n => n.value?
  | .string pieces => (pieceText? pieces).map .string
  | .list items =>
    match depth with
    | 0 => none
    | depth + 1 => (Written.values? depth items).map .list
  | .map members =>
    match depth with
    | 0 => none
    | depth + 1 => (Written.members? depth members).map fun pairs => .map (Fields.ofList pairs)

/-- The documents meant by the items of a list. -/
def Written.values? (depth : Nat) : List Written → Option (List Json)
  | [] => some []
  | item :: items => do
    let json ← item.value? depth
    return json :: (← Written.values? depth items)

/-- The documents meant by the members of an object. -/
def Written.members? (depth : Nat) : List (List Piece × Written) → Option (List (String × Json))
  | [] => some []
  | (pieces, item) :: members => do
    let key ← pieceText? pieces
    let json ← item.value? depth
    return (key, json) :: (← Written.members? depth members)

end

/-- How many lists and objects may lie inside one another. -/
def maxNesting : Nat := 127

/-- The document in a text. -/
def ofText? (s : String) : Option Json := (Written.read? s.toList).bind (Written.value? maxNesting)

end Stencil.Json
