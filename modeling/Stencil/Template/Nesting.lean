import Stencil.Template.Call.Reader
import Stencil.Template.Node
import Stencil.Template.Token

/-!
Blocks out of tags.

One pass over the tokens builds the tree; the blocks that are not closed yet wait on a stack. The tag of a
second branch therefore belongs to the innermost open block, and blocks of one name pair up from the inside.
A closing tag closes the innermost open block of its name. Blocks inside it that were never closed are
abandoned: a defect takes the place of their opening tag, and what they had collected stays where it was.
-/

namespace Stencil.Template

/-! ## 1. Open blocks -/

/-- A block whose closing tag has not come yet. -/
structure OpenBlock where
  name : String
  call : Call
  /-- The place of the opening tag. -/
  span : Span
  body : List Node
  inverse : Option (List Node)
  /-- Where the body ended, once the second branch has begun. -/
  bodyStop : Option Nat

namespace OpenBlock

/-- The block with more content at its end. -/
def append (block : OpenBlock) (nodes : List Node) : OpenBlock :=
  match block.inverse with
  | some inverse => { block with inverse := some (inverse ++ nodes) }
  | none => { block with body := block.body ++ nodes }

/-- The node of a block that a tag at `span` closes. -/
def closed (block : OpenBlock) (span : Span) : Node :=
  .block block.call block.body block.inverse
    ⟨block.span.stop, block.bodyStop.getD span.start⟩ ⟨block.span.start, span.stop⟩

/-- What is left of a block that is never closed. -/
def abandoned (block : OpenBlock) : List Node :=
  .invalid ⟨"unbalanced block: \x7b\x7b#" ++ block.name ++ "\x7d\x7d is never closed", block.span⟩ ::
    block.body ++ block.inverse.getD []

end OpenBlock

/-! ## 2. The pass -/

/-- The nodes outside any open block, and the open blocks, innermost first. -/
structure Outline where
  root : List Node
  stack : List OpenBlock

namespace Outline

/-- Nothing read yet. -/
def empty : Outline := ⟨[], []⟩

/-- The outline with more content where reading stands. -/
def append (outline : Outline) (nodes : List Node) : Outline :=
  match outline.stack with
  | block :: stack => { outline with stack := block.append nodes :: stack }
  | [] => { outline with root := outline.root ++ nodes }

/-- The outline with a defect where reading stands. -/
def defect (outline : Outline) (message : String) (span : Span) : Outline :=
  outline.append [.invalid ⟨message, span⟩]

/-- The outline after an opening tag. -/
def opening (outline : Outline) (inner : String) (span : Span) : Outline :=
  let call := Call.read inner
  match call.name?.filter (! ·.isEmpty) with
  | some name => { outline with stack := ⟨name, call, span, [], none, none⟩ :: outline.stack }
  | none => outline.defect "block tag without a helper name" span

/-- The outline after the tag of a second branch. -/
def otherwise (outline : Outline) (span : Span) : Outline :=
  match outline.stack with
  | [] => outline.defect "\x7b\x7belse\x7d\x7d outside of a block" span
  | block :: stack =>
    if block.inverse.isSome then
      outline.defect ("duplicate \x7b\x7belse\x7d\x7d in block '" ++ block.name ++ "'") span
    else
      { outline with stack := { block with inverse := some [], bodyStop := some span.start } :: stack }

/-- Closes the innermost block of the given name. The blocks passed on the way are abandoned, and `carried` is
what they leave. -/
def unwind (name : String) (span : Span) (root carried : List Node) : List OpenBlock → Outline
  | [] => ⟨root ++ carried, []⟩
  | block :: stack =>
    let block := block.append carried
    if block.name = name then Outline.append ⟨root, stack⟩ [block.closed span]
    else unwind name span root block.abandoned stack

/-- The outline after a closing tag. -/
def closing (outline : Outline) (name : String) (span : Span) : Outline :=
  if outline.stack.any (·.name == name) then unwind name span outline.root [] outline.stack
  else outline.defect ("unbalanced block: \x7b\x7b/" ++ name ++ "\x7d\x7d has no matching open tag") span

/-- The outline after one more token. -/
def step (outline : Outline) (token : Token) : Outline :=
  match token.kind with
  | .text s => outline.append [.text s]
  | .expression inner =>
    if inner.isEmpty then outline.defect "empty expression" token.span
    else outline.append [.expression (Call.read inner) token.span]
  | .unterminated => outline.defect "unterminated tag: missing '\x7d\x7d'" token.span
  | .opening inner => outline.opening inner token.span
  | .otherwise => outline.otherwise token.span
  | .closing name => outline.closing name token.span

/-- Abandons the open blocks, innermost first; `carried` is what the ones inside left. -/
def settle (root carried : List Node) : List OpenBlock → List Node
  | [] => root ++ carried
  | block :: stack => settle root (block.append carried).abandoned stack

/-- All nodes, when no more tokens come. -/
def finish (outline : Outline) : List Node := settle outline.root [] outline.stack

end Outline

/-- The tree of a list of tokens. -/
def nodesOfTokens (tokens : List Token) : List Node := (tokens.foldl Outline.step .empty).finish

end Stencil.Template
