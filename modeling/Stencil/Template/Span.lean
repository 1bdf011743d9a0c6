import Stencil.Text.Basic

/-!
Places in a source.

A span is a half-open range of bytes of the UTF-8 form of a source. It is kept with every tag, so that a
construct that cannot be expanded is given back as it was written.
-/

namespace Stencil

/-- The bytes from `start` up to `stop`. -/
structure Span where
  start : Nat
  stop : Nat
  deriving DecidableEq, Repr, Inhabited

/-- The text that the span covers; empty when it falls outside the source or cuts a character. -/
def Span.slice (span : Span) (source : String) : String :=
  .ofList (Text.byteSlice span.start span.stop source.toList)

end Stencil
