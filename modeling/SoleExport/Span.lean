/-
  Source positions.

  A position counts UTF-8 bytes of the source text from 1; position 0 belongs
  to no text.  A span is the half-open range of bytes a node was written in.
-/

namespace SoleExport

/-- The bytes `start, …, stop - 1` of the source text. -/
structure Span where
  /-- The position of the first byte. -/
  start : Nat
  /-- The position after the last byte. -/
  stop : Nat
deriving DecidableEq, Repr, Inhabited

namespace Span

/-- The span of a node that stands in no text. -/
def dummy : Span := ⟨0, 0⟩

/-- The span between two positions, whichever of them comes first. -/
def between (p q : Nat) : Span := ⟨min p q, max p q⟩

end Span

end SoleExport
