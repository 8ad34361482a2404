/-!
Sets of code points and maps between them, kept as spans.
-/

namespace TreeSchema.Text

/-- The code points `first`, `first + step`, … that do not pass `last`. -/
structure Span where
  first : Nat
  last : Nat
  step : Nat
  deriving DecidableEq

def Span.contains (span : Span) (point : Nat) : Bool :=
  span.first ≤ point && point ≤ span.last && (point - span.first) % span.step == 0

/-- A span moved so that `span.first` becomes `target`. -/
structure Shift where
  span : Span
  target : Nat
  deriving DecidableEq

def Shift.image? (shift : Shift) (point : Nat) : Option Nat :=
  if shift.span.contains point then some (shift.target + (point - shift.span.first)) else none

/-- Whether some span of the list holds the character. -/
def inSpans (spans : List Span) (c : Char) : Bool :=
  spans.any (·.contains c.toNat)

end TreeSchema.Text
