/-!
# Sets and mappings of code points

Unicode properties are unions of ranges of code points; the simple case mappings are unions of
spans.

## Main definitions

* `CodeRange`, `inRanges`: membership in a union of ranges
* `CaseSpan`, `CaseSpan.image?`: characters at a fixed distance with a common offset
-/

namespace VmProvisioning.Text

/-- The code points from `first` to `last`, both included. -/
structure CodeRange where
  first : Nat
  last : Nat

/-- Whether the code point of `c` lies in one of the ranges. -/
def inRanges (ranges : List CodeRange) (c : Char) : Bool :=
  ranges.any fun range => range.first ≤ c.toNat && c.toNat ≤ range.last

/-- Every `step`-th code point from `first` to `last`, each mapped by adding `offset`. -/
structure CaseSpan where
  first : Nat
  last : Nat
  step : Nat
  offset : Int

/-- The image of a code point of the span. -/
def CaseSpan.image? (span : CaseSpan) (code : Nat) : Option Nat :=
  if span.first ≤ code ∧ code ≤ span.last ∧ (code - span.first) % span.step = 0 then
    some (code + span.offset).toNat
  else
    none

end VmProvisioning.Text
