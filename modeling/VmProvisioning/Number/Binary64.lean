/-!
# Double-precision numbers

A finite double is a sign and a whole number of units, where a unit is `2 ^ -1074`, the least
positive double. Every operation is exact integer arithmetic with one final rounding.

## Main definitions

* `nearestUnits`: round a ratio of naturals to 53 binary digits, ties to even
* `Binary64`: a finite double
* `Binary64.bits`: its word in the interchange format
* `Binary64.scaled?`: a decimal significand scaled by a power of ten in one rounded operation
-/

namespace VmProvisioning

/-- The units in one: a unit is `2 ^ -1074`. -/
def unitsPerOne : Nat :=
  Nat.pow 2 1074

/-- The least number of units that is too large for a finite double. -/
def overflowUnits : Nat :=
  Nat.pow 2 (1024 + 1074)

/-- `num / den` rounded to a whole number, ties to even. -/
def divideToEven (num den : Nat) : Nat :=
  let whole := num / den
  let rest := num % den
  if den < 2 * rest ∨ (den = 2 * rest ∧ whole % 2 = 1) then whole + 1 else whole

/-- **Rounding**: the ratio `num / den`, in units, to a multiple of the power of two that leaves
53 binary digits. Ratios below `2 ^ 53` units round to whole units, as subnormal doubles do. -/
def nearestUnits (num den : Nat) : Nat :=
  let step := Nat.pow 2 ((num / den).log2 + 1 - 53)
  divideToEven num (den * step) * step

/-- A finite double. -/
structure Binary64 where
  negative : Bool
  units : Nat
deriving DecidableEq, Repr

namespace Binary64

/-- The 64-bit word of a double: sign, biased exponent and fraction. -/
def bits (x : Binary64) : Nat :=
  let sign := if x.negative then Nat.pow 2 63 else 0
  if x.units < Nat.pow 2 52 then sign + x.units
  else
    let exponent := x.units.log2 - 52
    sign + (exponent + 1) * Nat.pow 2 52 + (x.units / Nat.pow 2 exponent - Nat.pow 2 52)

/-- The double nearest to a natural number, in units. -/
def unitsOfNat (n : Nat) : Nat :=
  nearestUnits (n * unitsPerOne) 1

/-- Divide a nonnegative double by a power of ten no more than `10 ^ 308` at a time. -/
def shrink (units exponent : Nat) : Nat :=
  if exponent ≤ 308 then
    nearestUnits (units * unitsPerOne) (unitsOfNat (Nat.pow 10 exponent))
  else if units = 0 then 0
  else shrink (nearestUnits (units * unitsPerOne) (unitsOfNat (Nat.pow 10 308))) (exponent - 308)
termination_by exponent

/-- The significand times a power of ten: both are rounded to doubles, then combined. There is no
value when the result is too large. -/
def scaled? (negative : Bool) (significand : Nat) (exponent : Int) : Option Binary64 :=
  let units := unitsOfNat significand
  if exponent < 0 then some ⟨negative, shrink units exponent.natAbs⟩
  else if 308 < exponent then
    if units = 0 then some ⟨negative, 0⟩ else none
  else
    let product := nearestUnits (units * unitsOfNat (Nat.pow 10 exponent.toNat)) unitsPerOne
    if overflowUnits ≤ product then none else some ⟨negative, product⟩

end Binary64

end VmProvisioning
