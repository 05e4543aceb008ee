import VmProvisioning.Number.Binary64

/-!
# Shortest decimal notation of a double

The fewest digits that read back as the same double, and among those the nearest to it. The
notation is positional while the decimal point stands within sixteen digits, and has an exponent
otherwise.

## Main definitions

* `Binary64.shortestDigits`: the digits and the power of ten of the last one
* `Binary64.text`: the text of a double
-/

namespace VmProvisioning

namespace Binary64

/-- The place of the first significant digit of the positive ratio `num / den`: the least `p`
with `num / den < 10 ^ p`. -/
def leadingPlace (num den : Nat) : Int :=
  if den ≤ num then ((Nat.toDigits 10 (num / den)).length : Int)
  else
    let zeros := (List.range 330).find? fun k => den ≤ num * Nat.pow 10 (k + 1)
    Int.negOfNat (zeros.getD 330)

/-- The decimals with `count` digits next to the ratio, that is the nearest one below or equal
and the next above, as significand and exponent. -/
def gridNeighbours (num den count : Nat) : List (Nat × Int) :=
  let exponent := leadingPlace num den - count
  let below :=
    if exponent < 0 then num * Nat.pow 10 exponent.natAbs / den
    else num / (den * Nat.pow 10 exponent.toNat)
  [(below, exponent), (below + 1, exponent)]

/-- A decimal compared with the ratio `num / den`: its distance, as a numerator over the
denominator `den * 10 ^ natAbs exponent` or `den`. -/
def distance (num den : Nat) (decimal : Nat × Int) : Nat :=
  let (significand, exponent) := decimal
  if exponent < 0 then ((significand * den : Int) - num * Nat.pow 10 exponent.natAbs).natAbs
  else ((significand * Nat.pow 10 exponent.toNat * den : Int) - num).natAbs

/-- Whether a decimal reads back as the double of `units` units. -/
def readsBack (units : Nat) (decimal : Nat × Int) : Bool :=
  let (significand, exponent) := decimal
  let read :=
    if exponent < 0 then nearestUnits (significand * unitsPerOne) (Nat.pow 10 exponent.natAbs)
    else nearestUnits (significand * Nat.pow 10 exponent.toNat * unitsPerOne) 1
  read == units

/-- The first digit count with a decimal that reads back, and the nearest such decimal; of two
equally near ones the even one. -/
def shortestDigits (units : Nat) : Nat × Int :=
  let found := (List.range 17).findSome? fun k =>
    match (gridNeighbours units unitsPerOne (k + 1)).filter (readsBack units) with
    | [] => none
    | [only] => some only
    | first :: second :: _ =>
      let lower := distance units unitsPerOne first
      let upper := distance units unitsPerOne second
      some (if upper < lower ∨ (upper = lower ∧ first.1 % 2 = 1) then second else first)
  found.getD (0, 0)

/-- A significand without zeros at its end, with the exponent to match. -/
def withoutTrailingZeros (significand : Nat) (exponent : Int) : Nat × Int :=
  if h : significand ≠ 0 ∧ significand % 10 = 0 then
    withoutTrailingZeros (significand / 10) (exponent + 1)
  else (significand, exponent)
termination_by significand
decreasing_by omega

/-- The text of a positive decimal, whose point stands `place` digits after the first digit. -/
def positional (digits : List Char) (place : Int) : List Char :=
  let count : Int := digits.length
  if count ≤ place ∧ place ≤ 16 then
    digits ++ List.replicate (place - count).toNat '0' ++ ".0".toList
  else if 0 < place ∧ place ≤ 16 then
    digits.take place.toNat ++ ['.'] ++ digits.drop place.toNat
  else if -5 < place ∧ place ≤ 0 then
    "0.".toList ++ List.replicate place.natAbs '0' ++ digits
  else
    let exponent := (toString (place - 1)).toList
    match digits with
    | [digit] => digit :: 'e' :: exponent
    | first :: others => first :: '.' :: others ++ 'e' :: exponent
    | [] => []

/-- The text of a double: the shortest digits that read back, always with a point or an
exponent. -/
def text (x : Binary64) : String :=
  let magnitude :=
    if x.units = 0 then "0.0".toList
    else
      let (shortest, power) := shortestDigits x.units
      let (significand, exponent) := withoutTrailingZeros shortest power
      let digits := Nat.toDigits 10 significand
      positional digits (digits.length + exponent)
  String.ofList (if x.negative then '-' :: magnitude else magnitude)

end Binary64

end VmProvisioning
