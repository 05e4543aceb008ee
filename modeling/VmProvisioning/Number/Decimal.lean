import VmProvisioning.Number.Binary64

/-!
# Decimal notation of doubles

Reading the decimal notation of a number, with sign, fraction and exponent, or one of the names
of the values that are not finite. The rounding to a double is exact: half a unit in the last
place goes to the even neighbour.

## Main definitions

* `Decimal`: what a notation stands for
* `Decimal.read?`: reading a text
* `Decimal.units?`: the magnitude of a finite decimal as a double
-/

namespace VmProvisioning

/-- What a number notation stands for: `significand * 10 ^ exponent` with a sign, or no finite
number at all. -/
inductive Decimal where
  | finite (negative : Bool) (significand : Nat) (exponent : Int)
  | infinite (negative : Bool)
  | notANumber
deriving DecidableEq, Repr

namespace Decimal

/-- The number that decimal digits stand for. -/
def ofDigits (digits : List Char) : Nat :=
  digits.foldl (fun n c => n * 10 + (c.toNat - '0'.toNat)) 0

/-- Split off a sign; without one the number is positive. -/
def readSign : List Char → Bool × List Char
  | '-' :: rest => (true, rest)
  | '+' :: rest => (false, rest)
  | rest => (false, rest)

/-- An exponent after the digits: nothing, or `e` with a sign and at least one digit. -/
def readExponent? : List Char → Option Int
  | [] => some 0
  | c :: rest =>
    if c = 'e' ∨ c = 'E' then
      let (negative, digits) := readSign rest
      if digits.isEmpty || !digits.all Char.isDigit then none
      else if negative then some (-(ofDigits digits : Int)) else some (ofDigits digits)
    else none

/-- Digits with an optional fraction and an optional exponent, without a sign. -/
def readMagnitude? (cs : List Char) : Option (Nat × Int) :=
  let whole := cs.takeWhile Char.isDigit
  let (fraction, rest) :=
    match cs.dropWhile Char.isDigit with
    | '.' :: rest => (rest.takeWhile Char.isDigit, rest.dropWhile Char.isDigit)
    | rest => ([], rest)
  if whole.isEmpty && fraction.isEmpty then none
  else
    (readExponent? rest).map fun exponent =>
      (ofDigits (whole ++ fraction), exponent - fraction.length)

/-- Read a whole text as a number. -/
def read? (cs : List Char) : Option Decimal :=
  let (negative, rest) := readSign cs
  let name := rest.map Char.toLower
  if name = "nan".toList then some .notANumber
  else if name = "inf".toList ∨ name = "infinity".toList then some (.infinite negative)
  else (readMagnitude? rest).map fun (significand, exponent) => finite negative significand exponent

/-- The double nearest to `significand * 10 ^ exponent`, in units, or nothing when it is too
large. Numbers of 310 digits and more before the point are too large, and numbers below
`10 ^ -324` are less than half a unit. -/
def units? (significand : Nat) (exponent : Int) : Option Nat :=
  let digits : Int := (Nat.toDigits 10 significand).length
  if significand = 0 ∨ digits + exponent ≤ -324 then some 0
  else if 310 ≤ digits + exponent then none
  else
    let units :=
      if exponent < 0 then nearestUnits (significand * unitsPerOne) (Nat.pow 10 exponent.natAbs)
      else nearestUnits (significand * Nat.pow 10 exponent.toNat * unitsPerOne) 1
    if overflowUnits ≤ units then none else some units

end Decimal

end VmProvisioning
