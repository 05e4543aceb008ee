import VmProvisioning.Text.Blank
import VmProvisioning.Text.Search
import VmProvisioning.Number.Decimal
import VmProvisioning.Failure

/-!
# Resource quantities

Sizes of memory and disks, and shares of processors, as the cluster writes them: a decimal number
with a binary, a decimal or a milli suffix. A quantity is read as a double, multiplied, and
rounded to a whole number of bytes or milli-cores that fits into 64 bits.

## Main definitions

* `Quantity.bytes`, `Quantity.millicores`: reading quantities
* `Quantity.ofMillicores`, `Quantity.ofGibibytes`, `Quantity.ofBytes`: writing them
-/

namespace VmProvisioning.Quantity

/-- The bytes of one GiB. -/
def gibibyte : Nat :=
  Nat.pow 2 30

/-- The bytes of one MiB. -/
def mebibyte : Nat :=
  Nat.pow 2 20

/-- The greatest amount. -/
def maxAmount : Nat :=
  UInt64.size - 1

/-- The suffixes of byte quantities with their factors; the first that ends the text counts. -/
def byteSuffixes : List (String × Nat) :=
  [("Ki", Nat.pow 2 10), ("Mi", Nat.pow 2 20), ("Gi", Nat.pow 2 30), ("Ti", Nat.pow 2 40),
   ("Pi", Nat.pow 2 50), ("k", Nat.pow 10 3), ("K", Nat.pow 10 3), ("M", Nat.pow 10 6),
   ("G", Nat.pow 10 9), ("T", Nat.pow 10 12), ("P", Nat.pow 10 15)]

/-- Read a number that is finite and not negative, as units of a double. `quantity` is the whole
text, for the failure. -/
def readNumber (number : List Char) (quantity : String) : Except Failure Nat :=
  match Decimal.read? (Text.trimBy Text.isBlank number) with
  | none => .error (.validation (.malformedQuantity quantity))
  | some (.finite negative significand exponent) =>
    match Decimal.units? significand exponent with
    | some units =>
      if negative && units != 0 then .error (.validation (.negativeQuantity quantity))
      else .ok units
    | none => .error (.validation (.negativeQuantity quantity))
  | some _ => .error (.validation (.negativeQuantity quantity))

/-- The nearest whole number, a half rounded up, and no more than fits into 64 bits. -/
def roundToWhole (units : Nat) : Nat :=
  min ((units + unitsPerOne / 2) / unitsPerOne) maxAmount

/-- A double times a whole factor, as a double. -/
def scale (units factor : Nat) : Nat :=
  nearestUnits (units * factor) 1

/-- The first suffix that ends the text: the text before it and its factor. -/
def splitSuffix? (cs : List Char) : Option (List Char × Nat) :=
  byteSuffixes.findSome? fun (suffix, factor) =>
    (Text.dropSuffix? suffix.toList cs).map fun number => (number, factor)

/-- **The bytes of a memory or disk quantity** such as `4Gi`, `512Mi` or `1.5Gi`. -/
def bytes (text : String) : Except Failure Nat :=
  match Text.trimBy Text.isBlank text.toList with
  | [] => .error (.validation .emptyQuantity)
  | cs =>
    match splitSuffix? cs with
    | some (number, factor) =>
      (readNumber number text).map fun units => roundToWhole (scale units factor)
    | none => (readNumber cs text).map roundToWhole

/-- **The milli-cores of a processor quantity** such as `2`, `1.5` or `500m`. -/
def millicores (text : String) : Except Failure Nat :=
  let cs := Text.trimBy Text.isBlank text.toList
  match Text.dropSuffix? ['m'] cs with
  | some number => (readNumber number text).map roundToWhole
  | none => (readNumber cs text).map fun units => roundToWhole (scale units 1000)

/-- Milli-cores as whole cores where they are, and otherwise with the milli suffix. -/
def ofMillicores (amount : Nat) : String :=
  if amount % 1000 = 0 then toString (amount / 1000) else toString amount ++ "m"

/-- A number of GiB. -/
def ofGibibytes (amount : Nat) : String :=
  toString amount ++ "Gi"

/-- Bytes in the largest of GiB, MiB and bytes that leaves a whole number. -/
def ofBytes (amount : Nat) : String :=
  if 0 < amount ∧ amount % gibibyte = 0 then toString (amount / gibibyte) ++ "Gi"
  else if 0 < amount ∧ amount % mebibyte = 0 then toString (amount / mebibyte) ++ "Mi"
  else toString amount

end VmProvisioning.Quantity
