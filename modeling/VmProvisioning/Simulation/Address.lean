import VmProvisioning.Number.Decimal
import VmProvisioning.Text.Quoted
import VmProvisioning.Text.Search

/-!
# Addresses

Addresses of the simulated network are words of 32 bits in dotted notation. The hardware address
of an interface is made from the last two bytes of its address.

## Main definitions

* `Address.text`: the dotted notation of a word
* `Address.bytes?`: the bytes of a dotted notation
* `Address.mac`: the hardware address for an address
-/

namespace VmProvisioning.Address

/-- The first address of the network. -/
def poolBase : UInt32 :=
  0x0A800000

/-- How far behind the first address the first assigned address is. -/
def poolOffset : UInt32 :=
  100

/-- The byte of a word that begins at a bit. -/
def byteAt (word : UInt32) (bit : Nat) : Nat :=
  word.toNat / Nat.pow 2 bit % 256

/-- **The dotted notation of a word.** -/
def text (word : UInt32) : String :=
  toString (byteAt word 24) ++ "." ++ toString (byteAt word 16) ++ "." ++
    toString (byteAt word 8) ++ "." ++ toString (byteAt word 0)

/-- A byte in decimal notation without zeros in front. -/
def byte? (digits : List Char) : Option Nat :=
  let isPlain := !digits.isEmpty && digits.all Char.isDigit && digits.length ≤ 3 &&
    (digits.head? != some '0' || digits.length == 1)
  (if isPlain then some (Decimal.ofDigits digits) else none).filter (· < 256)

/-- The four bytes of a dotted notation. -/
def bytes? (text : String) : Option (List Nat) :=
  ((Text.pieces (· == '.') text.toList).mapM byte?).filter (·.length == 4)

/-- A byte as two hexadecimal digits. -/
def hexByte (byte : Nat) : String :=
  let digits := Text.hexDigits byte
  String.ofList (List.replicate (2 - digits.length) '0' ++ digits)

/-- **The hardware address for an address**; a text that is none counts as the address zero. -/
def mac (address : String) : String :=
  match bytes? address with
  | some [_, _, third, fourth] => "02:00:00:00:" ++ hexByte third ++ ":" ++ hexByte fourth
  | _ => "02:00:00:00:00:00"

end VmProvisioning.Address
