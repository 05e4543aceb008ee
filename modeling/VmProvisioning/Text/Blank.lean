/-!
# Blank characters

The Unicode property White_Space, and the trimming of a text at both ends.

## Main definitions

* `isBlank`: the property
* `trimBy`: a list without the elements of a kind at its ends
* `isBlankText`: a text of blank characters only
-/

namespace VmProvisioning.Text

/-- The property White_Space. -/
def isBlank (c : Char) : Bool :=
  let code := c.toNat
  (0x9 ≤ code && code ≤ 0xD) || code == 0x20 || code == 0x85 || code == 0xA0 || code == 0x1680 ||
    (0x2000 ≤ code && code ≤ 0x200A) || code == 0x2028 || code == 0x2029 || code == 0x202F ||
    code == 0x205F || code == 0x3000

/-- A list without the elements that satisfy `p` at its two ends. -/
def trimBy (p : Char → Bool) (cs : List Char) : List Char :=
  ((cs.dropWhile p).reverse.dropWhile p).reverse

/-- Whether a text has no character that is not blank. -/
def isBlankText (text : String) : Bool :=
  text.toList.all isBlank

end VmProvisioning.Text
