import VmProvisioning.Text.Casing
import VmProvisioning.Failure

/-!
# DNS labels

The id of a machine is at once an object name, a registry key and a label value, so it has to be
a DNS label: one to 63 characters, lower-case letters and digits, with single hyphens between
them. Any text can be turned into one.

## Main definitions

* `DnsLabel.sanitize`: the label for an arbitrary text
* `DnsLabel.validate`: refuses what is not a label
-/

namespace VmProvisioning.DnsLabel

/-- The label of a text that has no letter and no digit. -/
def fallback : String :=
  "vm"

/-- The greatest length of a label. -/
def maxLength : Nat :=
  63

/-- The characters of a label other than the hyphen. -/
def isLabelChar (c : Char) : Bool :=
  ('a' ≤ c && c ≤ 'z') || ('0' ≤ c && c ≤ '9')

/-- Put one hyphen for each run of other characters, but none at the beginning; `atBreak` tells
whether nothing or a hyphen stands before the text. -/
def hyphenate (atBreak : Bool) : List Char → List Char
  | [] => []
  | c :: rest =>
    if isLabelChar c then c :: hyphenate false rest
    else if atBreak then hyphenate true rest
    else '-' :: hyphenate true rest

/-- The characters of a text in lower case, each on its own. -/
def lowered (cs : List Char) : List Char :=
  cs.flatMap Text.lowerChar

/-- A label cut to its greatest length, without hyphens at the end. -/
def cutToLength (cs : List Char) : List Char :=
  ((cs.take maxLength).reverse.dropWhile (· == '-')).reverse

/-- **The label for an arbitrary text.** -/
def sanitize (text : String) : String :=
  match cutToLength (hyphenate true (lowered text.toList)) with
  | [] => fallback
  | cs => String.ofList cs

/-- Refuse an id that is not a label. -/
def validate (id : String) : Except Failure Unit :=
  if id ≠ "" ∧ sanitize id = id then .ok ()
  else .error (.validation (.machineId id (sanitize id)))

end VmProvisioning.DnsLabel
