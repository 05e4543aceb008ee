import VmProvisioning.Text.CaseTable

/-!
# Upper and lower case

Full Unicode case mappings: a character may become several, and a capital sigma at the end of a
word becomes a final sigma when a whole text is put into lower case.

## Main definitions

* `lowerChar`, `upperChar`: the mappings of one character, which see no context
* `lowercase`: a whole text in lower case, with the rule for a final sigma
-/

namespace VmProvisioning.Text

/-- The image of `c` under the first span that holds it, and `c` itself when none does. -/
def mapBySpans (spans : List CaseSpan) (c : Char) : Char :=
  match spans.findSome? fun span => span.image? c.toNat with
  | some code => Char.ofNat code
  | none => c

/-- The lowercase form of a character. Only the capital I with a dot has two characters. -/
def lowerChar (c : Char) : List Char :=
  if c.toNat < 0x80 then [c.toLower]
  else if c.toNat = 0x130 then ['i', Char.ofNat 0x307]
  else [mapBySpans lowerSpans c]

/-- The uppercase form of a character. -/
def upperChar (c : Char) : List Char :=
  if c.toNat < 0x80 then [c.toUpper]
  else
    match upperExpansions.lookup c.toNat with
    | some codes => codes.map Char.ofNat
    | none => [mapBySpans upperSpans c]

/-- Whether the characters up to the first cased one are all ignorable for casing. -/
def reachesCased (cs : List Char) : Bool :=
  match cs.dropWhile (inRanges caseIgnorableRanges) with
  | [] => false
  | c :: _ => inRanges casedRanges c

/-- The capital sigma, whose lowercase form depends on its place in the word. -/
def capitalSigma : Char :=
  Char.ofNat 0x3A3

/-- A capital sigma in lower case, between the reversed text `before` it and the text `after`
it. -/
def lowerSigma (before after : List Char) : Char :=
  if reachesCased before && !reachesCased after then Char.ofNat 0x3C2 else Char.ofNat 0x3C3

/-- The text in lower case, after the reversed text `before` it. -/
def lowerAfter (before : List Char) : List Char → List Char
  | [] => []
  | c :: rest =>
    (if c = capitalSigma then [lowerSigma before rest] else lowerChar c) ++
      lowerAfter (c :: before) rest

/-- A text in lower case. -/
def lowercase (text : String) : String :=
  String.ofList (lowerAfter [] text.toList)

/-- Equality of texts up to the case of ASCII letters. -/
def eqIgnoringAsciiCase (a b : String) : Bool :=
  a.toList.map Char.toLower == b.toList.map Char.toLower

end VmProvisioning.Text
