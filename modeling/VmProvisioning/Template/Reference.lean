import VmProvisioning.Json.Reader

/-!
# References to parameters

Texts refer to parameters as `$` and the name in braces, single or double. A text is read once
from left to right: it falls into single characters and references, and only then values are put
in, so a value is never read again.

## Main definitions

* `Segment`: a character or a reference
* `segments`: the segments of a text
* `fillText`, `fill`: texts and JSON values with values put in for references
-/

namespace VmProvisioning.Reference

/-! ## Segments -/

/-- A piece of a text: a character as it is, or a reference to a parameter. -/
inductive Segment where
  | literal (c : Char)
  | reference (name : String) (isDouble : Bool)
deriving DecidableEq, Repr

/-- The text that a segment is read from. -/
def Segment.source : Segment → List Char
  | literal c => [c]
  | reference name false => "$\x7b".toList ++ name.toList ++ ['}']
  | reference name true => "$\x7b\x7b".toList ++ name.toList ++ ['}', '}']

/-- A character of the names of parameters. -/
def isNameChar (c : Char) : Bool :=
  c.isAlphanum || c == '_'

/-- A name up to the closing brace or braces. -/
def readName? (isDouble : Bool) (cs : List Char) : Option (Segment × List Char) :=
  match cs.takeWhile isNameChar with
  | [] => none
  | name =>
    match isDouble, cs.dropWhile isNameChar with
    | true, '}' :: '}' :: rest => some (.reference (String.ofList name) true, rest)
    | false, '}' :: rest => some (.reference (String.ofList name) false, rest)
    | _, _ => none

/-- A reference at the beginning of a text. -/
def readReference? : List Char → Option (Segment × List Char)
  | '$' :: '{' :: '{' :: rest => readName? true rest
  | '$' :: '{' :: rest => readName? false rest
  | _ => none

theorem length_dropWhile_le {α : Type} (p : α → Bool) (cs : List α) :
    (cs.dropWhile p).length ≤ cs.length :=
  (List.dropWhile_suffix p).length_le

theorem length_readName? {isDouble : Bool} {cs rest : List Char} {segment : Segment}
    (h : readName? isDouble cs = some (segment, rest)) : rest.length ≤ cs.length := by
  have := length_dropWhile_le isNameChar cs
  unfold readName? at h
  split at h
  · simp at h
  · split at h
    · next heq => simp_all; omega
    · next heq => simp_all; omega
    · simp at h

theorem length_readReference? {cs rest : List Char} {segment : Segment}
    (h : readReference? cs = some (segment, rest)) : rest.length < cs.length := by
  unfold readReference? at h
  split at h
  · have := length_readName? h
    simp only [List.length_cons]
    omega
  · have := length_readName? h
    simp only [List.length_cons]
    omega
  · simp at h

/-- A reference to a parameter that has a value, at the beginning of a text. -/
def readBound? (values : Fields String) (cs : List Char) : Option (Segment × List Char) :=
  (readReference? cs).filter fun
    | (.reference name _, _) => Fields.contains values name
    | _ => false

theorem length_readBound? {values : Fields String} {cs rest : List Char} {segment : Segment}
    (h : readBound? values cs = some (segment, rest)) : rest.length < cs.length :=
  length_readReference? (Option.filter_eq_some_iff.mp h).1

/-- **The segments of a text.** What is no reference to a parameter with a value is taken as it
is, character by character. -/
def segments (values : Fields String) (cs : List Char) : List Segment :=
  match cs with
  | [] => []
  | c :: cs =>
    match _ : readBound? values (c :: cs) with
    | some (segment, rest) => segment :: segments values rest
    | none => .literal c :: segments values cs
termination_by cs.length
decreasing_by
  · exact length_readBound? ‹_›
  · simp

/-! ## Values -/

/-- What a segment stands for. -/
def Segment.fill (values : Fields String) : Segment → List Char
  | literal c => [c]
  | reference name _ => ((Fields.get? values name).getD "").toList

/-- **A text with the values of parameters in place of references.** -/
def fillText (values : Fields String) (text : String) : String :=
  String.ofList ((segments values text.toList).flatMap (Segment.fill values))

/-- The parameter that a text consisting of one reference in double braces stands for. -/
def typedName? (text : String) : Option String :=
  match readReference? text.toList with
  | some (.reference name true, []) => some name
  | _ => none

/-- What a text stands for: a single reference in double braces is the JSON value that its
parameter spells, if it spells one. -/
def fillValue (values : Fields String) (text : String) : Json :=
  match (typedName? text).bind (Fields.get? values) with
  | some value => (Json.read? value).getD (.text value)
  | none => .text (fillText values text)

mutual

/-- **A JSON value with the values of parameters in place of references**, also in the names of
members. -/
def fill (values : Fields String) : Json → Json
  | .text text => fillValue values text
  | .array items => .array (fillItems values items)
  | .object members => .ofMembers (fillMembers values members)
  | value => value

/-- The items of an array with values in place of references. -/
def fillItems (values : Fields String) : List Json → List Json
  | [] => []
  | item :: rest => fill values item :: fillItems values rest

/-- The members of an object with values in place of references. -/
def fillMembers (values : Fields String) : List (String × Json) → List (String × Json)
  | [] => []
  | (key, value) :: rest => (fillText values key, fill values value) :: fillMembers values rest

end

end VmProvisioning.Reference
