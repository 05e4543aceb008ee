import VmProvisioning.Json.Writer
import VmProvisioning.Yaml.Reader

/-!
# Writing YAML documents

Collections are written one entry to a line. Texts are written plain where nothing else could be
read from them, and else as JSON texts.

## Main definitions

* `Yaml.write`: a document
-/

namespace VmProvisioning.Yaml

/-- A text that is read back when it is written plain, or in quotes. -/
def writeText (text : String) : String :=
  let cs := text.toList
  let begins := (cs.head?.map fun c => c.isAlpha || c == '/').getD false
  if begins && cs.all isPlain && plainValue cs == .text text then text else Json.writeText text

/-- The blanks in front of a line. -/
def indent (depth : Nat) : String :=
  String.ofList (List.replicate (2 * depth) ' ')

/-- Whether a value is written on one line. -/
def isInline : Json → Bool
  | .array [] | .object [] => true
  | .array _ | .object _ => false
  | _ => true

/-- A value on one line. -/
def writeInline : Json → String
  | .text text => writeText text
  | value => value.write

mutual

/-- The lines of a value that does not fit on one. -/
def writeLines (depth : Nat) : Json → List String
  | .array items => writeItems depth items
  | .object members => writeMembers depth members
  | value => [indent depth ++ writeInline value]

/-- The lines of the items of a sequence. -/
def writeItems (depth : Nat) : List Json → List String
  | [] => []
  | item :: rest =>
    let lines :=
      if isInline item then [indent depth ++ "- " ++ writeInline item]
      else (indent depth ++ "-") :: writeLines (depth + 1) item
    lines ++ writeItems depth rest

/-- The lines of the members of a mapping. -/
def writeMembers (depth : Nat) : List (String × Json) → List String
  | [] => []
  | (key, value) :: rest =>
    let start := indent depth ++ writeText key ++ ":"
    let lines :=
      if isInline value then [start ++ " " ++ writeInline value]
      else start :: writeLines (depth + 1) value
    lines ++ writeMembers depth rest

end

/-- **A document**, with an end of line after every line. -/
def write (value : Json) : String :=
  let lines := if isInline value then [writeInline value] else writeLines 0 value
  String.join (lines.map (· ++ "\n"))

end VmProvisioning.Yaml
