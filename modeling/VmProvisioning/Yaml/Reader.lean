import VmProvisioning.Json.Reader
import VmProvisioning.Number.Decimal
import VmProvisioning.Text.Search

/-!
# Reading YAML documents

A text holds documents with lines of three hyphens between them. A document is a value in flow
style, with collections in brackets and texts in double quotes or plain; a document with nothing
but comments is `null`.

## Main definitions

* `Yaml.plainValue`: what a plain scalar stands for
* `Yaml.fold`: blanks and line breaks within a quoted text
* `Yaml.documents?`, `Yaml.document?`: all documents of a text, or the only one
-/

namespace VmProvisioning.Yaml

/-! ## Characters -/

/-- Whether a character may stand in a text at all. -/
def isPrintable (c : Char) : Bool :=
  let code := c.toNat
  code == 0x9 || code == 0xA || code == 0xD || (0x20 ≤ code && code ≤ 0x7E) || code == 0x85 ||
    (0xA0 ≤ code && code ≤ 0xFFFD && code != 0xFEFF) || 0x10000 ≤ code

/-- Whether a character ends a line. -/
def isBreak (c : Char) : Bool :=
  c == '\n' || c == '\r' || c.toNat == 0x85 || c.toNat == 0x2028 || c.toNat == 0x2029

/-- Whether a character is a blank within a line. -/
def isSpace (c : Char) : Bool :=
  c == ' ' || c == '\t'

/-- A text after blanks, line breaks and comments. -/
def skipGap : List Char → List Char
  | [] => []
  | c :: rest =>
    if isSpace c || isBreak c then skipGap rest
    else if c = '#' then skipComment rest
    else c :: rest
where
  /-- A text after the rest of a comment. -/
  skipComment : List Char → List Char
  | [] => []
  | c :: rest => if isBreak c then skipGap rest else skipComment rest

/-! ## Scalars -/

/-- A number that is not whole. -/
def double? (cs : List Char) : Option Json :=
  match Decimal.read? cs with
  | some (.finite negative significand exponent) =>
    (Decimal.units? significand exponent).map fun units => .double ⟨negative, units⟩
  | _ => none

/-- A whole number of 64 bits. -/
def whole? (cs : List Char) : Option Json :=
  let (negative, digits) :=
    match cs with
    | '-' :: rest => (true, rest)
    | cs => (false, cs)
  let number := Decimal.ofDigits digits
  let isPlain := !digits.isEmpty && digits.all Char.isDigit &&
    (digits.head? != some '0' || digits.length == 1)
  if !isPlain then none
  else if negative then (if number ≤ Nat.pow 2 63 then some (.int (-number)) else none)
  else if number < UInt64.size then some (.int number) else none

/-- **What a plain scalar stands for.** -/
def plainValue (cs : List Char) : Json :=
  let text := String.ofList cs
  if text = "~" ∨ text = "null" then .null
  else if text = "true" then .bool true
  else if text = "false" then .bool false
  else ((whole? cs).or (double? cs)).getD (.text text)

/-- Whether a character may stand in a plain scalar. -/
def isPlain (c : Char) : Bool :=
  c.isAlphanum || c == '-' || c == '+' || c == '.' || c == '_' || c == '/' || c == '~'

/-- **Blanks and line breaks within a quoted text.** Without a line break they are kept. A single
break becomes a blank and the first of several is dropped, unless it separates lines or
paragraphs; the blanks around breaks are dropped. -/
def fold (blanks : List Char) : List Char :=
  let breaks := (blanks.filter isBreak).map fun c =>
    if c.toNat = 0x2028 ∨ c.toNat = 0x2029 then c else '\n'
  match breaks with
  | [] => blanks
  | ['\n'] => [' ']
  | '\n' :: others => others
  | breaks => breaks

/-- The characters up to the closing quote, and the rest after it; `blanks` stand before them. -/
def readQuoted? (blanks : List Char) : List Char → Option (List Char × List Char)
  | '"' :: rest => some (fold blanks, rest)
  | '\\' :: 'u' :: a :: b :: c :: d :: rest => do
    let code ← Json.hexNumber? a b c d
    if code.isValidChar then
      let (cs, rest) ← readQuoted? [] rest
      return (fold blanks ++ Char.ofNat code :: cs, rest)
    else none
  | '\\' :: e :: rest => do
    let c ← Json.escaped? e
    let (cs, rest) ← readQuoted? [] rest
    return (fold blanks ++ c :: cs, rest)
  | c :: rest =>
    if isSpace c || isBreak c then readQuoted? (blanks ++ [c]) rest
    else do
      let (cs, rest) ← readQuoted? [] rest
      return (fold blanks ++ c :: cs, rest)
  | [] => none

/-! ## Values -/

/-- The greatest length of the key of a member. -/
def maxKeyLength : Nat :=
  1024

/-- The key of a member after its opening quote. It has to stand on one line. -/
def readKey? (cs : List Char) : Option (String × List Char) := do
  let (key, rest) ← readQuoted? [] cs
  let raw := cs.take (cs.length - rest.length)
  if maxKeyLength < raw.length + 1 ∨ raw.any isBreak then none
  else return (String.ofList key, rest)

mutual

/-- A value at the beginning of a text. -/
def readValue : (fuel : Nat) → List Char → Option (Json × List Char)
  | 0, _ => none
  | fuel + 1, cs =>
    match skipGap cs with
    | '"' :: rest =>
      (readQuoted? [] rest).map fun (cs, rest) => (.text (String.ofList cs), rest)
    | '[' :: rest =>
      match skipGap rest with
      | ']' :: rest => some (.array [], rest)
      | rest => (readItems fuel rest).map fun (items, rest) => (.array items, rest)
    | '{' :: rest =>
      match skipGap rest with
      | '}' :: rest => some (.object [], rest)
      | rest => (readMembers fuel rest).map fun (members, rest) => (.ofMembers members, rest)
    | cs =>
      match cs.takeWhile isPlain with
      | [] => none
      | scalar => some (plainValue scalar, cs.dropWhile isPlain)

/-- The items of a sequence up to its closing bracket. -/
def readItems : (fuel : Nat) → List Char → Option (List Json × List Char)
  | 0, _ => none
  | fuel + 1, cs => do
    let (item, rest) ← readValue fuel cs
    match skipGap rest with
    | ']' :: rest => return ([item], rest)
    | ',' :: rest =>
      let (items, rest) ← readItems fuel rest
      return (item :: items, rest)
    | _ => none

/-- The members of a mapping up to its closing brace. -/
def readMembers : (fuel : Nat) → List Char → Option (List (String × Json) × List Char)
  | 0, _ => none
  | fuel + 1, cs =>
    match skipGap cs with
    | '"' :: rest => do
      let (key, rest) ← readKey? rest
      match skipGap rest with
      | ':' :: rest =>
        let (value, rest) ← readValue fuel rest
        match skipGap rest with
        | '}' :: rest => return ([(key, value)], rest)
        | ',' :: rest =>
          let (members, rest) ← readMembers fuel rest
          return ((key, value) :: members, rest)
        | _ => none
      | _ => none
    | _ => none

end

/-! ## Documents -/

/-- The document in a text without separators. Every step of the reader takes at least half a
character, so the bound given to it is never reached. -/
def read? (cs : List Char) : Option Json := do
  match skipGap cs with
  | [] => return .null
  | cs =>
    let (value, rest) ← readValue (2 * cs.length + 2) cs
    if (skipGap rest).isEmpty then return value else none

/-- Whether a line separates documents. -/
def isSeparator (line : List Char) : Bool :=
  line == ['-', '-', '-']

/-- The texts between separators, from lines; there is one text more than there are separators. -/
def sections : List (List Char) → List (List Char)
  | [] => [[]]
  | line :: rest =>
    match isSeparator line, sections rest with
    | true, texts => [] :: texts
    | false, text :: others => (line ++ '\n' :: text) :: others
    | false, [] => [line]

/-- The texts of the documents of a text. Nothing before the first separator is no document. -/
def documentTexts (text : String) : List (List Char) :=
  match sections (Text.pieces (· == '\n') text.toList) with
  | [] => []
  | first :: others => if (skipGap first).isEmpty then others else first :: others

/-- **All documents of a text.** -/
def documents? (text : String) : Option (List Json) :=
  if text.toList.all isPrintable then (documentTexts text).mapM read? else none

/-- **The only document of a text.** -/
def document? (text : String) : Option Json :=
  match documents? text with
  | some [document] => some document
  | _ => none

end VmProvisioning.Yaml
