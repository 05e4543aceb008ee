import VmProvisioning.Json.Basic

/-!
# Reading JSON texts

One JSON text, with JSON's own blanks around it. At most 127 arrays and objects may stand inside
one another, a number too large for a double is refused, and so is half of a surrogate pair.

## Main definitions

* `Json.readNumber?`: a number; digits that do not fit into 64 bits scale it instead
* `Json.readText?`: the rest of a text after its opening quote
* `Json.readValue`: a value at the beginning of a text
* `Json.read?`: a whole text
-/

namespace VmProvisioning

namespace Json

/-- The blanks between the parts of a JSON text. -/
def isGap (c : Char) : Bool :=
  c == ' ' || c == '\t' || c == '\n' || c == '\r'

/-- A text after the blanks at its beginning. -/
def skipGap (cs : List Char) : List Char :=
  cs.dropWhile isGap

/-- The value of a digit. -/
def digitValue (c : Char) : Nat :=
  c.toNat - '0'.toNat

/-- Append digits to a significand while it fits into 64 bits; the digits left over come back. -/
def absorb (significand : Nat) : List Char → Nat × List Char
  | [] => (significand, [])
  | c :: rest =>
    if significand * 10 + digitValue c < UInt64.size then
      absorb (significand * 10 + digitValue c) rest
    else (significand, c :: rest)

/-- A whole number, or the double for one that does not fit and for minus zero. -/
def wholeNumber? (negative : Bool) (significand : Nat) : Option Json :=
  if !negative then some (int significand)
  else if 0 < significand ∧ significand ≤ Nat.pow 2 63 then some (int (-significand))
  else (Binary64.scaled? true significand 0).map double

/-- An exponent mark with sign and digits, when there is one: the exponent and the rest. -/
def readExponent? : List Char → Option (Option Int × List Char)
  | c :: rest =>
    if c = 'e' ∨ c = 'E' then
      let (negative, rest) :=
        match rest with
        | '+' :: rest => (false, rest)
        | '-' :: rest => (true, rest)
        | rest => (false, rest)
      let digits := rest.takeWhile Char.isDigit
      let magnitude : Int := digits.foldl (fun n c => n * 10 + digitValue c) 0
      if digits.isEmpty then none
      else some (some (if negative then -magnitude else magnitude), rest.dropWhile Char.isDigit)
    else some (none, c :: rest)
  | [] => some (none, [])

/-- The digits after a point, when there is one: at least one digit has to follow it. -/
def readFraction? : List Char → Option (Option (List Char) × List Char)
  | '.' :: rest =>
    let digits := rest.takeWhile Char.isDigit
    if digits.isEmpty then none else some (some digits, rest.dropWhile Char.isDigit)
  | rest => some (none, rest)

/-- The digits before the point: a single zero or digits that do not begin with one. -/
def readWhole? (cs : List Char) : Option (List Char × List Char) :=
  match cs.takeWhile Char.isDigit with
  | [] => none
  | '0' :: _ :: _ => none
  | digits => some (digits, cs.dropWhile Char.isDigit)

/-- **A number.** With a fraction or an exponent, or with more digits than fit, it is a double:
the digits that fit form its significand, the others only scale it. -/
def readNumber? (cs : List Char) : Option (Json × List Char) := do
  let (negative, cs) :=
    match cs with
    | '-' :: rest => (true, rest)
    | rest => (false, rest)
  let (whole, cs) ← readWhole? cs
  let (fraction?, cs) ← readFraction? cs
  let (exponent?, cs) ← readExponent? cs
  let (significand, overflow) := absorb 0 whole
  let value ←
    if overflow.isEmpty && fraction?.isNone && exponent?.isNone then
      wholeNumber? negative significand
    else
      let fraction := fraction?.getD []
      let (significand, unread) := absorb significand fraction
      let taken := fraction.length - unread.length
      let exponent : Int := exponent?.getD 0 + overflow.length - taken
      (Binary64.scaled? negative significand exponent).map double
  return (value, cs)

/-- The number of a hexadecimal digit. -/
def hexDigit? (c : Char) : Option Nat :=
  if c.isDigit then some (digitValue c)
  else if 'a' ≤ c ∧ c ≤ 'f' then some (c.toNat - 'a'.toNat + 10)
  else if 'A' ≤ c ∧ c ≤ 'F' then some (c.toNat - 'A'.toNat + 10)
  else none

/-- The number of four hexadecimal digits. -/
def hexNumber? (a b c d : Char) : Option Nat := do
  return (((← hexDigit? a) * 16 + (← hexDigit? b)) * 16 + (← hexDigit? c)) * 16 + (← hexDigit? d)

/-- The character of a backslash escape of one letter. -/
def escaped? : Char → Option Char
  | '"' => some '"'
  | '\\' => some '\\'
  | '/' => some '/'
  | 'b' => some (Char.ofNat 0x8)
  | 'f' => some (Char.ofNat 0xC)
  | 'n' => some '\n'
  | 'r' => some '\r'
  | 't' => some '\t'
  | _ => none

/-- The characters up to the closing quote, and the rest after it. `high` is the first half of a
surrogate pair when the text so far ends in one: then the second half has to follow. -/
def readText? (high : Option Nat) : List Char → Option (List Char × List Char)
  | '"' :: rest => if high.isSome then none else some ([], rest)
  | '\\' :: 'u' :: a :: b :: c :: d :: rest => do
    let code ← hexNumber? a b c d
    match high with
    | some first =>
      if 0xDC00 ≤ code ∧ code ≤ 0xDFFF then
        let (cs, rest) ← readText? none rest
        return (Char.ofNat (0x10000 + (first - 0xD800) * 0x400 + (code - 0xDC00)) :: cs, rest)
      else none
    | none =>
      if 0xD800 ≤ code ∧ code ≤ 0xDBFF then readText? (some code) rest
      else if 0xDC00 ≤ code ∧ code ≤ 0xDFFF then none
      else
        let (cs, rest) ← readText? none rest
        return (Char.ofNat code :: cs, rest)
  | '\\' :: e :: rest => do
    let c ← escaped? e
    if high.isSome then none
    else
      let (cs, rest) ← readText? none rest
      return (c :: cs, rest)
  | c :: rest => do
    if high.isSome ∨ c.toNat < 0x20 then none
    else
      let (cs, rest) ← readText? none rest
      return (c :: cs, rest)
  | [] => none

/-- A value that is neither text, array nor object. -/
def readScalar? (cs : List Char) : Option (Json × List Char) :=
  match cs with
  | 'n' :: 'u' :: 'l' :: 'l' :: rest => some (null, rest)
  | 't' :: 'r' :: 'u' :: 'e' :: rest => some (bool true, rest)
  | 'f' :: 'a' :: 'l' :: 's' :: 'e' :: rest => some (bool false, rest)
  | cs => readNumber? cs

mutual

/-- A value at the beginning of a text, with at most `depth` arrays and objects inside one
another. -/
def readValue : (fuel depth : Nat) → List Char → Option (Json × List Char)
  | 0, _, _ => none
  | fuel + 1, depth, cs =>
    match skipGap cs with
    | '"' :: rest => (readText? none rest).map fun (cs, rest) => (text (String.ofList cs), rest)
    | '[' :: rest =>
      if depth = 0 then none
      else
        match skipGap rest with
        | ']' :: rest => some (array [], rest)
        | rest => (readItems fuel (depth - 1) rest).map fun (items, rest) => (array items, rest)
    | '{' :: rest =>
      if depth = 0 then none
      else
        match skipGap rest with
        | '}' :: rest => some (object [], rest)
        | rest =>
          (readMembers fuel (depth - 1) rest).map fun (members, rest) => (ofMembers members, rest)
    | cs => readScalar? cs

/-- The items of an array up to its closing bracket. -/
def readItems : (fuel depth : Nat) → List Char → Option (List Json × List Char)
  | 0, _, _ => none
  | fuel + 1, depth, cs => do
    let (item, rest) ← readValue fuel depth cs
    match skipGap rest with
    | ']' :: rest => return ([item], rest)
    | ',' :: rest =>
      let (items, rest) ← readItems fuel depth rest
      return (item :: items, rest)
    | _ => none

/-- The members of an object up to its closing brace. -/
def readMembers : (fuel depth : Nat) → List Char → Option (List (String × Json) × List Char)
  | 0, _, _ => none
  | fuel + 1, depth, cs =>
    match skipGap cs with
    | '"' :: rest => do
      let (key, rest) ← readText? none rest
      match skipGap rest with
      | ':' :: rest =>
        let (value, rest) ← readValue fuel depth rest
        match skipGap rest with
        | '}' :: rest => return ([(String.ofList key, value)], rest)
        | ',' :: rest =>
          let (members, rest) ← readMembers fuel depth rest
          return ((String.ofList key, value) :: members, rest)
        | _ => none
      | _ => none
    | _ => none

end

/-- The arrays and objects that may stand inside one another. -/
def maxDepth : Nat :=
  127

/-- **A whole JSON text.** Every step of the reader takes at least half a character, so the bound
given to it is never reached. -/
def read? (text : String) : Option Json := do
  let cs := text.toList
  let (value, rest) ← readValue (2 * cs.length + 2) maxDepth cs
  if (skipGap rest).isEmpty then return value else none

end Json

end VmProvisioning
