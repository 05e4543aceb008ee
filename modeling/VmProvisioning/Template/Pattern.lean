import VmProvisioning.Random
import VmProvisioning.Text.Quoted
import VmProvisioning.Text.Search
import VmProvisioning.Number.Decimal
import VmProvisioning.Failure

/-!
# Patterns for generated values

A pattern is a sequence of items, such as `[a-z0-9]{8}` or `user-\d`. An item is a class in
brackets, an escape or a single character, with the number of times that it is drawn. Reading a
pattern involves no chance, so whether it is valid and how long its values are depends on the
pattern alone.

## Main definitions

* `Pattern.Item`: the characters to choose from, and how often
* `Pattern.read`: the items of a pattern
* `Pattern.generate`: a value drawn from a pattern
-/

namespace VmProvisioning.Pattern

/-- An item of a pattern: draw `count` of the characters `choices`. -/
structure Item where
  choices : List Char
  count : Nat
deriving DecidableEq, Repr

/-- The greatest number of times that an item may be drawn. -/
def maxCount : Nat :=
  255

/-! ## Characters -/

/-- Letters of both cases. -/
def letters : List Char :=
  "abcdefghijklmnopqrstuvwxyzABCDEFGHIJKLMNOPQRSTUVWXYZ".toList

/-- Decimal digits. -/
def digits : List Char :=
  "0123456789".toList

/-- Punctuation. -/
def symbols : List Char :=
  "~!@#$%^&*()-_+=\x7b\x7d[]\\|<,>.?/\"';:\x60".toList

/-- What an escaped character stands for: a class or itself. -/
def escaped (c : Char) : List Char :=
  if c = 'w' then letters ++ digits ++ ['_']
  else if c = 'd' then digits
  else if c = 'a' then letters
  else if c = 'A' then symbols
  else [c]

/-- The characters from `low` to `high`. -/
def between (low high : Char) : List Char :=
  (List.range (high.toNat + 1 - low.toNat)).filterMap fun k =>
    let code := low.toNat + k
    if code.isValidChar then some (Char.ofNat code) else none

/-- A sorted list without its repetitions. -/
def withoutRepeats : List Char → List Char
  | first :: second :: rest =>
    if first = second then withoutRepeats (second :: rest)
    else first :: withoutRepeats (second :: rest)
  | cs => cs

/-! ## Reading -/

/-- The characters of a class: escapes, ranges and single characters. -/
def classChars : List Char → Except PatternError (List Char)
  | '\\' :: c :: rest => do
    return escaped c ++ (← classChars rest)
  | low :: '-' :: high :: rest => do
    if high < low then throw (.invalidRange low high)
    return between low high ++ (← classChars rest)
  | c :: rest => do
    return c :: (← classChars rest)
  | [] => .ok []

/-- The set of characters of a class, in order. -/
def classSet (body : List Char) : Except PatternError (List Char) := do
  match withoutRepeats ((← classChars body).mergeSort fun a b => a ≤ b) with
  | [] => throw .emptyClass
  | set => return set

/-- The characters of the item that begins with `c`, and what follows them. -/
def readChoices (c : Char) (rest : List Char) : Except PatternError (List Char × List Char) :=
  if c = '[' then
    match Text.cut? [']'] rest with
    | none => .error .unterminatedClass
    | some (body, rest) => (classSet body).map fun set => (set, rest)
  else if c = '\\' then
    match rest with
    | [] => .error .danglingEscape
    | c :: rest => .ok (escaped c, rest)
  else .ok ([c], rest)

/-- A whole number of 64 bits with an optional plus sign. -/
def readCount? (cs : List Char) : Option Nat :=
  let number :=
    match cs with
    | '+' :: rest => rest
    | cs => cs
  if number.isEmpty || !number.all Char.isDigit then none
  else some (Decimal.ofDigits number) |>.filter (· < UInt64.size)

/-- How often an item is drawn, once without a count in braces, and what follows. -/
def readRepeat : List Char → Except PatternError (Nat × List Char)
  | '{' :: rest =>
    match Text.cut? ['}'] rest with
    | none => .error .unterminatedRepeat
    | some (body, rest) =>
      match readCount? body with
      | none => .error (.invalidRepeat (String.ofList body))
      | some count =>
        if maxCount < count then .error (.repeatTooLarge count maxCount) else .ok (count, rest)
  | cs => .ok (1, cs)

theorem length_readChoices {c : Char} {cs set rest : List Char}
    (h : readChoices c cs = .ok (set, rest)) : rest.length ≤ cs.length := by
  unfold readChoices at h
  split at h
  · split at h
    · exact absurd h (by simp)
    · next body after hcut =>
      cases hset : classSet body with
      | error e => simp [hset, Except.map] at h
      | ok s =>
        simp only [hset, Except.map, Except.ok.injEq, Prod.mk.injEq] at h
        exact h.2 ▸ Text.length_cut? hcut
  · split at h
    · cases cs with
      | nil => simp at h
      | cons d ds =>
        simp only [Except.ok.injEq, Prod.mk.injEq] at h
        simp [← h.2]
    · simp only [Except.ok.injEq, Prod.mk.injEq] at h
      simp [← h.2]

theorem length_readRepeat {cs rest : List Char} {count : Nat}
    (h : readRepeat cs = .ok (count, rest)) : rest.length ≤ cs.length := by
  unfold readRepeat at h
  split at h
  · split at h
    · exact absurd h (by simp)
    · next body after hcut =>
      split at h
      · exact absurd h (by simp)
      · split at h
        · exact absurd h (by simp)
        · simp only [Except.ok.injEq, Prod.mk.injEq] at h
          exact Nat.le_succ_of_le (h.2 ▸ Text.length_cut? hcut)
  · simp only [Except.ok.injEq, Prod.mk.injEq] at h
    simp [h.2]

/-- The items of a text. -/
def readItems (cs : List Char) : Except PatternError (List Item) :=
  match cs with
  | [] => .ok []
  | c :: cs =>
    match _ : readChoices c cs with
    | .error e => .error e
    | .ok (choices, rest) =>
      match _ : readRepeat rest with
      | .error e => .error e
      | .ok (count, rest') => (readItems rest').map (⟨choices, count⟩ :: ·)
termination_by cs.length
decreasing_by
  have := length_readChoices ‹_›
  have := length_readRepeat ‹_›
  simp only [List.length_cons]
  omega

/-- **The items of a pattern**, which may not be empty. -/
def read (pattern : String) : Except PatternError (List Item) :=
  if pattern = "" then .error .emptyPattern else readItems pattern.toList

/-! ## Drawing -/

variable {σ : Type}

/-- The characters drawn for items, in order. -/
def draw (source : RandomSource σ) : List Item → StateM σ (List Char)
  | [] => return []
  | item :: rest => do
    let drawn ← source.pickMany item.choices item.count
    return drawn ++ (← draw source rest)

/-- **A value of a pattern.** -/
def generate (source : RandomSource σ) (pattern : String) (state : σ) :
    Except PatternError (String × σ) :=
  (read pattern).map fun items =>
    let (drawn, state) := (draw source items).run state
    (String.ofList drawn, state)

end VmProvisioning.Pattern
