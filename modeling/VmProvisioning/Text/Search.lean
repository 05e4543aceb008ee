/-!
# Searching and cutting texts

## Main definitions

* `cut?`: the text before and after the first occurrence of a needle
* `contains`: whether a needle occurs
* `pieces`: the pieces between separators
* `dropPrefix?`, `dropSuffix?`: a text without a given beginning or end
-/

namespace VmProvisioning.Text

/-- The text before and after the first occurrence of `needle`. -/
def cut? (needle : List Char) : List Char → Option (List Char × List Char)
  | [] => if needle.isEmpty then some ([], []) else none
  | c :: rest =>
    if needle.isPrefixOf (c :: rest) then some ([], (c :: rest).drop needle.length)
    else (cut? needle rest).map fun (before, after) => (c :: before, after)

theorem length_cut? {needle cs before after : List Char}
    (h : cut? needle cs = some (before, after)) : after.length ≤ cs.length := by
  induction cs generalizing before after with
  | nil => simp_all [cut?]
  | cons c rest ih =>
    rw [cut?] at h
    split at h
    · simp only [Option.some.injEq, Prod.mk.injEq] at h
      rw [← h.2, List.length_drop]
      exact Nat.sub_le _ _
    · obtain ⟨⟨b, a⟩, hcut, heq⟩ := Option.map_eq_some_iff.mp h
      simp only [Prod.mk.injEq] at heq
      rw [← heq.2]
      exact Nat.le_succ_of_le (ih hcut)

/-- Whether `needle` occurs in `cs`. -/
def occursIn (needle cs : List Char) : Bool :=
  (cut? needle cs).isSome

/-- Whether `needle` occurs in `text`. -/
def contains (text needle : String) : Bool :=
  occursIn needle.toList text.toList

/-- Whether `text` begins with `start`. -/
def beginsWith (text start : String) : Bool :=
  start.toList.isPrefixOf text.toList

/-- `cs` without the beginning `start`, when it begins so. -/
def dropPrefix? : (start cs : List Char) → Option (List Char)
  | [], cs => some cs
  | _ :: _, [] => none
  | s :: start, c :: cs => if s = c then dropPrefix? start cs else none

/-- `cs` without the end `ending`, when it ends so. -/
def dropSuffix? (ending cs : List Char) : Option (List Char) :=
  (dropPrefix? ending.reverse cs.reverse).map List.reverse

/-- The pieces of a text between the characters that satisfy `isSeparator`; there is one piece
more than there are separators. -/
def pieces (isSeparator : Char → Bool) : List Char → List (List Char)
  | [] => [[]]
  | c :: rest =>
    if isSeparator c then [] :: pieces isSeparator rest
    else
      match pieces isSeparator rest with
      | piece :: others => (c :: piece) :: others
      | [] => [[c]]

end VmProvisioning.Text
