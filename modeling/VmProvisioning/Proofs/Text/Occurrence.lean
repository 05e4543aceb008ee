import Mathlib.Data.List.Infix
import VmProvisioning.Text.Search

/-!
# First occurrences

Where a part occurs first in a text. A text is cut there, and one in which the part does not occur
is not cut.

## Main definitions

* `IsFirstOccurrence`: the first occurrence of a part, with what stands before and after it

## Main results

* `cut?_eq_some_iff_isFirstOccurrence`: a text is cut at the first occurrence of a part
* `cut?_eq_none_iff_not_isInfix`: it is not cut when there is none
-/

namespace VmProvisioning.Text

variable {part text front rest : List Char}

/-- **The first occurrence** of a part in a text, with what stands before and after it. -/
structure IsFirstOccurrence (part text front rest : List Char) : Prop where
  eq_append : text = front ++ (part ++ rest)
  length_le : ∀ before after, text = before ++ (part ++ after) → front.length ≤ before.length

theorem cut?_eq_none_iff_not_isInfix : cut? part text = none ↔ ¬ part <:+: text := by
  induction text with
  | nil => simp [cut?, List.isEmpty_iff]
  | cons c text ih =>
    rw [cut?, List.infix_cons_iff]
    split
    · next h => simp [List.isPrefixOf_iff_prefix.mp h]
    · next h =>
      have h : ¬ part <+: c :: text := fun hstart => h (List.isPrefixOf_iff_prefix.mpr hstart)
      simp [h, ih]

/-- A part at the beginning of a text occurs there first. -/
theorem isFirstOccurrence_append_iff {tail : List Char} :
    IsFirstOccurrence part (part ++ tail) front rest ↔ front = [] ∧ rest = tail := by
  constructor
  · rintro ⟨heq, hfirst⟩
    obtain rfl := List.length_eq_zero_iff.mp (Nat.le_zero.mp (hfirst [] tail rfl))
    exact ⟨rfl, (List.append_cancel_left heq).symm⟩
  · rintro ⟨rfl, rfl⟩
    exact ⟨rfl, fun _ _ _ => Nat.zero_le _⟩

/-- Otherwise it occurs first behind the first character. -/
theorem isFirstOccurrence_cons_iff {c : Char} (h : ¬ part <+: c :: text) :
    IsFirstOccurrence part (c :: text) front rest ↔
      ∃ others, front = c :: others ∧ IsFirstOccurrence part text others rest := by
  constructor
  · rintro ⟨heq, hfirst⟩
    rcases List.cons_eq_append_iff.mp heq with ⟨rfl, hpart⟩ | ⟨others, rfl, rfl⟩
    · exact absurd ⟨rest, hpart⟩ h
    · refine ⟨others, rfl, rfl, fun before after hother => ?_⟩
      have hlength := hfirst (c :: before) after (by rw [hother, List.cons_append])
      simpa using hlength
  · rintro ⟨others, rfl, heq, hfirst⟩
    refine ⟨by rw [heq, List.cons_append], fun before after hother => ?_⟩
    rcases List.cons_eq_append_iff.mp hother with ⟨rfl, hpart⟩ | ⟨others, rfl, htext⟩
    · exact absurd ⟨after, hpart⟩ h
    · exact Nat.succ_le_succ (hfirst others after htext)

/-- **A text is cut at the first occurrence** of a part. -/
theorem cut?_eq_some_iff_isFirstOccurrence :
    cut? part text = some (front, rest) ↔ IsFirstOccurrence part text front rest := by
  induction text generalizing front rest with
  | nil =>
    cases part with
    | nil =>
      have hiff : IsFirstOccurrence [] [] front rest ↔ front = [] ∧ rest = [] :=
        isFirstOccurrence_append_iff
      rw [hiff]
      simp [cut?, eq_comm]
    | cons c part =>
      refine iff_of_false (by simp [cut?]) fun h => ?_
      simpa using h.eq_append
  | cons c text ih =>
    rw [cut?]
    split
    · next h =>
      obtain ⟨tail, htail⟩ := List.isPrefixOf_iff_prefix.mp h
      rw [← htail, isFirstOccurrence_append_iff, List.drop_left]
      simp [eq_comm]
    · next h =>
      rw [isFirstOccurrence_cons_iff fun hstart => h (List.isPrefixOf_iff_prefix.mpr hstart)]
      simp only [Option.map_eq_some_iff, Prod.mk.injEq, Prod.exists, ih]
      constructor
      · rintro ⟨others, rest, hfirst, rfl, rfl⟩
        exact ⟨others, rfl, hfirst⟩
      · rintro ⟨others, rfl, hfirst⟩
        exact ⟨others, rest, hfirst, rfl, rfl⟩

end VmProvisioning.Text
