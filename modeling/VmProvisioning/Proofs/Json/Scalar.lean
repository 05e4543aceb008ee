import Mathlib.Data.List.TakeWhile
import VmProvisioning.Json.Reader

/-!
# Texts of scalars

Only a text with a bracket or brace behind its blanks spells an array or an object.

## Main definitions

* `Json.isScalar`: a value that is neither an array nor an object
* `Json.Opens`: a character that begins an array or an object

## Main results

* `Json.isScalar_of_mem_read?`: a text that begins with neither spells a scalar
-/

namespace VmProvisioning

/-- What is true of all results of the second part is true of those of both. -/
theorem forall_mem_bind {α β : Type} {p : β → Prop} {x : Option α} {f : α → Option β}
    (h : ∀ a ∈ x, ∀ b ∈ f a, p b) : ∀ b ∈ x >>= f, p b := by
  intro b hb
  obtain ⟨a, ha, hb⟩ := Option.bind_eq_some_iff.mp hb
  exact h a ha b hb

namespace Json

variable {cs : List Char}

/-- **Neither an array nor an object.** -/
def isScalar : Json → Bool
  | array _ => false
  | object _ => false
  | _ => true

/-- A character that begins an array or an object. -/
def Opens (c : Char) : Prop :=
  c = '[' ∨ c = '{'

theorem isObject_of_isScalar {value : Json} (h : value.isScalar = true) :
    value.isObject = false := by
  cases value with
  | object members => cases h
  | _ => rfl

theorem isScalar_of_mem_wholeNumber? {negative : Bool} {significand : Nat} :
    ∀ number ∈ wholeNumber? negative significand, number.isScalar = true := by
  intro number hnumber
  unfold wholeNumber? at hnumber
  split at hnumber
  · cases hnumber
    rfl
  · split at hnumber
    · cases hnumber
      rfl
    · obtain ⟨_, -, rfl⟩ := Option.map_eq_some_iff.mp hnumber
      rfl

theorem isScalar_of_mem_readNumber? : ∀ read ∈ readNumber? cs, read.1.isScalar = true := by
  unfold readNumber?
  refine forall_mem_bind fun whole _ => forall_mem_bind fun fraction _ =>
    forall_mem_bind fun exponent _ => ?_
  dsimp only
  split
  · refine forall_mem_bind fun number hnumber => ?_
    intro read hread
    cases hread
    exact isScalar_of_mem_wholeNumber? number hnumber
  · refine forall_mem_bind fun number hnumber => ?_
    obtain ⟨_, -, rfl⟩ := Option.map_eq_some_iff.mp hnumber
    intro read hread
    cases hread
    rfl

theorem isScalar_of_mem_readScalar? : ∀ read ∈ readScalar? cs, read.1.isScalar = true := by
  unfold readScalar?
  split
  · simp [isScalar]
  · simp [isScalar]
  · simp [isScalar]
  · exact isScalar_of_mem_readNumber?

/-- **A text that begins with neither a bracket nor a brace** behind its blanks spells a scalar. -/
theorem isScalar_of_mem_readValue {fuel depth : Nat}
    (h : ∀ c rest, skipGap cs = c :: rest → ¬ Opens c) :
    ∀ read ∈ readValue fuel depth cs, read.1.isScalar = true := by
  cases fuel with
  | zero => nofun
  | succ fuel =>
    rintro ⟨value, rest⟩ hread
    unfold readValue at hread
    split at hread
    · obtain ⟨content, -, heq⟩ := Option.map_eq_some_iff.mp hread
      cases heq
      rfl
    · next heq => exact absurd (.inl rfl) (h _ _ heq)
    · next heq => exact absurd (.inr rfl) (h _ _ heq)
    · exact isScalar_of_mem_readScalar? _ hread

theorem isScalar_of_mem_read? {text : String}
    (h : ∀ c rest, skipGap text.toList = c :: rest → ¬ Opens c) :
    ∀ value ∈ read? text, value.isScalar = true := by
  unfold read?
  refine forall_mem_bind fun read hread => ?_
  dsimp only
  split
  · intro value hvalue
    cases hvalue
    exact isScalar_of_mem_readValue h _ hread
  · nofun

end Json

end VmProvisioning
