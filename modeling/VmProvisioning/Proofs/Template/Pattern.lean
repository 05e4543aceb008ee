import Mathlib.Algebra.Ring.Nat
import VmProvisioning.Template.Pattern

/-!
# Lengths of generated values

No item of a pattern is without choices, so every draw yields a character. Whether a value is
generated and how long it is depends on the pattern alone, and not on the source of random numbers.

## Main definitions

* `Pattern.drawCount`: how many characters are drawn for items

## Main results

* `Pattern.choices_ne_nil_of_read`: the items of a pattern have choices
* `Pattern.generate_eq_error_iff`: a value fails to be generated when the pattern cannot be read
* `Pattern.length_of_generate`: the length of a generated value
-/

namespace VmProvisioning

/-! ## Choices -/

namespace RandomSource

variable {σ α : Type} (source : RandomSource σ)

theorem length_pick {choices : List α} (h : choices ≠ []) (state : σ) :
    ((source.pick choices).run state).1.length = 1 := by
  cases choices with
  | nil => exact absurd rfl h
  | cons first others => rfl

/-- Every choice from a list that is not empty yields an element. -/
theorem length_pickMany {choices : List α} (h : choices ≠ []) (count : Nat) (state : σ) :
    ((source.pickMany choices count).run state).1.length = count := by
  induction count generalizing state with
  | zero => rfl
  | succ count ih =>
    have hstep : ((source.pickMany choices (count + 1)).run state).1 =
        ((source.pick choices).run state).1 ++
          ((source.pickMany choices count).run ((source.pick choices).run state).2).1 :=
      rfl
    rw [hstep, List.length_append, length_pick source h, ih, Nat.add_comm]

theorem mem_of_mem_pick {choices : List α} {x : α} {state : σ}
    (h : x ∈ ((source.pick choices).run state).1) : x ∈ choices := by
  cases choices with
  | nil => cases h
  | cons first others =>
    obtain rfl := List.mem_singleton.mp h
    exact List.getElem_mem _

/-- Only elements of a list are chosen from it. -/
theorem mem_of_mem_pickMany {choices : List α} {count : Nat} {state : σ} :
    ∀ x ∈ ((source.pickMany choices count).run state).1, x ∈ choices := by
  induction count generalizing state with
  | zero => nofun
  | succ count ih =>
    intro x hx
    rcases List.mem_append.mp hx with hfirst | hrest
    · exact source.mem_of_mem_pick hfirst
    · exact ih x hrest

end RandomSource

namespace Pattern

variable {σ : Type} {source : RandomSource σ} {pattern value : String} {state after : σ}
  {error : PatternError} {items : List Item}

/-- **How many characters are drawn** for items. -/
def drawCount (items : List Item) : Nat :=
  (items.map Item.count).sum

/-! ## Items -/

theorem escaped_ne_nil (c : Char) : escaped c ≠ [] := by
  unfold escaped
  split_ifs
  · simp
  · decide
  · decide
  · decide
  · simp

theorem ne_nil_of_classSet {body set : List Char} (h : classSet body = .ok set) : set ≠ [] := by
  unfold classSet at h
  cases hchars : classChars body with
  | error error => simp [hchars, bind, Except.bind] at h
  | ok chars =>
    simp only [hchars, bind, Except.bind] at h
    split at h
    · cases h
    · next hne =>
      cases h
      exact hne

theorem ne_nil_of_readChoices {c : Char} {cs set rest : List Char}
    (h : readChoices c cs = .ok (set, rest)) : set ≠ [] := by
  unfold readChoices at h
  split at h
  -- a class
  · split at h
    · cases h
    · next body tail hcut =>
      cases hset : classSet body with
      | error error => simp [hset, Except.map] at h
      | ok chars =>
        simp only [hset, Except.map, Except.ok.injEq, Prod.mk.injEq] at h
        rw [← h.1]
        exact ne_nil_of_classSet hset
  · split at h
    -- an escape
    · cases cs with
      | nil => cases h
      | cons d tail =>
        cases h
        exact escaped_ne_nil d
    -- a single character
    · cases h
      simp

theorem choices_ne_nil_of_readItems {cs : List Char} (h : readItems cs = .ok items) :
    ∀ item ∈ items, item.choices ≠ [] := by
  -- Induction on the text, along the items that are read from it.
  fun_induction readItems cs generalizing items with
  | case1 =>
    cases h
    nofun
  | case2 => cases h
  | case3 => cases h
  | case4 c cs choices rest hchoices count rest' hcount ih =>
    cases htail : readItems rest' with
    | error error => simp [htail, Except.map] at h
    | ok tail =>
      simp only [htail, Except.map, Except.ok.injEq] at h
      rw [← h, List.forall_mem_cons]
      exact ⟨ne_nil_of_readChoices hchoices, ih htail⟩

/-- **The items of a pattern have choices.** -/
theorem choices_ne_nil_of_read (h : read pattern = .ok items) :
    ∀ item ∈ items, item.choices ≠ [] := by
  unfold read at h
  split at h
  · cases h
  · exact choices_ne_nil_of_readItems h

/-! ## Draws -/

theorem length_draw (h : ∀ item ∈ items, item.choices ≠ []) (state : σ) :
    ((draw source items).run state).1.length = drawCount items := by
  induction items generalizing state with
  | nil => rfl
  | cons item rest ih =>
    obtain ⟨hitem, hrest⟩ := List.forall_mem_cons.mp h
    have hstep : ((draw source (item :: rest)).run state).1 =
        ((source.pickMany item.choices item.count).run state).1 ++
          ((draw source rest).run
            ((source.pickMany item.choices item.count).run state).2).1 :=
      rfl
    rw [hstep, List.length_append, source.length_pickMany hitem, ih hrest]
    rfl

/-- **A value fails to be generated** when the pattern cannot be read. -/
theorem generate_eq_error_iff :
    generate source pattern state = .error error ↔ read pattern = .error error := by
  unfold generate
  cases hread : read pattern with
  | error other => simp [Except.map]
  | ok items => simp [Except.map]

/-- A value is only generated from a pattern that can be read. -/
theorem exists_read_of_generate (h : generate source pattern state = .ok (value, after)) :
    ∃ items, read pattern = .ok items := by
  cases hread : read pattern with
  | error error =>
    rw [generate_eq_error_iff.mpr hread] at h
    cases h
  | ok items => exact ⟨items, rfl⟩

/-- **The length of a generated value** is that of every value of the pattern. -/
theorem length_of_generate (h : generate source pattern state = .ok (value, after))
    (hread : read pattern = .ok items) : value.length = drawCount items := by
  unfold generate at h
  rw [hread] at h
  have hvalue : String.ofList ((draw source items).run state).1 = value :=
    congrArg Prod.fst (Except.ok.inj h)
  rw [← hvalue, String.length_ofList]
  exact length_draw (choices_ne_nil_of_read hread) state

/-- A value is generated when the pattern can be read. -/
theorem exists_generate_eq_ok (h : read pattern = .ok items) (source : RandomSource σ) (state : σ) :
    ∃ value after, generate source pattern state = .ok (value, after) := by
  unfold generate
  rw [h]
  exact ⟨_, _, rfl⟩

end Pattern

end VmProvisioning
