import VmProvisioning.DnsLabel

/-!
# Characters of labels

## Main definitions

* `DnsLabel.IsLabelText`: a text of the characters of labels

## Main results

* `isLabelText_sanitize`: the label for a text has the characters of labels only
* `validate_eq_ok_iff`: what is accepted as an id
-/

namespace VmProvisioning.DnsLabel

/-- **A text of the characters of labels**: lower-case letters, digits and hyphens. -/
structure IsLabelText (text : String) : Prop where
  ne_empty : text ≠ ""
  chars : ∀ c ∈ text.toList, isLabelChar c = true ∨ c = '-'

variable {id : String}

instance (text : String) : Decidable (IsLabelText text) :=
  decidable_of_iff (text ≠ "" ∧ (text.toList.all fun c => isLabelChar c || c == '-') = true)
    ⟨fun ⟨hne, hall⟩ => ⟨hne, fun c hc => by simpa using List.all_eq_true.mp hall c hc⟩,
      fun h => ⟨h.ne_empty, List.all_eq_true.mpr fun c hc => by simpa using h.chars c hc⟩⟩

theorem isLabelChar_iff {c : Char} : isLabelChar c = true ↔
    (97 ≤ c.toNat ∧ c.toNat ≤ 122) ∨ (48 ≤ c.toNat ∧ c.toNat ≤ 57) := by
  simp [isLabelChar, Char.le_def, UInt32.le_iff_toNat_le]

theorem mem_hyphenate {atBreak : Bool} {cs : List Char} {c : Char} (h : c ∈ hyphenate atBreak cs) :
    isLabelChar c = true ∨ c = '-' := by
  induction cs generalizing atBreak with
  | nil => cases h
  | cons first rest ih =>
    simp only [hyphenate] at h
    split at h
    · next hfirst =>
      rcases List.mem_cons.mp h with rfl | hrest
      · exact .inl hfirst
      · exact ih hrest
    · split at h
      · exact ih h
      · rcases List.mem_cons.mp h with rfl | hrest
        · exact .inr rfl
        · exact ih hrest

theorem mem_of_mem_cutToLength {cs : List Char} {c : Char} (h : c ∈ cutToLength cs) : c ∈ cs := by
  rw [cutToLength, List.mem_reverse] at h
  have hkept := (List.dropWhile_suffix _).subset h
  exact List.mem_of_mem_take (List.mem_reverse.mp hkept)

/-- **The label for a text** has the characters of labels only. -/
theorem isLabelText_sanitize (text : String) : IsLabelText (sanitize text) := by
  unfold sanitize
  split
  · decide +kernel
  · next hne =>
    refine ⟨fun hempty => hne ?_, fun c hc => ?_⟩
    · exact String.ofList_eq_empty_iff.mp hempty
    · rw [String.toList_ofList] at hc
      exact mem_hyphenate (mem_of_mem_cutToLength hc)

/-- An id is accepted when it is its own label. -/
theorem validate_eq_ok_iff : validate id = .ok () ↔ id ≠ "" ∧ sanitize id = id := by
  unfold validate
  split
  · next h => simp [h]
  · next h => simp [h]

theorem isLabelText_of_validate (h : validate id = .ok ()) : IsLabelText id :=
  (validate_eq_ok_iff.mp h).2 ▸ isLabelText_sanitize id

/-- A label has no slash. -/
theorem IsLabelText.slash_notMem (h : IsLabelText id) : '/' ∉ id.toList := by
  intro hmem
  rcases h.chars _ hmem with hlabel | hhyphen
  · exact absurd hlabel (by decide)
  · exact absurd hhyphen (by decide)

end VmProvisioning.DnsLabel
