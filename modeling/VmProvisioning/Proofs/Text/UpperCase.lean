import Mathlib.Data.List.Basic
import VmProvisioning.Text.Casing

/-!
# Upper case is final

What a character becomes in upper case is in upper case already. The tables decide: none of the
code points that they map to is one that they map. Some characters have a part in no mapping beyond
ASCII, so that putting other characters into upper case makes none of them.

## Main definitions

* `CaseSpan.codes`, `CaseSpan.images`: the code points of a span, and what they are mapped to
* `upperSources`, `upperImages`: the code points that have an upper case, and those in it
* `steadyCodes`: code points that no mapping beyond ASCII leads to
* `bits`: a set of code points as a number, in which membership is fast to decide

## Main results

* `upperChar_of_mem_upperChar`: upper case is final
* `upperChar_ne_nil`: it is never empty
* `apply_of_mem_upperChar`: a property of steady characters is kept by it
-/

namespace VmProvisioning.Text

variable {c d : Char} {code image : Nat} {set : List Nat} {span : CaseSpan}

/-! ## Sets of code points -/

/-- **A set of code points as a number**: the bits that are set are the code points. -/
def bits (set : List Nat) : Nat :=
  set.foldr (fun code number => number ||| 1 <<< code) 0

theorem testBit_bits : (bits set).testBit code = true ↔ code ∈ set := by
  induction set with
  | nil => simp [bits]
  | cons first set ih =>
    have hcons : bits (first :: set) = bits set ||| 1 <<< first := rfl
    rw [hcons, Nat.testBit_or, Bool.or_eq_true, ih, Nat.one_shiftLeft, Nat.testBit_two_pow,
      decide_eq_true_iff, List.mem_cons, or_comm, eq_comm]

namespace CaseSpan

/-- The code points of a span. -/
def codes (span : CaseSpan) : List Nat :=
  (List.range ((span.last - span.first) / span.step + 1)).map fun k => span.first + span.step * k

/-- What the code points of a span are mapped to. -/
def images (span : CaseSpan) : List Nat :=
  span.codes.map fun code : Nat => (code + span.offset).toNat

theorem mem_of_image? (h : span.image? code = some image) :
    code ≤ span.last ∧ code ∈ span.codes ∧ image ∈ span.images := by
  rw [image?] at h
  split at h
  · next hcode =>
    obtain ⟨hfirst, hlast, hstep⟩ := hcode
    have hmem : code ∈ span.codes := by
      refine List.mem_map.mpr ⟨(code - span.first) / span.step, List.mem_range.mpr ?_, ?_⟩
      · exact Nat.lt_succ_of_le (Nat.div_le_div_right (Nat.sub_le_sub_right hlast _))
      · rw [Nat.mul_div_cancel' (Nat.dvd_of_mod_eq_zero hstep)]
        exact Nat.add_sub_cancel' hfirst
    cases h
    exact ⟨hlast, hmem, List.mem_map_of_mem hmem⟩
  · cases h

end CaseSpan

/-! ## The tables -/

/-- The code points that have another upper case. -/
def upperSources : List Nat :=
  upperSpans.flatMap CaseSpan.codes ++ upperExpansions.map Prod.fst

/-- The code points in the upper case of characters beyond ASCII. -/
def upperImages : List Nat :=
  (upperSpans.filter fun span => 0x80 ≤ span.last).flatMap CaseSpan.images ++
    upperExpansions.flatMap Prod.snd

/-- Code points in no upper case of a character beyond ASCII: the blank, the two hyphens and the
letter V in both cases. -/
def steadyCodes : List Nat :=
  [0x20, 0x2D, 0x5F, 0x56, 0x76]

theorem notMem_sources_of_mem_upperImages :
    ∀ code ∈ upperImages, code ∉ upperSources ++ steadyCodes := by
  -- Membership is decided by one bit instead of a search through the list.
  have hbits : upperImages.all fun code => !(bits (upperSources ++ steadyCodes)).testBit code := by
    decide +kernel
  intro code hcode hmem
  have hbit := List.all_eq_true.mp hbits code hcode
  rw [testBit_bits.mpr hmem] at hbit
  cases hbit

theorem isValidChar_of_mem_upperImages : ∀ code ∈ upperImages, code.isValidChar := by
  decide +kernel

theorem mem_upperExpansions : ∀ entry ∈ upperExpansions, entry.2 ≠ [] := by
  decide +kernel

theorem mem_upperSources_of_lowerLetter : ∀ n < 26, 97 + n ∈ upperSources := by
  intro n hn
  have hbits : ∀ n < 26, (bits upperSources).testBit (97 + n) = true := by
    decide +kernel
  exact testBit_bits.mp (hbits n hn)

theorem toNat_ofNat (h : code.isValidChar) : (Char.ofNat code).toNat = code := by
  rw [Char.ofNat, dif_pos h]
  rfl

/-! ## Upper case -/

/-- In ASCII only small letters have another upper case. -/
theorem toUpper_eq_self (h : ¬ (97 ≤ c.toNat ∧ c.toNat ≤ 122)) : c.toUpper = c := by
  refine dif_neg ?_
  rintro ⟨hlow, hhigh⟩
  exact h ⟨UInt32.le_iff_toNat_le.mp hlow, UInt32.le_iff_toNat_le.mp hhigh⟩

theorem lookup_eq_none (h : code ∉ upperSources) : upperExpansions.lookup code = none := by
  cases hlookup : upperExpansions.lookup code with
  | none => rfl
  | some codes =>
    obtain ⟨before, after, heq, -⟩ := List.lookup_eq_some_iff.mp hlookup
    refine absurd (List.mem_append_right _ (List.mem_map.mpr ⟨(code, codes), ?_, rfl⟩)) h
    rw [heq]
    simp

/-- A character that the tables do not map is its own upper case. -/
theorem upperChar_of_notMem (h : c.toNat ∉ upperSources) : upperChar c = [c] := by
  unfold upperChar
  split
  · rw [toUpper_eq_self]
    rintro ⟨hlow, hhigh⟩
    have hmem := mem_upperSources_of_lowerLetter (c.toNat - 97) (by omega)
    rw [Nat.add_sub_cancel' hlow] at hmem
    exact h hmem
  · rw [lookup_eq_none h]
    simp only [mapBySpans]
    split
    · next image himage =>
      obtain ⟨span, hspan, hcode⟩ := List.exists_of_findSome?_eq_some himage
      obtain ⟨-, hcode, -⟩ := CaseSpan.mem_of_image? hcode
      exact absurd (List.mem_append_left _ (List.mem_flatMap.mpr ⟨span, hspan, hcode⟩)) h
    · rfl

theorem upperChar_ne_nil (c : Char) : upperChar c ≠ [] := by
  unfold upperChar
  split
  · exact List.cons_ne_nil _ _
  · split
    · next codes hlookup =>
      obtain ⟨before, after, heq, -⟩ := List.lookup_eq_some_iff.mp hlookup
      have hne : codes ≠ [] := mem_upperExpansions (c.toNat, codes) (by rw [heq]; simp)
      simpa using hne
    · exact List.cons_ne_nil _ _

/-- A character beyond ASCII is its own upper case, or the tables say what its upper case is. -/
theorem upperChar_of_wide (hc : 0x80 ≤ c.toNat) :
    upperChar c = [c] ∨ ∀ d ∈ upperChar c, d.toNat ∈ upperImages := by
  rw [upperChar, if_neg (Nat.not_lt.mpr hc)]
  split
  · next codes hlookup =>
    refine .inr fun d hd => ?_
    obtain ⟨before, after, heq, -⟩ := List.lookup_eq_some_iff.mp hlookup
    obtain ⟨code, hcode, rfl⟩ := List.mem_map.mp hd
    have hmem : code ∈ upperImages :=
      List.mem_append_right _ (List.mem_flatMap.mpr ⟨(c.toNat, codes), by rw [heq]; simp, hcode⟩)
    rwa [toNat_ofNat (isValidChar_of_mem_upperImages code hmem)]
  · rw [mapBySpans]
    split
    · next image himage =>
      refine .inr fun d hd => ?_
      obtain ⟨span, hspan, hcode⟩ := List.exists_of_findSome?_eq_some himage
      obtain ⟨hlast, -, himage⟩ := CaseSpan.mem_of_image? hcode
      have hwide : 0x80 ≤ span.last := Nat.le_trans hc hlast
      have hmem : image ∈ upperImages := List.mem_append_left _
        (List.mem_flatMap.mpr ⟨span, List.mem_filter.mpr ⟨hspan, by simpa using hwide⟩, himage⟩)
      obtain rfl := List.mem_singleton.mp hd
      rwa [toNat_ofNat (isValidChar_of_mem_upperImages image hmem)]
    · exact .inl rfl

theorem upperChar_ofNat_of_ascii (h : code < 0x80) :
    upperChar (Char.ofNat code) = [(Char.ofNat code).toUpper] := by
  rw [upperChar, if_pos]
  rwa [toNat_ofNat (.inl (Nat.lt_trans h (by decide)))]

/-- **Upper case is final.** -/
theorem upperChar_of_mem_upperChar (h : d ∈ upperChar c) : upperChar d = [d] := by
  rcases Nat.lt_or_ge c.toNat 0x80 with hc | hc
  · have hascii : ∀ code < 0x80,
        upperChar (Char.ofNat code).toUpper = [(Char.ofNat code).toUpper] := by
      decide +kernel
    rw [← Char.ofNat_toNat c, upperChar_ofNat_of_ascii hc] at h
    obtain rfl := List.mem_singleton.mp h
    exact hascii c.toNat hc
  · rcases upperChar_of_wide hc with hself | himages
    · rw [hself] at h
      obtain rfl := List.mem_singleton.mp h
      exact hself
    · refine upperChar_of_notMem fun hsource => ?_
      exact notMem_sources_of_mem_upperImages _ (himages d h) (List.mem_append_left _ hsource)

/-- **Upper case keeps a property** of steady characters that it keeps in ASCII. -/
theorem apply_of_mem_upperChar {p : Char → Bool} (hsteady : ∀ c, p c = true → c.toNat ∈ steadyCodes)
    (hascii : ∀ code < 0x80, p (Char.ofNat code).toUpper = p (Char.ofNat code))
    (h : d ∈ upperChar c) : p d = p c := by
  have hnarrow : ∀ code ∈ steadyCodes, code < 0x80 := by decide
  rcases Nat.lt_or_ge c.toNat 0x80 with hc | hc
  · have hkeeps := hascii c.toNat hc
    rw [← Char.ofNat_toNat c, upperChar_ofNat_of_ascii hc] at h
    obtain rfl := List.mem_singleton.mp h
    rwa [Char.ofNat_toNat] at hkeeps ⊢
  · rcases upperChar_of_wide hc with hself | himages
    · rw [hself] at h
      rw [List.mem_singleton.mp h]
    · have hwide : p c = false := by
        by_contra hpc
        exact Nat.not_lt.mpr hc (hnarrow _ (hsteady c (by simpa using hpc)))
      rw [hwide]
      by_contra hpd
      refine notMem_sources_of_mem_upperImages _ (himages d h) (List.mem_append_right _ ?_)
      exact hsteady d (by simpa using hpd)

end VmProvisioning.Text
