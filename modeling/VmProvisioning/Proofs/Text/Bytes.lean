import Mathlib.Data.String.Basic
import Mathlib.Data.List.Lex

/-!
# The order of texts is that of their bytes

Texts are ordered by their code points. UTF-8 keeps that order: the bytes of two texts compare
like the texts.

## Main definitions

* `Text.bytes`: the bytes of a text

## Main results

* `utf8EncodeChar_append_lt`: the encodings of two characters already differ in their order
* `bytes_lt_iff`: the order of the bytes is that of the texts
-/

namespace VmProvisioning.Text

/-- **The bytes of a text** in UTF-8. -/
def bytes (text : String) : List UInt8 :=
  text.toUTF8.data.toList

theorem bytes_eq_flatMap (text : String) :
    bytes text = text.toList.flatMap String.utf8EncodeChar := by
  rw [bytes, String.toUTF8_eq_toByteArray]
  conv_lhs => rw [← String.ofList_toList (s := text)]
  exact List.toList_data_toByteArray

theorem toNat_lt_of_char (c : Char) : c.val.toNat < 0x110000 := by
  rcases c.valid with h | ⟨-, h⟩
  · exact h.trans (by decide)
  · exact h

/-- **The encodings of two characters differ in their order**, whatever comes after them. -/
theorem utf8EncodeChar_append_lt {c d : Char} (h : c < d) (first second : List UInt8) :
    String.utf8EncodeChar c ++ first < String.utf8EncodeChar d ++ second := by
  have hlt : c.val.toNat < d.val.toNat := h
  have hbound := toNat_lt_of_char d
  -- All bytes but the first one hold six bits each.
  have hbyte (n : Nat) : (n % 64 + 128) % 256 = n % 64 + 128 := by omega
  have htwelve (n : Nat) : n / 4096 = n / 64 / 64 := by omega
  have heighteen (n : Nat) : n / 262144 = n / 64 / 64 / 64 := by omega
  simp only [String.utf8EncodeChar]
  generalize c.val.toNat = n at hlt ⊢
  generalize d.val.toNat = m at hlt hbound ⊢
  -- one case for each pair of lengths, where the shorter one comes first
  split_ifs
  all_goals
    simp only [List.cons_append, List.nil_append, List.cons_lt_cons_iff, UInt8.lt_iff_toNat_lt,
      ← UInt8.toNat_inj, UInt8.toNat_ofNat', hbyte, htwelve, heighteen, Nat.reducePow]
    omega

theorem append_lt_append_left (common : List UInt8) {first second : List UInt8}
    (h : first < second) : common ++ first < common ++ second := by
  induction common with
  | nil => exact h
  | cons byte common ih => exact List.cons_lt_cons_iff.mpr (.inr ⟨rfl, ih⟩)

theorem flatMap_utf8EncodeChar_lt {first second : List Char} (h : first < second) :
    first.flatMap String.utf8EncodeChar < second.flatMap String.utf8EncodeChar := by
  -- Induction up to the first character in which the texts differ.
  induction first generalizing second with
  | nil =>
    cases second with
    | nil => exact absurd h (lt_irrefl _)
    | cons d second =>
      obtain ⟨byte, rest, hd⟩ := List.exists_cons_of_ne_nil (@String.utf8EncodeChar_ne_nil d)
      rw [List.flatMap_cons, hd]
      exact List.nil_lt_cons _ _
  | cons c first ih =>
    cases second with
    | nil => exact absurd h (List.not_lt_nil _)
    | cons d second =>
      rw [List.flatMap_cons, List.flatMap_cons]
      rcases List.cons_lt_cons_iff.mp h with hlt | ⟨rfl, hrest⟩
      · exact utf8EncodeChar_append_lt hlt _ _
      · exact append_lt_append_left _ (ih hrest)

/-- **The order of the bytes** is that of the texts. -/
theorem bytes_lt_iff {first second : String} : bytes first < bytes second ↔ first < second := by
  have hmono {first second : String} (h : first < second) : bytes first < bytes second := by
    rw [bytes_eq_flatMap, bytes_eq_flatMap]
    exact flatMap_utf8EncodeChar_lt h
  refine ⟨fun h => ?_, hmono⟩
  rcases lt_trichotomy first second with hlt | rfl | hgt
  · exact hlt
  · exact absurd h (List.lt_irrefl _)
  · exact absurd h (List.lt_asymm (hmono hgt))

end VmProvisioning.Text
