import VmProvisioning.Proofs.Text.Pieces
import VmProvisioning.Simulation.Address

/-!
# The dotted notation reads back

The four bytes of a word can be read off its dotted notation, so that different words have
different notations. The last two bytes can be read off the hardware address that is made from it.

## Main results

* `bytes?_text`: the bytes of the notation of a word are the bytes of the word
* `text_injective`: words with one notation are the same
* `toNat_mod_eq_of_mac_text_eq`: words with one hardware address have the same last two bytes
-/

namespace VmProvisioning.Address

/-! ## Dotted notations -/

theorem byteAt_lt (word : UInt32) (bit : Nat) : byteAt word bit < 256 :=
  Nat.mod_lt _ (by decide)

/-- A word is put together from its bytes. -/
theorem toNat_eq_bytes (word : UInt32) :
    word.toNat = byteAt word 24 * 16777216 + byteAt word 16 * 65536 + byteAt word 8 * 256 +
      byteAt word 0 := by
  have := word.toNat_lt
  simp only [byteAt, Nat.pow_eq, Nat.reducePow]
  omega

theorem byte?_toDigits : ∀ n < 256, byte? (Nat.toDigits 10 n) = some n := by
  decide +kernel

theorem not_dot_of_mem_toDigits {n : Nat} : ∀ c ∈ Nat.toDigits 10 n, (c == '.') = false := by
  intro c hc
  have hdigit := Nat.isDigit_of_mem_toDigits (by decide) (by decide) hc
  rw [beq_eq_false_iff_ne]
  rintro rfl
  exact absurd hdigit (by decide)

theorem toList_text (word : UInt32) :
    (text word).toList = Nat.toDigits 10 (byteAt word 24) ++ '.' ::
      (Nat.toDigits 10 (byteAt word 16) ++ '.' :: (Nat.toDigits 10 (byteAt word 8) ++ '.' ::
        Nat.toDigits 10 (byteAt word 0))) := by
  simp [text, String.toList_append]

/-- **The bytes of a dotted notation** are the bytes of the word. -/
theorem bytes?_text (word : UInt32) :
    bytes? (text word) =
      some [byteAt word 24, byteAt word 16, byteAt word 8, byteAt word 0] := by
  have hpieces : Text.pieces (· == '.') (text word).toList =
      [Nat.toDigits 10 (byteAt word 24), Nat.toDigits 10 (byteAt word 16),
        Nat.toDigits 10 (byteAt word 8), Nat.toDigits 10 (byteAt word 0)] := by
    rw [toList_text, Text.pieces_append_cons not_dot_of_mem_toDigits rfl,
      Text.pieces_append_cons not_dot_of_mem_toDigits rfl,
      Text.pieces_append_cons not_dot_of_mem_toDigits rfl,
      Text.pieces_of_forall_not not_dot_of_mem_toDigits]
  simp [bytes?, hpieces, byte?_toDigits, byteAt_lt]

/-- **Different words have different notations.** -/
theorem text_injective : Function.Injective text := by
  intro first second h
  have hbytes := (bytes?_text first).symm.trans (h ▸ bytes?_text second)
  simp only [Option.some.injEq, List.cons.injEq, and_true] at hbytes
  obtain ⟨h₂₄, h₁₆, h₈, h₀⟩ := hbytes
  apply UInt32.toNat_inj.mp
  rw [toNat_eq_bytes first, toNat_eq_bytes second, h₂₄, h₁₆, h₈, h₀]

/-! ## Hardware addresses -/

theorem toList_hexByte : ∀ n < 256,
    (hexByte n).toList = [Nat.digitChar (n / 16), Nat.digitChar (n % 16)] := by
  decide +kernel

theorem digitChar_inj : ∀ m < 16, ∀ n < 16, Nat.digitChar m = Nat.digitChar n → m = n := by
  decide

/-- A byte has the digits of no other byte. -/
theorem eq_of_digitChar_eq {m n : Nat} (hm : m < 256) (hn : n < 256)
    (hhigh : Nat.digitChar (m / 16) = Nat.digitChar (n / 16))
    (hlow : Nat.digitChar (m % 16) = Nat.digitChar (n % 16)) : m = n := by
  have hquotient : m / 16 = n / 16 := digitChar_inj _ (by omega) _ (by omega) hhigh
  have hremainder : m % 16 = n % 16 := digitChar_inj _ (by omega) _ (by omega) hlow
  omega

theorem mac_text (word : UInt32) :
    mac (text word) = "02:00:00:00:" ++ hexByte (byteAt word 8) ++ ":" ++
      hexByte (byteAt word 0) := by
  rw [mac, bytes?_text]

/-- **Hardware addresses keep the last two bytes** of an address apart from those of others. -/
theorem toNat_mod_eq_of_mac_text_eq {first second : UInt32}
    (h : mac (text first) = mac (text second)) :
    first.toNat % 65536 = second.toNat % 65536 := by
  have hchars := congrArg String.toList h
  simp only [mac_text, String.toList_append, toList_hexByte _ (byteAt_lt _ _),
    List.append_assoc, List.append_cancel_left_eq, List.cons_append, List.nil_append,
    List.cons.injEq, and_true] at hchars
  obtain ⟨hthird, hthird', hfourth, hfourth'⟩ := hchars
  have h₈ : byteAt first 8 = byteAt second 8 :=
    eq_of_digitChar_eq (byteAt_lt _ _) (byteAt_lt _ _) hthird hthird'
  have h₀ : byteAt first 0 = byteAt second 0 :=
    eq_of_digitChar_eq (byteAt_lt _ _) (byteAt_lt _ _) hfourth hfourth'
  rw [toNat_eq_bytes first, toNat_eq_bytes second, h₈, h₀]
  omega

end VmProvisioning.Address
