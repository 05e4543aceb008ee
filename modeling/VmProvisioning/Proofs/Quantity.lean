import VmProvisioning.Proofs.Number
import VmProvisioning.Quantity

/-!
# Quantities read back

What is written for whole cores, milli-cores, GiB and bytes is read back as the same amount, also
with blanks around it. The readers round twice, to a double and to a whole number, and neither
rounding changes a multiple of a power of two by no more than `2 ^ 53`.

## Main results

* `Quantity.bytes_surrounded`, `Quantity.millicores_surrounded`: blanks around a quantity do not
  count
* `Quantity.bytes_toString_append`: naturals with a binary suffix are read back in bytes
* `Quantity.bytes_ofGibibytes`, `Quantity.bytes_ofBytes`: so are GiB and bytes
* `Quantity.millicores_toString_append`: naturals with the milli suffix are read back
* `Quantity.millicores_ofMillicores`: so are milli-cores
* `Quantity.written_read_back`: all three with blanks around them, up to the edges of doubles and
  of 64 bits
-/

namespace VmProvisioning

/-! ## Texts with blanks and without them -/

theorem dropWhile_eq_self {p : Char → Bool} {cs : List Char} (h : ∀ c ∈ cs, p c = false) :
    cs.dropWhile p = cs := by
  cases cs with
  | nil => rfl
  | cons c rest => simp [h c List.mem_cons_self]

/-- A text without characters of a kind is not trimmed of them. -/
theorem trimBy_eq_self {p : Char → Bool} {cs : List Char} (h : ∀ c ∈ cs, p c = false) :
    Text.trimBy p cs = cs := by
  have hreverse : ∀ c ∈ cs.reverse, p c = false := by
    intro c hc
    exact h c (List.mem_reverse.mp hc)
  rw [Text.trimBy, dropWhile_eq_self h, dropWhile_eq_self hreverse, List.reverse_reverse]

/-- Characters of a kind around a text are trimmed, whatever the text. -/
theorem trimBy_surrounded {p : Char → Bool} {before after : List Char}
    (hbefore : ∀ c ∈ before, p c = true) (hafter : ∀ c ∈ after, p c = true) (cs : List Char) :
    Text.trimBy p (before ++ cs ++ after) = Text.trimBy p cs := by
  have hreverse : ∀ c ∈ after.reverse, p c = true := by
    intro c hc
    exact hafter c (List.mem_reverse.mp hc)
  rw [Text.trimBy, Text.trimBy, List.append_assoc, List.dropWhile_append_of_pos hbefore,
    List.dropWhile_append]
  split
  -- A text of such characters only is trimmed together with those behind it.
  case isTrue hnil =>
    rw [List.isEmpty_iff.mp hnil, List.dropWhile_eq_nil_iff.mpr hafter]
  case isFalse => rw [List.reverse_append, List.dropWhile_append_of_pos hreverse]

namespace Quantity

/-! ## Numbers -/

theorem not_isBlank_of_mem_toDigits {n : Nat} :
    ∀ c ∈ Nat.toDigits 10 n, Text.isBlank c = false := by
  intro c hc
  exact isBlank_of_isDigit (isDigit_of_mem_toDigits hc)

/-- A natural is read from its digits without a loss. -/
theorem readNumber_toDigits {n : Nat} (quantity : String) (h : n ≤ 2 ^ 53) :
    readNumber (Nat.toDigits 10 n) quantity = .ok (n * unitsPerOne) := by
  simp [readNumber, trimBy_eq_self not_isBlank_of_mem_toDigits, Decimal.read?_toDigits,
    Decimal.units?_eq_some h]

/-- Whole numbers are not rounded. -/
theorem roundToWhole_mul {n : Nat} (h : n < UInt64.size) :
    roundToWhole (n * unitsPerOne) = n := by
  have hhalf : unitsPerOne / 2 < unitsPerOne := Nat.div_lt_self unitsPerOne_pos (by decide)
  have hquotient : (n * unitsPerOne + unitsPerOne / 2) / unitsPerOne = n := by
    rw [Nat.mul_comm, Nat.mul_add_div unitsPerOne_pos, Nat.div_eq_of_lt hhalf, Nat.add_zero]
  rw [roundToWhole, hquotient, Nat.min_eq_left]
  exact Nat.le_pred_of_lt h

theorem scale_two_pow {n e : Nat} (h : n ≤ 2 ^ 53) :
    scale (n * unitsPerOne) (Nat.pow 2 e) = n * Nat.pow 2 e * unitsPerOne := by
  rw [scale, nearestUnits_mul_unitsPerOne h, Nat.mul_right_comm]

theorem scale_of_le {n factor : Nat} (h : n * factor ≤ 2 ^ 53) :
    scale (n * unitsPerOne) factor = n * factor * unitsPerOne := by
  rw [scale, Nat.mul_right_comm]
  simpa using nearestUnits_mul_unitsPerOne (e := 0) h

/-! ## Suffixes -/

theorem toList_toString (n : Nat) : (toString n).toList = Nat.toDigits 10 n := by
  rw [Nat.toString_eq_repr, Nat.toList_repr]

/-- A number does not end in a letter. -/
theorem dropSuffix?_toDigits (n : Nat) {suffix : List Char} {last : Char}
    (hlast : suffix.getLast? = some last) (hletter : last.isDigit = false) :
    Text.dropSuffix? suffix (Nat.toDigits 10 n) = none := by
  have hne : (Nat.toDigits 10 n).reverse ≠ [] := by
    simp
  obtain ⟨c, rest, hreverse⟩ := List.exists_cons_of_ne_nil hne
  have hc : last ≠ c := by
    rintro rfl
    have hmem : last ∈ (Nat.toDigits 10 n).reverse := hreverse ▸ List.mem_cons_self
    have hdigit := isDigit_of_mem_toDigits (List.mem_reverse.mp hmem)
    exact absurd (hletter.symm.trans hdigit) (by decide)
  obtain ⟨front, rfl⟩ := List.getLast?_eq_some_iff.mp hlast
  simp [Text.dropSuffix?, hreverse, Text.dropPrefix?, hc]

/-- The suffixes of bytes end in letters. -/
theorem getLast?_of_mem_byteSuffixes :
    ∀ suffix ∈ byteSuffixes, ∃ last ∈ suffix.1.toList.getLast?, last.isDigit = false := by
  simp [byteSuffixes]

/-- A number has no suffix. -/
theorem splitSuffix?_toDigits (n : Nat) : splitSuffix? (Nat.toDigits 10 n) = none := by
  rw [splitSuffix?, List.findSome?_eq_none_iff]
  rintro ⟨suffix, factor⟩ hmem
  obtain ⟨last, hlast, hletter⟩ := getLast?_of_mem_byteSuffixes _ hmem
  simp only [dropSuffix?_toDigits n hlast hletter, Option.map_none]

theorem splitSuffix?_append_gibi (cs : List Char) :
    splitSuffix? (cs ++ ['G', 'i']) = some (cs, Nat.pow 2 30) := by
  simp [splitSuffix?, byteSuffixes, Text.dropSuffix?, Text.dropPrefix?]

theorem splitSuffix?_append_mebi (cs : List Char) :
    splitSuffix? (cs ++ ['M', 'i']) = some (cs, Nat.pow 2 20) := by
  simp [splitSuffix?, byteSuffixes, Text.dropSuffix?, Text.dropPrefix?]

/-! ## Amounts -/

/-- Digits with a suffix are not trimmed. -/
theorem trimBy_toDigits_append (n : Nat) {suffix : List Char}
    (h : ∀ c ∈ suffix, Text.isBlank c = false) :
    Text.trimBy Text.isBlank (Nat.toDigits 10 n ++ suffix) = Nat.toDigits 10 n ++ suffix := by
  refine trimBy_eq_self fun c hc => ?_
  rcases List.mem_append.mp hc with hdigit | hsuffix
  · exact not_isBlank_of_mem_toDigits c hdigit
  · exact h c hsuffix

/-- A number with a suffix is scaled. -/
theorem bytes_of_suffix {text : String} {cs number : List Char} {factor : Nat}
    (htrim : Text.trimBy Text.isBlank text.toList = cs) (hne : cs ≠ [])
    (hsplit : splitSuffix? cs = some (number, factor)) :
    bytes text = (readNumber number text).map fun units => roundToWhole (scale units factor) := by
  obtain ⟨c, rest, rfl⟩ := List.exists_cons_of_ne_nil hne
  simp only [bytes, htrim, hsplit]

/-- A number without a suffix is not. -/
theorem bytes_of_no_suffix {text : String} {cs : List Char}
    (htrim : Text.trimBy Text.isBlank text.toList = cs) (hne : cs ≠ [])
    (hsplit : splitSuffix? cs = none) :
    bytes text = (readNumber cs text).map roundToWhole := by
  obtain ⟨c, rest, rfl⟩ := List.exists_cons_of_ne_nil hne
  simp only [bytes, htrim, hsplit]

/-- A natural with a suffix that stands for a power of two is read as that many bytes. From the
eleventh power on there is no room in 64 bits for a natural that a double does not hold. -/
theorem bytes_toString_append {amount e : Nat} {suffix : String}
    (hblank : ∀ c ∈ suffix.toList, Text.isBlank c = false)
    (hsplit : ∀ cs, splitSuffix? (cs ++ suffix.toList) = some (cs, Nat.pow 2 e))
    (he : 11 ≤ e) (hlt : amount * Nat.pow 2 e < UInt64.size) :
    bytes (toString amount ++ suffix) = .ok (amount * Nat.pow 2 e) := by
  have hexact : amount ≤ 2 ^ 53 := by
    have hfactor : 2 ^ 11 ≤ Nat.pow 2 e := Nat.pow_le_pow_right (by decide) he
    have hlt' := (Nat.mul_le_mul_left amount hfactor).trans_lt hlt
    simp only [UInt64.size, Nat.reducePow] at hlt' ⊢
    omega
  have htrim : Text.trimBy Text.isBlank (toString amount ++ suffix).toList =
      Nat.toDigits 10 amount ++ suffix.toList := by
    rw [String.toList_append, toList_toString]
    exact trimBy_toDigits_append amount hblank
  have hne := List.append_ne_nil_of_left_ne_nil (Nat.toDigits_ne_nil (n := amount) (b := 10))
    suffix.toList
  rw [bytes_of_suffix htrim hne (hsplit _)]
  simp only [readNumber_toDigits _ hexact, Except.map, scale_two_pow hexact, roundToWhole_mul hlt]

/-- **GiB are read back** in bytes. -/
theorem bytes_ofGibibytes {amount : Nat} (h : amount * gibibyte < UInt64.size) :
    bytes (ofGibibytes amount) = .ok (amount * gibibyte) :=
  bytes_toString_append (by simp [Text.isBlank]) splitSuffix?_append_gibi (by decide) h

/-- MiB are read back in bytes. -/
theorem bytes_toString_append_mebi {amount : Nat} (h : amount * mebibyte < UInt64.size) :
    bytes (toString amount ++ "Mi") = .ok (amount * mebibyte) :=
  bytes_toString_append (by simp [Text.isBlank]) splitSuffix?_append_mebi (by decide) h

/-- A natural without a suffix is read as that many bytes. -/
theorem bytes_toString {amount : Nat} (h : amount ≤ 2 ^ 53) :
    bytes (toString amount) = .ok amount := by
  have htrim : Text.trimBy Text.isBlank (toString amount).toList = Nat.toDigits 10 amount := by
    rw [toList_toString]
    exact trimBy_eq_self not_isBlank_of_mem_toDigits
  rw [bytes_of_no_suffix htrim Nat.toDigits_ne_nil (splitSuffix?_toDigits amount)]
  simp only [readNumber_toDigits _ h, Except.map, roundToWhole_mul (h.trans_lt (by decide))]

/-- **Bytes are read back** when they are up to `2 ^ 53` or a number of MiB. -/
theorem bytes_ofBytes {amount : Nat} (hlt : amount < UInt64.size)
    (hexact : amount ≤ 2 ^ 53 ∨ mebibyte ∣ amount) : bytes (ofBytes amount) = .ok amount := by
  unfold ofBytes
  split
  case isTrue h =>
    have hcancel := Nat.div_mul_cancel (Nat.dvd_of_mod_eq_zero h.2)
    have hread := bytes_ofGibibytes (hcancel.symm ▸ hlt)
    rwa [hcancel] at hread
  case isFalse =>
  split
  case isTrue h =>
    have hcancel := Nat.div_mul_cancel (Nat.dvd_of_mod_eq_zero h.2)
    have hread := bytes_toString_append_mebi (hcancel.symm ▸ hlt)
    rwa [hcancel] at hread
  -- Without a suffix only zero is a number of MiB.
  case isFalse hmebi =>
    refine bytes_toString (hexact.elim id fun hdvd => ?_)
    rcases Nat.eq_zero_or_pos amount with rfl | hpos
    · exact Nat.zero_le _
    · exact absurd ⟨hpos, Nat.mod_eq_zero_of_dvd hdvd⟩ hmebi

/-- A natural with the milli suffix is read as that many milli-cores. -/
theorem millicores_toString_append {amount : Nat} (h : amount ≤ 2 ^ 53) :
    millicores (toString amount ++ "m") = .ok amount := by
  have htrim : Text.trimBy Text.isBlank (toString amount ++ "m").toList =
      Nat.toDigits 10 amount ++ ['m'] := by
    rw [String.toList_append, toList_toString]
    exact trimBy_toDigits_append amount (by simp [Text.isBlank])
  have hsuffix : Text.dropSuffix? ['m'] (Nat.toDigits 10 amount ++ ['m']) =
      some (Nat.toDigits 10 amount) := by
    simp [Text.dropSuffix?, Text.dropPrefix?]
  simp only [millicores, htrim, hsuffix, readNumber_toDigits _ h, Except.map,
    roundToWhole_mul (h.trans_lt (by decide))]

/-- **Milli-cores are read back.** -/
theorem millicores_ofMillicores {amount : Nat} (h : amount ≤ 2 ^ 53) :
    millicores (ofMillicores amount) = .ok amount := by
  unfold ofMillicores
  split
  -- whole cores are written without a suffix and multiplied again
  case isTrue hwhole =>
    have hcores : amount / 1000 * 1000 = amount :=
      Nat.div_mul_cancel (Nat.dvd_of_mod_eq_zero hwhole)
    have htrim : Text.trimBy Text.isBlank (toString (amount / 1000)).toList =
        Nat.toDigits 10 (amount / 1000) := by
      rw [toList_toString]
      exact trimBy_eq_self not_isBlank_of_mem_toDigits
    have hsuffix : Text.dropSuffix? ['m'] (Nat.toDigits 10 (amount / 1000)) = none :=
      dropSuffix?_toDigits _ rfl rfl
    have hle : amount / 1000 ≤ 2 ^ 53 := (Nat.div_le_self amount 1000).trans h
    simp only [millicores, htrim, hsuffix, readNumber_toDigits _ hle, Except.map]
    rw [scale_of_le (hcores.symm ▸ h), hcores, roundToWhole_mul (h.trans_lt (by decide))]
  case isFalse => exact millicores_toString_append h

/-! ## Blanks around quantities -/

section Surrounded

variable {before after text : String} {amount : Nat}

/-- A number that is read does not depend on the text for the failure. -/
theorem readNumber_congr {number : List Char} {quantity : String} {units : Nat}
    (h : readNumber number quantity = .ok units) (quantity' : String) :
    readNumber number quantity' = .ok units := by
  -- Only the failures carry the text.
  unfold readNumber at h ⊢
  grind

theorem map_readNumber_congr {number : List Char} {quantity : String} {f : Nat → Nat}
    (h : (readNumber number quantity).map f = .ok amount) (quantity' : String) :
    (readNumber number quantity').map f = .ok amount := by
  cases hread : readNumber number quantity with
  | error failure =>
    rw [hread] at h
    cases h
  | ok units => rwa [hread, ← readNumber_congr hread quantity'] at h

theorem trimBy_toList_surrounded (hbefore : Text.isBlankText before = true)
    (hafter : Text.isBlankText after = true) (text : String) :
    Text.trimBy Text.isBlank (before ++ text ++ after).toList =
      Text.trimBy Text.isBlank text.toList := by
  rw [String.toList_append, String.toList_append]
  exact trimBy_surrounded (List.all_eq_true.mp hbefore) (List.all_eq_true.mp hafter) _

/-- **Blanks around a quantity of bytes do not count.** -/
theorem bytes_surrounded (hbefore : Text.isBlankText before = true)
    (hafter : Text.isBlankText after = true) (h : bytes text = .ok amount) :
    bytes (before ++ text ++ after) = .ok amount := by
  have htrim := trimBy_toList_surrounded hbefore hafter text
  rcases Decidable.eq_or_ne (Text.trimBy Text.isBlank text.toList) [] with hnil | hne
  · rw [bytes, hnil] at h
    cases h
  · cases hsplit : splitSuffix? (Text.trimBy Text.isBlank text.toList) with
    | none =>
      rw [bytes_of_no_suffix rfl hne hsplit] at h
      rw [bytes_of_no_suffix htrim hne hsplit]
      exact map_readNumber_congr h _
    | some numberAndFactor =>
      rw [bytes_of_suffix rfl hne hsplit] at h
      rw [bytes_of_suffix htrim hne hsplit]
      exact map_readNumber_congr h _

/-- **Blanks around a quantity of milli-cores do not count.** -/
theorem millicores_surrounded (hbefore : Text.isBlankText before = true)
    (hafter : Text.isBlankText after = true) (h : millicores text = .ok amount) :
    millicores (before ++ text ++ after) = .ok amount := by
  simp only [millicores, trimBy_toList_surrounded hbefore hafter] at h ⊢
  cases hsuffix : Text.dropSuffix? ['m'] (Text.trimBy Text.isBlank text.toList) with
  | none =>
    simp only [hsuffix] at h ⊢
    exact map_readNumber_congr h _
  | some number =>
    simp only [hsuffix] at h ⊢
    exact map_readNumber_congr h _

/-- **What is written is read back**, also among blanks: up to `2 ^ 53` milli-cores, the GiB that
64 bits hold as bytes, and bytes that are up to `2 ^ 53` or a number of MiB. -/
theorem written_read_back (hbefore : Text.isBlankText before = true)
    (hafter : Text.isBlankText after = true) :
    (∀ amount ≤ 2 ^ 53, millicores (before ++ ofMillicores amount ++ after) = .ok amount) ∧
      (∀ amount < 2 ^ 34,
        bytes (before ++ ofGibibytes amount ++ after) = .ok (amount * 2 ^ 30)) ∧
      ∀ amount < 2 ^ 64, amount ≤ 2 ^ 53 ∨ 2 ^ 20 ∣ amount →
        bytes (before ++ ofBytes amount ++ after) = .ok amount := by
  refine ⟨fun amount h => ?_, fun amount h => ?_, fun amount h hexact => ?_⟩
  · exact millicores_surrounded hbefore hafter (millicores_ofMillicores h)
  · have hlt : amount * gibibyte < UInt64.size := by
      rw [gibibyte, Nat.pow_eq, UInt64.size]
      omega
    exact bytes_surrounded hbefore hafter (bytes_ofGibibytes hlt)
  · exact bytes_surrounded hbefore hafter (bytes_ofBytes h hexact)

/-- At the edges: `2 ^ 53` milli-cores, the last GiB and the last MiB of 64 bits, and the last bytes
that are written without a suffix, with a tabulator before and a line break and an ideographic space
behind them. -/
theorem written_read_back_edges :
    millicores ("\t" ++ ofMillicores (2 ^ 53) ++ "\n\u3000") = .ok (2 ^ 53) ∧
      bytes ("\t" ++ ofGibibytes (2 ^ 34 - 1) ++ "\n\u3000") = .ok ((2 ^ 34 - 1) * 2 ^ 30) ∧
      bytes ("\t" ++ ofBytes (2 ^ 53 - 1) ++ "\n\u3000") = .ok (2 ^ 53 - 1) ∧
      bytes ("\t" ++ ofBytes (2 ^ 64 - 2 ^ 20) ++ "\n\u3000") = .ok (2 ^ 64 - 2 ^ 20) := by
  obtain ⟨hcpu, hgibi, hbytes⟩ :=
    written_read_back (by decide : Text.isBlankText "\t" = true)
      (by decide : Text.isBlankText "\n\u3000" = true)
  exact ⟨hcpu _ (by decide), hgibi _ (by decide), hbytes _ (by decide) (.inl (by decide)),
    hbytes _ (by decide) (.inr ⟨2 ^ 44 - 1, by decide⟩)⟩

end Surrounded

end Quantity

end VmProvisioning
