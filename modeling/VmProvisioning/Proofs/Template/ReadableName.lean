import VmProvisioning.Proofs.Number
import VmProvisioning.Proofs.Template.Fallback
import VmProvisioning.Proofs.Text.UpperCase

/-!
# Readable names

A readable name spells the words of a name, joined by blanks, with the word for a machine at its
end. It reads back as the words that it is made of, and each of these is spelled as it stands, so
that a readable name is the readable name for itself. Acronyms need no rule of their own: their
first letter is a capital already.

## Main definitions

* `words`: the words of a name
* `IsMachineWord`: the word for a machine in any case
* `Spells`: how a word is spelled in a readable name

## Main results

* `spells_iff`: the spelling of a word
* `words_cleanName`: a readable name reads back as its words
* `cleanName_spells_words`: what a readable name is, and that it is its own readable name
-/

namespace VmProvisioning.Classification

variable {c d : Char} {word spelling rest : List Char} {name : List Char}

/-! ## Words -/

/-- **The words of a name**: what stands between its hyphens, underscores and blanks, unless nothing
does. -/
def words (name : List Char) : List (List Char) :=
  (name.splitOnP (· ∈ ['-', '_', ' '])).filter (· ≠ [])

/-- **The word for a machine**, in any case of its letters. -/
def IsMachineWord (word : List Char) : Prop :=
  word.map Char.toLower = ['v', 'm']

instance (word : List Char) : Decidable (IsMachineWord word) :=
  inferInstanceAs (Decidable (word.map Char.toLower = ['v', 'm']))

/-- **How a word is spelled** in a readable name: the word for a machine in capitals, any other word
with its first character in upper case. -/
inductive Spells : (word spelling : List Char) → Prop
  | machine {word : List Char} (h : IsMachineWord word) : Spells word ['V', 'M']
  | capital {first : Char} {rest : List Char} (h : ¬ IsMachineWord (first :: rest)) :
      Spells (first :: rest) (Text.upperChar first ++ rest)

theorem isWordBreak_eq : isWordBreak = fun c => decide (c ∈ ['-', '_', ' ']) := by
  funext c
  simp [isWordBreak, beq_eq_decide, Bool.or_assoc]

theorem words_eq (name : List Char) :
    words name = (Text.pieces isWordBreak name).filter (· ≠ []) := by
  rw [words, Text.pieces_eq_splitOnP, isWordBreak_eq]

/-- A word has characters, and none of them separates words. -/
theorem mem_words (h : word ∈ words name) : word ≠ [] ∧ ∀ c ∈ word, isWordBreak c = false := by
  rw [words, ← isWordBreak_eq] at h
  obtain ⟨hmem, hne⟩ := List.mem_filter.mp h
  exact ⟨of_decide_eq_true hne, Text.apply_of_mem_splitOnP hmem⟩

/-- Words are read back when they are joined by blanks. -/
theorem words_intercalate {spellings : List (List Char)} (hne : spellings ≠ [])
    (h : ∀ word ∈ spellings, word ≠ [] ∧ ∀ c ∈ word, isWordBreak c = false) :
    words ([' '].intercalate spellings) = spellings := by
  rw [words, ← isWordBreak_eq,
    Text.splitOnP_intercalate rfl (fun word hword => (h word hword).2) hne]
  exact List.filter_eq_self.mpr fun word hword => decide_eq_true (h word hword).1

/-! ## Spellings -/

/-- Capitals and digits are in upper case. -/
theorem upperChar_of_isUpper_or_isDigit (h : (c.isUpper || c.isDigit) = true) :
    Text.upperChar c = [c] := by
  have hrange : c.toNat ≤ 90 := by
    rcases (Bool.or_eq_true _ _).mp h with hupper | hdigit
    · exact UInt32.le_iff_toNat_le.mp (of_decide_eq_true hupper).2
    · have hdigit := toNat_mem_of_isDigit hdigit
      omega
  rw [Text.upperChar, if_pos (by omega), Text.toUpper_eq_self (by omega)]

theorem cleanWord_of_isMachineWord (h : IsMachineWord word) : cleanWord word = ['V', 'M'] :=
  (cleanWord.eq_def word).trans (if_pos h)

theorem cleanWord_of_not_isMachineWord (h : ¬ IsMachineWord (c :: rest)) :
    cleanWord (c :: rest) = Text.upperChar c ++ rest := by
  refine (cleanWord.eq_def _).trans ((if_neg h).trans ?_)
  split
  · next hacronym =>
    simp only [isAcronym, Bool.and_eq_true, List.all_cons] at hacronym
    rw [upperChar_of_isUpper_or_isDigit hacronym.2.1, List.singleton_append]
  · rfl

/-- **The spelling of a word** is what it is changed to. -/
theorem spells_iff (hne : word ≠ []) : Spells word spelling ↔ cleanWord word = spelling := by
  constructor
  · rintro (h | h)
    · exact cleanWord_of_isMachineWord h
    · exact cleanWord_of_not_isMachineWord h
  · rintro rfl
    by_cases h : IsMachineWord word
    · rw [cleanWord_of_isMachineWord h]
      exact .machine h
    · obtain ⟨first, rest, rfl⟩ := List.exists_cons_of_ne_nil hne
      rw [cleanWord_of_not_isMachineWord h]
      exact .capital h

/-- What separates words is not made by upper case. -/
theorem isWordBreak_of_mem_upperChar (h : d ∈ Text.upperChar c) :
    isWordBreak d = isWordBreak c := by
  refine Text.apply_of_mem_upperChar (fun c hc => ?_) (by decide) h
  rw [isWordBreak_eq] at hc
  revert c
  simp [Text.steadyCodes]

theorem toLower_eq_v_iff : c.toLower = 'v' ↔ c = 'V' ∨ c = 'v' := by
  constructor
  · have hascii : ∀ code < 0x80, (Char.ofNat code).toLower = 'v' →
        Char.ofNat code = 'V' ∨ Char.ofNat code = 'v' := by
      decide
    intro h
    rcases Nat.lt_or_ge c.toNat 0x80 with hc | hc
    · have hcode := hascii c.toNat hc
      rw [Char.ofNat_toNat] at hcode
      exact hcode h
    · -- only capitals of ASCII are changed
      have hsame : c.toLower = c := by
        refine dif_neg ?_
        rintro ⟨-, hhigh⟩
        have hhigh : c.toNat ≤ 90 := UInt32.le_iff_toNat_le.mp hhigh
        omega
      exact .inr (hsame.symm.trans h)
  · rintro (rfl | rfl)
    · decide
    · decide

/-- Neither is the first letter of the word for a machine. -/
theorem toLower_of_mem_upperChar (h : d ∈ Text.upperChar c) :
    (d.toLower == 'v') = (c.toLower == 'v') := by
  refine Text.apply_of_mem_upperChar (p := fun c => c.toLower == 'v') (fun c hc => ?_) (by decide) h
  rcases toLower_eq_v_iff.mp (eq_of_beq hc) with rfl | rfl
  · decide
  · decide

theorem isWord_machine :
    ['V', 'M'] ≠ [] ∧ ∀ c ∈ ['V', 'M'], isWordBreak c = false := by
  simp [isWordBreak]

/-- A spelling has characters, and none of them separates words. -/
theorem Spells.isWord (h : Spells word spelling) (hword : ∀ c ∈ word, isWordBreak c = false) :
    spelling ≠ [] ∧ ∀ c ∈ spelling, isWordBreak c = false := by
  cases h with
  | machine h => exact isWord_machine
  | @capital first rest h =>
    obtain ⟨hfirst, hrest⟩ := List.forall_mem_cons.mp hword
    refine ⟨fun hnil => Text.upperChar_ne_nil first (List.append_eq_nil_iff.mp hnil).1, ?_⟩
    intro c hc
    rcases List.mem_append.mp hc with hc | hc
    · rw [isWordBreak_of_mem_upperChar hc, hfirst]
    · exact hrest c hc

/-- A word is spelled as the word for a machine only if it is that word. -/
theorem Spells.isMachineWord_iff (h : Spells word spelling) :
    IsMachineWord spelling ↔ IsMachineWord word := by
  cases h with
  | machine h => exact iff_of_true (by decide) h
  | @capital first rest h =>
    refine iff_of_false (fun hspelling => h ?_) h
    obtain ⟨d, others, hupper⟩ := List.exists_cons_of_ne_nil (Text.upperChar_ne_nil first)
    rw [IsMachineWord, hupper, List.cons_append, List.map_cons, List.cons.injEq] at hspelling
    obtain ⟨hd, hrest⟩ := hspelling
    have hfirst : first.toLower = 'v' := by
      rw [← beq_iff_eq, ← toLower_of_mem_upperChar (hupper ▸ List.mem_cons_self), hd]
      rfl
    -- The letter was there before, and its upper case is one letter.
    have hsingle : Text.upperChar first = ['V'] := by
      rcases toLower_eq_v_iff.mp hfirst with rfl | rfl
      · rfl
      · rfl
    rw [hsingle, List.cons.injEq] at hupper
    rw [← hupper.2] at hrest
    rw [IsMachineWord, List.map_cons, hfirst]
    exact congrArg ('v' :: ·) hrest

/-- **A spelling is spelled as it stands.** -/
theorem Spells.again (h : Spells word spelling) : Spells spelling spelling := by
  have hiff := h.isMachineWord_iff
  cases h with
  | machine h => exact .machine (by decide)
  | @capital first rest h =>
    obtain ⟨d, others, hupper⟩ := List.exists_cons_of_ne_nil (Text.upperChar_ne_nil first)
    have hfinal : Text.upperChar d = [d] :=
      Text.upperChar_of_mem_upperChar (hupper ▸ List.mem_cons_self)
    rw [hupper, List.cons_append] at hiff ⊢
    have hagain := Spells.capital (hiff.not.mpr h)
    rwa [hfinal] at hagain

/-! ## Readable names -/

/-- A name ends in the word for a machine. -/
def EndsInMachineWord (name : List Char) : Prop :=
  ∃ word ∈ (words name).getLast?, IsMachineWord word

theorem forall₂_spells (name : List Char) :
    List.Forall₂ Spells (words name) ((words name).map cleanWord) := by
  refine List.forall₂_map_right_iff.mpr (List.forall₂_same.mpr fun word hword => ?_)
  exact (spells_iff (mem_words hword).1).mpr rfl

theorem cleanWords_of_endsInMachineWord (h : EndsInMachineWord name) :
    cleanWords name = (words name).map cleanWord := by
  obtain ⟨word, hlast, hword⟩ := h
  rw [cleanWords, ← words_eq, if_pos]
  rw [List.getLast?_map, hlast, Option.map_some, cleanWord_of_isMachineWord hword]
  rfl

theorem cleanWords_of_not_endsInMachineWord (h : ¬ EndsInMachineWord name) :
    cleanWords name = (words name).map cleanWord ++ [['V', 'M']] := by
  rw [cleanWords, ← words_eq, if_neg]
  · rfl
  rw [List.getLast?_map]
  intro hlast
  obtain ⟨word, hword, hspelling⟩ := Option.map_eq_some_iff.mp hlast
  have hspells := (spells_iff (mem_words (List.mem_of_getLast? hword)).1).mpr hspelling
  exact h ⟨word, hword, hspells.isMachineWord_iff.mp (by decide)⟩

/-- **The words of a readable name** are words, and each of them is spelled as it stands. -/
theorem isWord_and_spells_of_mem_cleanWords (h : word ∈ cleanWords name) :
    (word ≠ [] ∧ ∀ c ∈ word, isWordBreak c = false) ∧ Spells word word := by
  have hspelled : ∀ word ∈ (words name).map cleanWord,
      (word ≠ [] ∧ ∀ c ∈ word, isWordBreak c = false) ∧ Spells word word := by
    intro spelling hspelling
    obtain ⟨word, hword, rfl⟩ := List.mem_map.mp hspelling
    obtain ⟨hne, hbreaks⟩ := mem_words hword
    have hspells : Spells word (cleanWord word) := (spells_iff hne).mpr rfl
    exact ⟨hspells.isWord hbreaks, hspells.again⟩
  by_cases hends : EndsInMachineWord name
  · rw [cleanWords_of_endsInMachineWord hends] at h
    exact hspelled word h
  · rw [cleanWords_of_not_endsInMachineWord hends] at h
    rcases List.mem_append.mp h with h | h
    · exact hspelled word h
    · obtain rfl := List.mem_singleton.mp h
      exact ⟨isWord_machine, .machine (by decide)⟩

/-- The last word of a readable name is the word for a machine. -/
theorem getLast?_cleanWords (name : List Char) : (cleanWords name).getLast? = some ['V', 'M'] := by
  by_cases h : EndsInMachineWord name
  · rw [cleanWords_of_endsInMachineWord h]
    obtain ⟨word, hlast, hword⟩ := h
    rw [List.getLast?_map, hlast, Option.map_some, cleanWord_of_isMachineWord hword]
  · rw [cleanWords_of_not_endsInMachineWord h, List.getLast?_concat]

theorem cleanWords_ne_nil (name : List Char) : cleanWords name ≠ [] := by
  intro hnil
  have hlast := getLast?_cleanWords name
  rw [hnil] at hlast
  cases hlast

theorem toList_cleanName (name : String) :
    (cleanName name).toList = [' '].intercalate (cleanWords name.toList) :=
  String.toList_ofList

/-- **A readable name reads back as its words.** -/
theorem words_cleanName (name : String) :
    words (cleanName name).toList = cleanWords name.toList := by
  rw [toList_cleanName]
  exact words_intercalate (cleanWords_ne_nil _) fun word hword =>
    (isWord_and_spells_of_mem_cleanWords hword).1

/-- **A readable name is the readable name for itself.** -/
theorem cleanName_cleanName (name : String) : cleanName (cleanName name) = cleanName name := by
  -- No word is added, since the last one is the word for a machine already.
  have hends : EndsInMachineWord (cleanName name).toList := by
    rw [EndsInMachineWord, words_cleanName, getLast?_cleanWords]
    exact ⟨_, rfl, by decide⟩
  have hwords : cleanWords (cleanName name).toList = cleanWords name.toList := by
    rw [cleanWords_of_endsInMachineWord hends, words_cleanName]
    refine (List.map_congr_left fun word hword => ?_).trans (List.map_id _)
    obtain ⟨⟨hne, -⟩, hspells⟩ := isWord_and_spells_of_mem_cleanWords hword
    exact (spells_iff hne).mp hspells
  rw [cleanName, hwords]
  rfl

/-- No hyphen, no underscore and no two blanks next to each other stand in a readable name. -/
theorem notMem_cleanName (name : String) :
    '-' ∉ (cleanName name).toList ∧ '_' ∉ (cleanName name).toList ∧
      ¬ [' ', ' '] <:+: (cleanName name).toList := by
  have hword : ∀ word ∈ cleanWords name.toList, word ≠ [] ∧ ∀ c ∈ word, isWordBreak c = false :=
    fun word hword => (isWord_and_spells_of_mem_cleanWords hword).1
  have hchars : ∀ c ∈ (cleanName name).toList, c = ' ' ∨ isWordBreak c = false := by
    intro c hc
    rw [toList_cleanName] at hc
    rcases Text.eq_or_mem_of_mem_intercalate hc with rfl | ⟨word, hmem, hc⟩
    · exact .inl rfl
    · exact .inr ((hword word hmem).2 c hc)
  refine ⟨fun hhyphen => ?_, fun hunderscore => ?_, fun hblanks => ?_⟩
  · exact absurd (hchars _ hhyphen) (by decide)
  · exact absurd (hchars _ hunderscore) (by decide)
  · -- There would be a word without characters.
    have hnil : [] ∈ (cleanName name).toList.splitOnP isWordBreak :=
      Text.nil_mem_splitOnP rfl rfl hblanks
    rw [toList_cleanName, Text.splitOnP_intercalate rfl (fun word h => (hword word h).2)
      (cleanWords_ne_nil _)] at hnil
    exact (hword [] hnil).1 rfl

/-- A readable name ends in the word for a machine. -/
theorem endsWith_cleanName (name : String) :
    cleanName name = "VM" ∨ " VM".toList <:+ (cleanName name).toList := by
  obtain ⟨front, hfront⟩ := List.getLast?_eq_some_iff.mp (getLast?_cleanWords name.toList)
  rcases Decidable.eq_or_ne front [] with rfl | hne
  · left
    rw [cleanName, hfront]
    rfl
  · right
    rw [toList_cleanName, hfront]
    exact Text.intercalate_concat hne _

/-- **Readable names.** A readable name consists of the spellings of the words of a name in their
order, joined by blanks, with the word for a machine after them unless the last of them is that
word. Neither hyphens nor underscores nor two blanks next to each other are in it, it ends in the
word for a machine, and it is the readable name for itself. -/
theorem cleanName_spells_words (name : String) :
    ∃ spellings, List.Forall₂ Spells (words name.toList) spellings ∧
      (EndsInMachineWord name.toList →
        (cleanName name).toList = [' '].intercalate spellings) ∧
      (¬ EndsInMachineWord name.toList →
        (cleanName name).toList = [' '].intercalate (spellings ++ [['V', 'M']])) ∧
      '-' ∉ (cleanName name).toList ∧ '_' ∉ (cleanName name).toList ∧
      ¬ [' ', ' '] <:+: (cleanName name).toList ∧
      (cleanName name = "VM" ∨ " VM".toList <:+ (cleanName name).toList) ∧
      cleanName (cleanName name) = cleanName name := by
  obtain ⟨hhyphen, hunderscore, hblanks⟩ := notMem_cleanName name
  refine ⟨(words name.toList).map cleanWord, forall₂_spells _, fun h => ?_, fun h => ?_, hhyphen,
    hunderscore, hblanks, ?_, cleanName_cleanName name⟩
  · rw [toList_cleanName, cleanWords_of_endsInMachineWord h]
  · rw [toList_cleanName, cleanWords_of_not_endsInMachineWord h]
  · exact endsWith_cleanName name

end VmProvisioning.Classification
