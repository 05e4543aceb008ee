import Mathlib.Data.List.DropRight
import VmProvisioning.Proofs.DnsLabel

/-!
# The form of labels

A label is one or more words of lower-case letters and digits with single hyphens between them, and
has at most 63 bytes. The words of the label for a text are the maximal runs of letters and digits
in the text in lower case, as many as there is room for.

## Main definitions

* `DnsLabel.IsWord`, `DnsLabel.hyphenated`: words, and words with hyphens between them
* `DnsLabel.IsLabel`: the texts that are labels
* `DnsLabel.runs`: the maximal runs of letters and digits
* `DnsLabel.ofRuns`: the label that they are joined and cut to

## Main results

* `sanitize_eq_ofRuns`: the label for a text is that of its runs
* `isLabel_sanitize`, `sanitize_eq_self`: labels are what the label for a text can be, and they are
  the labels for themselves
* `sanitize_eq_ofRuns_and_validate_iff`: both together, and what is accepted as an id
-/

namespace VmProvisioning.DnsLabel

variable {cs rest word : List Char} {words : List (List Char)} {text : String} {c : Char}

/-! ## Words -/

/-- **A word** of a label. -/
structure IsWord (word : List Char) : Prop where
  ne_nil : word ≠ []
  chars : ∀ c ∈ word, isLabelChar c = true

/-- **Words with single hyphens between them.** -/
def hyphenated (words : List (List Char)) : List Char :=
  ['-'].intercalate words

/-- **The texts that are labels**: words with single hyphens between them, of at most 63 bytes. -/
structure IsLabel (text : String) : Prop where
  form : ∃ words, words ≠ [] ∧ (∀ word ∈ words, IsWord word) ∧ text.toList = hyphenated words
  size : 1 ≤ text.utf8ByteSize ∧ text.utf8ByteSize ≤ maxLength

theorem IsWord.singleton (h : isLabelChar c = true) : IsWord [c] :=
  ⟨List.cons_ne_nil _ _, by simpa using h⟩

theorem IsWord.snoc (hword : IsWord word) (h : isLabelChar c = true) : IsWord (word ++ [c]) := by
  refine ⟨by simp, ?_⟩
  intro d hd
  rcases List.mem_append.mp hd with hd | hd
  · exact hword.chars d hd
  · rwa [List.mem_singleton.mp hd]

theorem hyphenated_nil : hyphenated [] = [] :=
  rfl

theorem hyphenated_singleton (word : List Char) : hyphenated [word] = word :=
  List.intercalate_singleton

theorem hyphenated_cons (word : List Char) (h : words ≠ []) :
    hyphenated (word :: words) = word ++ '-' :: hyphenated words := by
  rw [hyphenated, List.intercalate_cons_of_ne_nil h, List.append_assoc]
  rfl

theorem hyphenated_ne_nil (hwords : ∀ word ∈ words, IsWord word) (hne : words ≠ []) :
    hyphenated words ≠ [] := by
  obtain ⟨word, others, rfl⟩ := List.exists_cons_of_ne_nil hne
  have hword := (hwords word List.mem_cons_self).ne_nil
  by_cases hothers : others = []
  · rwa [hothers, hyphenated_singleton]
  · simp [hyphenated_cons word hothers]

theorem mem_hyphenated (hwords : ∀ word ∈ words, IsWord word) (h : c ∈ hyphenated words) :
    isLabelChar c = true ∨ c = '-' := by
  induction words with
  | nil => cases h
  | cons word others ih =>
    obtain ⟨hword, hothers⟩ := List.forall_mem_cons.mp hwords
    by_cases hne : others = []
    · rw [hne, hyphenated_singleton] at h
      exact .inl (hword.chars c h)
    · rw [hyphenated_cons word hne] at h
      rcases List.mem_append.mp h with h | h
      · exact .inl (hword.chars c h)
      · rcases List.mem_cons.mp h with h | h
        · exact .inr h
        · exact ih hothers h

/-- Words with hyphens between them do not end in a hyphen. -/
theorem getLast?_hyphenated (hwords : ∀ word ∈ words, IsWord word) :
    (hyphenated words).getLast? ≠ some '-' := by
  induction words with
  | nil => nofun
  | cons word others ih =>
    obtain ⟨hword, hothers⟩ := List.forall_mem_cons.mp hwords
    by_cases hne : others = []
    · rw [hne, hyphenated_singleton]
      intro hlast
      exact absurd (hword.chars '-' (List.mem_of_getLast? hlast)) (by decide)
    · rw [hyphenated_cons word hne, List.getLast?_append, List.getLast?_cons_of_ne_nil
        (hyphenated_ne_nil hothers hne)]
      cases hlast : (hyphenated others).getLast? with
      | none => exact absurd (List.getLast?_eq_none_iff.mp hlast) (hyphenated_ne_nil hothers hne)
      | some d =>
        rw [hlast] at ih
        exact ih hothers

/-! ## Runs -/

/-- **The maximal runs of letters and digits** of a text, in order. -/
def runs (cs : List Char) : List (List Char) :=
  (cs.splitOnP fun c => !isLabelChar c).filter fun run => !run.isEmpty

theorem runs_of_isWord (h : IsWord word) : runs word = [word] := by
  have hsplit : word.splitOnP (fun c => !isLabelChar c) = [word] :=
    List.splitOnP_eq_singleton fun c hc => by simp [h.chars c hc]
  simp [runs, hsplit, h.ne_nil]

/-- A run ends at the next character that is no letter and no digit. -/
theorem runs_append_cons (h : IsWord word) (hc : isLabelChar c = false) :
    runs (word ++ c :: rest) = word :: runs rest := by
  have hsplit : (word ++ c :: rest).splitOnP (fun c => !isLabelChar c) =
      word :: rest.splitOnP fun c => !isLabelChar c :=
    List.splitOnP_append_cons_of_forall_mem (fun d hd => by simp [h.chars d hd]) c (by simp [hc]) _
  simp [runs, hsplit, h.ne_nil]

/-- No run begins with such a character. -/
theorem runs_cons (hc : isLabelChar c = false) : runs (c :: rest) = runs rest := by
  have hsplit : (c :: rest).splitOnP (fun c => !isLabelChar c) =
      [] :: rest.splitOnP fun c => !isLabelChar c :=
    List.splitOnP_append_cons [] rest (by simp [hc])
  simp [runs, hsplit]

/-- **Induction on a text by its runs**: a run is either the last thing in the text, or there is a
character after it that is no letter and no digit. -/
theorem inductionOnRuns {motive : List Char → Prop} (cs : List Char) (nil : motive [])
    (skip : ∀ c rest, isLabelChar c = false → motive rest → motive (c :: rest))
    (last : ∀ word, IsWord word → motive word)
    (run : ∀ word c rest, IsWord word → isLabelChar c = false → motive rest →
      motive (word ++ c :: rest)) : motive cs := by
  -- Induction on the characters after the run that has been read so far.
  have general : ∀ cs, motive cs ∧ ∀ word, IsWord word → motive (word ++ cs) := by
    intro cs
    induction cs with
    | nil => exact ⟨nil, fun word hword => by simpa using last word hword⟩
    | cons c rest ih =>
      obtain ⟨ihrest, ihword⟩ := ih
      cases hc : isLabelChar c with
      | false =>
        exact ⟨skip c rest hc ihrest, fun word hword => run word c rest hword hc ihrest⟩
      | true =>
        refine ⟨ihword [c] (.singleton hc), ?_⟩
        intro word hword
        simpa using ihword (word ++ [c]) (hword.snoc hc)
  exact (general cs).1

theorem isWord_of_mem_runs : ∀ word ∈ runs cs, IsWord word := by
  induction cs using inductionOnRuns with
  | nil => nofun
  | skip c rest hc ih => rwa [runs_cons hc]
  | last word hword => simpa [runs_of_isWord hword] using hword
  | run word c rest hword hc ih =>
    rw [runs_append_cons hword hc]
    exact List.forall_mem_cons.mpr ⟨hword, ih⟩

/-- The runs of words with hyphens between them are the words. -/
theorem runs_hyphenated (hwords : ∀ word ∈ words, IsWord word) :
    runs (hyphenated words) = words := by
  induction words with
  | nil => rfl
  | cons word others ih =>
    obtain ⟨hword, hothers⟩ := List.forall_mem_cons.mp hwords
    by_cases hne : others = []
    · rw [hne, hyphenated_singleton, runs_of_isWord hword]
    · rw [hyphenated_cons word hne, runs_append_cons hword (by decide), ih hothers]

/-! ## Hyphens between runs -/

/-- **Words with hyphens between them**, and perhaps a hyphen after the last one. -/
def IsJoined (words : List (List Char)) (cs : List Char) : Prop :=
  cs = hyphenated words ∨ words ≠ [] ∧ cs = hyphenated words ++ ['-']

theorem isJoined_singleton (word : List Char) : IsJoined [word] word :=
  .inl (hyphenated_singleton word).symm

theorem isJoined_snoc (word : List Char) : IsJoined [word] (word ++ ['-']) :=
  .inr ⟨List.cons_ne_nil _ _, by rw [hyphenated_singleton]⟩

/-- A word and a hyphen before joined words. -/
theorem IsJoined.cons (h : IsJoined words cs) (word : List Char) :
    IsJoined (word :: words) (word ++ '-' :: cs) := by
  by_cases hne : words = []
  · rcases h with rfl | ⟨hnonempty, -⟩
    · rw [hne, hyphenated_nil]
      exact isJoined_snoc word
    · exact absurd hne hnonempty
  · rcases h with rfl | ⟨-, rfl⟩
    · exact .inl (hyphenated_cons word hne).symm
    · refine .inr ⟨List.cons_ne_nil _ _, ?_⟩
      rw [hyphenated_cons word hne, List.append_assoc, List.cons_append]

theorem hyphenate_cons_of_not (hc : isLabelChar c = false) (atBreak : Bool) :
    hyphenate atBreak (c :: rest) =
      if atBreak then hyphenate true rest else '-' :: hyphenate true rest := by
  simp [hyphenate, hc]

/-- A word is left as it is. -/
theorem hyphenate_append (hword : IsWord word) (atBreak : Bool) :
    hyphenate atBreak (word ++ rest) = word ++ hyphenate false rest := by
  obtain ⟨hne, hchars⟩ := hword
  induction word generalizing atBreak with
  | nil => exact absurd rfl hne
  | cons c others ih =>
    obtain ⟨hc, hothers⟩ := List.forall_mem_cons.mp hchars
    rw [List.cons_append, hyphenate, if_pos hc]
    by_cases hnil : others = []
    · rw [hnil]
      rfl
    · rw [ih false hnil hothers, List.cons_append]

/-- **The runs of a text are joined**: one pass over the text puts one hyphen between them, and one
after the last run when the text goes on. -/
theorem isJoined_hyphenate (cs : List Char) : IsJoined (runs cs) (hyphenate true cs) := by
  induction cs using inductionOnRuns with
  | nil => exact .inl rfl
  | skip c rest hc ih => rwa [runs_cons hc, hyphenate_cons_of_not hc, if_pos rfl]
  | last word hword =>
    have hlast : hyphenate true (word ++ []) = word ++ [] := hyphenate_append hword true
    rw [List.append_nil] at hlast
    rw [runs_of_isWord hword, hlast]
    exact isJoined_singleton word
  | run word c rest hword hc ih =>
    rw [runs_append_cons hword hc, hyphenate_append hword, hyphenate_cons_of_not hc,
      if_neg Bool.false_ne_true]
    exact ih.cons word

/-! ## Cutting -/

/-- A text without the hyphen at its end, if there is one. -/
def dropHyphen (cs : List Char) : List Char :=
  if cs.getLast? = some '-' then cs.dropLast else cs

/-- **The label that words are joined to**: with hyphens between them, cut to the greatest length,
without a hyphen at the end. -/
def ofRuns (words : List (List Char)) : String :=
  match dropHyphen ((hyphenated words).take maxLength) with
  | [] => fallback
  | cs => String.ofList cs

theorem IsJoined.dropHyphen_eq (h : IsJoined words cs) (hwords : ∀ word ∈ words, IsWord word) :
    dropHyphen cs = hyphenated words := by
  rcases h with rfl | ⟨-, rfl⟩
  · exact if_neg (getLast?_hyphenated hwords)
  · simp [dropHyphen]

/-- **A cut through joined words** leaves joined words: it lies within a word, which is shortened,
or before or after a hyphen. -/
theorem exists_isJoined_take (hwords : ∀ word ∈ words, IsWord word) (n : Nat) :
    ∃ kept, (∀ word ∈ kept, IsWord word) ∧ IsJoined kept ((hyphenated words).take n) := by
  have hshort {word : List Char} (hword : IsWord word) (n : Nat) :
      ∃ kept, (∀ word ∈ kept, IsWord word) ∧ IsJoined kept (word.take n) := by
    by_cases hnil : word.take n = []
    · exact ⟨[], by simp, .inl hnil⟩
    · refine ⟨[word.take n], ?_, isJoined_singleton _⟩
      simpa using (⟨hnil, fun c hc => hword.chars c (List.mem_of_mem_take hc)⟩ : IsWord _)
  induction words generalizing n with
  | nil => exact ⟨[], by simp, .inl List.take_nil⟩
  | cons word others ih =>
    obtain ⟨hword, hothers⟩ := List.forall_mem_cons.mp hwords
    by_cases hne : others = []
    · rw [hne, hyphenated_singleton]
      exact hshort hword n
    · rw [hyphenated_cons word hne]
      by_cases hn : n ≤ word.length
      · rw [List.take_append_of_le_length hn]
        exact hshort hword n
      · obtain ⟨m, rfl⟩ : ∃ m, n = word.length + (m + 1) := ⟨n - word.length - 1, by omega⟩
        obtain ⟨kept, hkept, hjoined⟩ := ih hothers m
        rw [List.take_length_add_append, List.take_succ_cons]
        exact ⟨word :: kept, List.forall_mem_cons.mpr ⟨hword, hkept⟩, hjoined.cons word⟩

/-- One more hyphen at the end makes no difference to the cut. -/
theorem cutToLength_append_hyphen (cs : List Char) :
    cutToLength (cs ++ ['-']) = cutToLength cs := by
  have hhyphens : ∀ c ∈ (['-'].take (maxLength - cs.length)).reverse, (c == '-') = true := by
    intro c hc
    have hmem := List.mem_of_mem_take (List.mem_reverse.mp hc)
    simpa using hmem
  rw [cutToLength, List.take_append, List.reverse_append, List.dropWhile_append_of_pos hhyphens]
  rfl

theorem IsJoined.cutToLength_eq (h : IsJoined words cs) :
    cutToLength cs = cutToLength (hyphenated words) := by
  rcases h with rfl | ⟨-, rfl⟩
  · rfl
  · exact cutToLength_append_hyphen _

/-- There is at most one hyphen to drop at the end of joined words. -/
theorem IsJoined.rdropWhile_eq (h : IsJoined words cs) (hwords : ∀ word ∈ words, IsWord word) :
    cs.rdropWhile (· == '-') = hyphenated words := by
  have hself : (hyphenated words).rdropWhile (· == '-') = hyphenated words := by
    rw [List.rdropWhile_eq_self_iff]
    intro hne hlast
    apply getLast?_hyphenated hwords
    rw [List.getLast?_eq_some_getLast hne, beq_iff_eq.mp hlast]
  rcases h with rfl | ⟨-, rfl⟩
  · exact hself
  · rw [List.rdropWhile_concat_pos _ _ _ (by decide), hself]

/-- A cut drops at most one hyphen at the end. -/
theorem cutToLength_hyphenated (hwords : ∀ word ∈ words, IsWord word) :
    cutToLength (hyphenated words) = dropHyphen ((hyphenated words).take maxLength) := by
  obtain ⟨kept, hkept, hjoined⟩ := exists_isJoined_take hwords maxLength
  rw [hjoined.dropHyphen_eq hkept]
  exact hjoined.rdropWhile_eq hkept

/-! ## Labels -/

/-- **The label for a text** is that of its runs in lower case. -/
theorem sanitize_eq_ofRuns (text : String) :
    sanitize text = ofRuns (runs (lowered text.toList)) := by
  rw [sanitize, (isJoined_hyphenate _).cutToLength_eq, cutToLength_hyphenated isWord_of_mem_runs]
  rfl

/-- All characters of a label are single bytes. -/
theorem utf8Size_of_mem_hyphenated (hwords : ∀ word ∈ words, IsWord word)
    (h : c ∈ hyphenated words) : c.utf8Size = 1 := by
  rw [Char.utf8Size_eq_one_iff, UInt32.le_iff_toNat_le]
  change c.toNat ≤ 127
  rcases mem_hyphenated hwords h with hlabel | rfl
  · have hrange := isLabelChar_iff.mp hlabel
    omega
  · decide

theorem utf8ByteSize_ofList (h : ∀ c ∈ cs, c.utf8Size = 1) :
    (String.ofList cs).utf8ByteSize = cs.length := by
  induction cs with
  | nil => rfl
  | cons c rest ih =>
    obtain ⟨hc, hrest⟩ := List.forall_mem_cons.mp h
    rw [String.ofList_cons, String.utf8ByteSize_append, String.utf8ByteSize_singleton, ih hrest, hc,
      List.length_cons, Nat.add_comm]

theorem length_dropHyphen_le (cs : List Char) : (dropHyphen cs).length ≤ cs.length := by
  unfold dropHyphen
  split
  · simp
  · exact le_rfl

/-- **A label of words** is a label. -/
theorem isLabel_ofRuns (hwords : ∀ word ∈ words, IsWord word) : IsLabel (ofRuns words) := by
  obtain ⟨kept, hkept, hjoined⟩ := exists_isJoined_take hwords maxLength
  have hdrop := hjoined.dropHyphen_eq hkept
  unfold ofRuns
  split
  · refine ⟨⟨[fallback.toList], by simp, ?_, (hyphenated_singleton _).symm⟩, by decide +kernel⟩
    rintro word hword
    rw [List.mem_singleton.mp hword]
    exact ⟨by decide +kernel, List.all_eq_true.mp (by decide +kernel)⟩
  · next hne =>
    rw [hdrop] at hne ⊢
    have hlength : (hyphenated kept).length ≤ maxLength := by
      rw [← hdrop]
      exact (length_dropHyphen_le _).trans (List.length_take_le _ _)
    refine ⟨⟨kept, ?_, hkept, String.toList_ofList⟩, ?_⟩
    · rintro rfl
      exact hne hyphenated_nil
    · rw [utf8ByteSize_ofList fun c hc => utf8Size_of_mem_hyphenated hkept hc]
      exact ⟨List.length_pos_iff.mpr hne, hlength⟩

/-- **The label for a text is a label.** -/
theorem isLabel_sanitize (text : String) : IsLabel (sanitize text) := by
  rw [sanitize_eq_ofRuns]
  exact isLabel_ofRuns isWord_of_mem_runs

/-- The characters of labels have no upper case. -/
theorem lowerChar_eq_self (h : isLabelChar c = true ∨ c = '-') : Text.lowerChar c = [c] := by
  rcases h with h | rfl
  · have hrange := isLabelChar_iff.mp h
    have hascii : c.toNat < 0x80 := by omega
    have hlower : c.toLower = c := by
      unfold Char.toLower
      rw [dif_neg]
      rintro ⟨hlow, hhigh⟩
      have hleast : 65 ≤ c.toNat := UInt32.le_iff_toNat_le.mp hlow
      have hgreatest : c.toNat ≤ 90 := UInt32.le_iff_toNat_le.mp hhigh
      omega
    rw [Text.lowerChar, if_pos hascii, hlower]
  · rfl

theorem lowered_hyphenated (hwords : ∀ word ∈ words, IsWord word) :
    lowered (hyphenated words) = hyphenated words := by
  have hself : ∀ c ∈ hyphenated words, Text.lowerChar c = [c] :=
    fun c hc => lowerChar_eq_self (mem_hyphenated hwords hc)
  rw [lowered, List.flatMap_congr hself, List.flatMap_singleton']

/-- **A label is the label for itself.** -/
theorem sanitize_eq_self (h : IsLabel text) : sanitize text = text := by
  obtain ⟨⟨words, hne, hwords, htext⟩, -, hsize⟩ := h
  have hof : String.ofList (hyphenated words) = text := by rw [← htext, String.ofList_toList]
  have hlength : (hyphenated words).length ≤ maxLength := by
    rwa [← utf8ByteSize_ofList fun c hc => utf8Size_of_mem_hyphenated hwords hc, hof]
  have hcut : dropHyphen ((hyphenated words).take maxLength) = hyphenated words := by
    rw [List.take_of_length_le hlength]
    exact if_neg (getLast?_hyphenated hwords)
  rw [sanitize_eq_ofRuns, htext, lowered_hyphenated hwords, runs_hyphenated hwords, ofRuns, hcut]
  split
  · next hnil => exact absurd hnil (hyphenated_ne_nil hwords hne)
  · exact hof

theorem IsLabel.ne_empty (h : IsLabel text) : text ≠ "" := by
  rintro rfl
  exact absurd h.size.1 (by decide)

/-- **The ids that are accepted** are the labels. -/
theorem validate_eq_ok_iff_isLabel : validate text = .ok () ↔ IsLabel text := by
  rw [validate_eq_ok_iff]
  constructor
  · rintro ⟨-, hself⟩
    rw [← hself]
    exact isLabel_sanitize text
  · intro h
    exact ⟨h.ne_empty, sanitize_eq_self h⟩

/-- **The label for a text** has the maximal runs of letters and digits in the text in lower case
for its words, which are single bytes, with hyphens between them and cut to the greatest length. So
it is a label and the label for itself, and ids are accepted exactly when they are labels. -/
theorem sanitize_eq_ofRuns_and_validate_iff (text id : String) :
    (sanitize text = ofRuns (runs (lowered text.toList)) ∧
      ∀ c ∈ hyphenated (runs (lowered text.toList)), c.utf8Size = 1) ∧
    IsLabel (sanitize text) ∧ sanitize (sanitize text) = sanitize text ∧
    (validate id = .ok () ↔ IsLabel id) ∧ validate (sanitize text) = .ok () := by
  have hlabel := isLabel_sanitize text
  refine ⟨⟨sanitize_eq_ofRuns text, ?_⟩, hlabel, sanitize_eq_self hlabel, ?_, ?_⟩
  · intro c hc
    exact utf8Size_of_mem_hyphenated isWord_of_mem_runs hc
  · exact validate_eq_ok_iff_isLabel
  · exact validate_eq_ok_iff_isLabel.mpr hlabel

end VmProvisioning.DnsLabel
