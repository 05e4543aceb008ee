import VmProvisioning.Text.Search

/-!
# Pieces of texts

## Main results

* `pieces_append_cons`: the first piece ends at the first separator
* `pieces_of_forall_not`: a text without separators is one piece
* `pieces_eq_splitOnP`: the pieces are those of a list that is split
* `apply_of_mem_splitOnP`, `splitOnP_intercalate`: there are no separators in the pieces, and pieces
  without separators are read back when they are joined
* `intercalate_concat`: where the last of the pieces that are joined stands
* `cut?_append_append`, `cut?_append_cons`: a text is cut at its first separator
* `eq_append_of_cut?`: the parts of a text that is cut
* `cut?_eq_some_iff`, `cut?_eq_none_iff`: the first occurrence of a character, and when there is
  none
* `dropPrefix?_eq_some_iff`, `dropSuffix?_eq_some_iff`: texts without their beginnings and endings
-/

namespace VmProvisioning.Text

variable {isSeparator : Char → Bool} {piece rest : List Char} {c : Char}

theorem pieces_of_forall_not (h : ∀ c ∈ piece, isSeparator c = false) :
    pieces isSeparator piece = [piece] := by
  induction piece with
  | nil => rfl
  | cons c piece ih =>
    rw [pieces, ih fun d hd => h d (List.mem_cons_of_mem _ hd)]
    simp [h c List.mem_cons_self]

theorem pieces_append_cons (h : ∀ c ∈ piece, isSeparator c = false) (hc : isSeparator c = true) :
    pieces isSeparator (piece ++ c :: rest) = piece :: pieces isSeparator rest := by
  induction piece with
  | nil => simp [pieces, hc]
  | cons d piece ih =>
    rw [List.cons_append, pieces, ih fun e he => h e (List.mem_cons_of_mem _ he)]
    simp [h d List.mem_cons_self]

theorem pieces_eq_splitOnP (cs : List Char) : pieces isSeparator cs = cs.splitOnP isSeparator := by
  induction cs with
  | nil => rfl
  | cons c cs ih =>
    rw [pieces, ih, List.splitOnP_cons_eq_if_modifyHead]
    split
    · rfl
    · split
      · next hpieces => rw [hpieces, List.modifyHead_cons]
      · next hnil => exact absurd hnil (List.splitOnP_ne_nil _ _)

theorem apply_of_mem_splitOnP {cs : List Char} (h : piece ∈ cs.splitOnP isSeparator) :
    ∀ c ∈ piece, isSeparator c = false := by
  induction cs generalizing piece with
  | nil =>
    rw [List.mem_singleton.mp h]
    exact nofun
  | cons first cs ih =>
    rw [List.splitOnP_cons_eq_if_modifyHead] at h
    split at h
    · rcases List.mem_cons.mp h with rfl | hmem
      · exact nofun
      · exact ih hmem
    · next hfirst =>
      -- The first character is in the first of the pieces that follow it.
      obtain ⟨head, pieces, hpieces⟩ :=
        List.exists_cons_of_ne_nil (List.splitOnP_ne_nil isSeparator cs)
      rw [hpieces] at h ih
      rcases List.mem_cons.mp h with rfl | hmem
      · exact List.forall_mem_cons.mpr ⟨by simpa using hfirst, ih List.mem_cons_self⟩
      · exact ih (List.mem_cons_of_mem _ hmem)

/-- **Pieces are read back** when they are joined by a separator that is in none of them. -/
theorem splitOnP_intercalate {pieces : List (List Char)} (hc : isSeparator c = true)
    (hpieces : ∀ piece ∈ pieces, ∀ d ∈ piece, isSeparator d = false) (hne : pieces ≠ []) :
    ([c].intercalate pieces).splitOnP isSeparator = pieces := by
  induction pieces with
  | nil => exact absurd rfl hne
  | cons first pieces ih =>
    obtain ⟨hfirst, hrest⟩ := List.forall_mem_cons.mp hpieces
    cases pieces with
    | nil => rw [List.intercalate_singleton, List.splitOnP_eq_singleton hfirst]
    | cons second pieces =>
      rw [List.intercalate_cons_cons, List.append_assoc, List.singleton_append,
        List.splitOnP_append_cons_of_forall_mem hfirst c hc, ih hrest (List.cons_ne_nil _ _)]

/-- Two separators next to each other have an empty piece between them. -/
theorem nil_mem_splitOnP {cs : List Char} {d : Char} (hc : isSeparator c = true)
    (hd : isSeparator d = true) (h : [c, d] <:+: cs) : [] ∈ cs.splitOnP isSeparator := by
  obtain ⟨before, after, rfl⟩ := h
  rw [List.append_assoc, List.cons_append, List.cons_append, List.nil_append,
    List.splitOnP_append_cons _ _ hc, List.splitOnP_cons_eq_if_modifyHead, if_pos hd]
  exact List.mem_append_right _ List.mem_cons_self

/-- What stands in joined pieces is a separator or stands in one of the pieces. -/
theorem eq_or_mem_of_mem_intercalate {pieces : List (List Char)} {d : Char}
    (h : d ∈ [c].intercalate pieces) : d = c ∨ ∃ piece ∈ pieces, d ∈ piece := by
  induction pieces with
  | nil => cases h
  | cons first pieces ih =>
    cases pieces with
    | nil =>
      rw [List.intercalate_singleton] at h
      exact .inr ⟨first, List.mem_cons_self, h⟩
    | cons second pieces =>
      rw [List.intercalate_cons_cons, List.append_assoc, List.singleton_append] at h
      rcases List.mem_append.mp h with h | h
      · exact .inr ⟨first, List.mem_cons_self, h⟩
      · rcases List.mem_cons.mp h with rfl | h
        · exact .inl rfl
        · rcases ih h with rfl | ⟨piece, hpiece, hd⟩
          · exact .inl rfl
          · exact .inr ⟨piece, List.mem_cons_of_mem _ hpiece, hd⟩

/-- The last of several pieces stands after a separator. -/
theorem intercalate_concat {pieces : List (List Char)} (hne : pieces ≠ []) (last : List Char) :
    c :: last <:+ [c].intercalate (pieces ++ [last]) := by
  induction pieces with
  | nil => exact absurd rfl hne
  | cons first pieces ih =>
    cases pieces with
    | nil => exact ⟨first, by simp [List.intercalate_cons_cons]⟩
    | cons second pieces =>
      obtain ⟨before, hbefore⟩ := ih (List.cons_ne_nil _ _)
      refine ⟨first ++ [c] ++ before, ?_⟩
      rw [List.cons_append, List.cons_append, List.intercalate_cons_cons, List.append_assoc,
        hbefore, List.cons_append]

theorem cut?_append_append {needle : List Char} (h : c ∉ piece) :
    cut? (c :: needle) (piece ++ (c :: needle ++ rest)) = some (piece, rest) := by
  induction piece with
  | nil => simp [cut?]
  | cons d piece ih =>
    rw [List.mem_cons, not_or] at h
    obtain ⟨hne, hrest⟩ := h
    rw [List.cons_append, cut?, ih hrest]
    simp [hne]

theorem cut?_append_cons (h : c ∉ piece) : cut? [c] (piece ++ c :: rest) = some (piece, rest) :=
  cut?_append_append h

theorem eq_append_of_cut? {needle cs before after : List Char} (hne : needle ≠ [])
    (h : cut? needle cs = some (before, after)) : cs = before ++ (needle ++ after) := by
  induction cs generalizing before with
  | nil => simp [cut?, hne] at h
  | cons c cs ih =>
    rw [cut?] at h
    split at h
    · next hprefix =>
      obtain ⟨tail, htail⟩ := List.isPrefixOf_iff_prefix.mp hprefix
      cases h
      simp [← htail]
    · obtain ⟨⟨front, back⟩, hcut, heq⟩ := Option.map_eq_some_iff.mp h
      cases heq
      rw [ih hcut, List.cons_append]

theorem cut?_eq_none_iff {cs : List Char} : cut? [c] cs = none ↔ c ∉ cs := by
  constructor
  · intro h hmem
    obtain ⟨before, after, rfl, hbefore⟩ := List.eq_append_cons_of_mem hmem
    rw [cut?_append_cons hbefore] at h
    cases h
  · intro h
    cases hcut : cut? [c] cs with
    | none => rfl
    | some parts =>
      rw [eq_append_of_cut? (List.cons_ne_nil _ _) hcut] at h
      exact absurd (by simp) h

/-- **The first occurrence of a character.** -/
theorem cut?_eq_some_iff {cs before after : List Char} :
    cut? [c] cs = some (before, after) ↔ c ∉ before ∧ cs = before ++ c :: after := by
  constructor
  · intro h
    have hcs := eq_append_of_cut? (List.cons_ne_nil _ _) h
    have hmem : c ∈ cs := by
      rw [hcs]
      simp
    obtain ⟨front, back, rfl, hfront⟩ := List.eq_append_cons_of_mem hmem
    rw [cut?_append_cons hfront] at h
    cases h
    exact ⟨hfront, rfl⟩
  · rintro ⟨hbefore, rfl⟩
    exact cut?_append_cons hbefore

theorem dropPrefix?_eq_some_iff {start cs : List Char} :
    dropPrefix? start cs = some rest ↔ cs = start ++ rest := by
  induction start generalizing cs with
  | nil => simp [dropPrefix?, eq_comm]
  | cons s start ih =>
    cases cs with
    | nil => simp [dropPrefix?]
    | cons c cs =>
      rw [dropPrefix?, List.cons_append]
      split
      · next heq => simp [heq, ih]
      · next hne =>
        refine ⟨nofun, fun h => ?_⟩
        cases h
        exact absurd rfl hne

theorem dropSuffix?_eq_some_iff {ending cs front : List Char} :
    dropSuffix? ending cs = some front ↔ cs = front ++ ending := by
  simp only [dropSuffix?, Option.map_eq_some_iff, dropPrefix?_eq_some_iff]
  constructor
  · rintro ⟨rest, hreverse, rfl⟩
    rw [← List.reverse_reverse cs, hreverse, List.reverse_append, List.reverse_reverse]
  · rintro rfl
    exact ⟨front.reverse, List.reverse_append, List.reverse_reverse _⟩

end VmProvisioning.Text
