import Mathlib.Data.Char
import Mathlib.Data.List.Sort
import VmProvisioning.Proofs.Template.Pattern

/-!
# Classes of patterns

A class is a sequence of escapes, ranges and single characters, which are read from left to right.
Its set holds what they stand for, in order and without repetitions. A class has no set if it is
empty or if the ends of a range are in reverse.

## Main definitions

* `Escapes`: what a character stands for behind a backslash
* `ClassPiece`, `ReadsClass`: the pieces of a class
* `IsClassSet`: the set of characters of a class
* `HasReversedRange`: the first range of a class whose ends are in reverse

## Main results

* `mem_escaped`, `mem_between`: the characters of escapes and ranges
* `classSet_eq_ok_iff`, `classSet_eq_error_iff`: the set of a class, and when there is none
-/

namespace VmProvisioning.Pattern

variable {body set found cs : List Char} {c d low high : Char} {error : PatternError}

/-! ## Pieces -/

/-- **A piece of a class.** -/
inductive ClassPiece where
  | escape (c : Char)
  | range (low high : Char)
  | single (c : Char)

/-- **What a character stands for behind a backslash**: for word characters, digits, letters or
punctuation, all of ASCII, or for itself. -/
def Escapes (c d : Char) : Prop :=
  match c with
  | 'w' => d.isAlphanum = true ∨ d = '_'
  | 'd' => d.isDigit = true
  | 'a' => d.isAlpha = true
  | 'A' => '!' ≤ d ∧ d ≤ '~' ∧ d.isAlphanum = false
  | c => d = c

/-- A character that a piece stands for. -/
def ClassPiece.Covers : ClassPiece → Char → Prop
  | escape c, d => Escapes c d
  | range low high, d => low ≤ d ∧ d ≤ high
  | single c, d => d = c

/-- The ends of a range are in order. -/
def ClassPiece.IsOrdered : ClassPiece → Prop
  | range low high => low ≤ high
  | _ => True

/-- The characters of a piece, one after the other. -/
def ClassPiece.chars : ClassPiece → List Char
  | escape c => escaped c
  | range low high => between low high
  | single c => [c]

/-- **The pieces of a class.** A backslash escapes the character behind it, and a hyphen between two
characters makes them a range; a backslash or a hyphen without them stands for itself. -/
inductive ReadsClass : List Char → List ClassPiece → Prop
  | nil : ReadsClass [] []
  | escape {c : Char} {rest : List Char} {pieces : List ClassPiece} (h : ReadsClass rest pieces) :
    ReadsClass ('\\' :: c :: rest) (.escape c :: pieces)
  | range {low high : Char} {rest : List Char} {pieces : List ClassPiece} (hlow : low ≠ '\\')
    (h : ReadsClass rest pieces) :
    ReadsClass (low :: '-' :: high :: rest) (.range low high :: pieces)
  | single {c : Char} {rest : List Char} {pieces : List ClassPiece}
    (hescape : c = '\\' → rest = []) (hrange : ∀ high tail, rest ≠ '-' :: high :: tail)
    (h : ReadsClass rest pieces) :
    ReadsClass (c :: rest) (.single c :: pieces)

/-- **The set of a class**: what its pieces stand for, in order and without repetitions. -/
structure IsClassSet (body set : List Char) : Prop where
  ne_nil : set ≠ []
  increasing : set.Pairwise (· < ·)
  exists_pieces : ∃ pieces, ReadsClass body pieces ∧ (∀ piece ∈ pieces, piece.IsOrdered) ∧
    ∀ c, c ∈ set ↔ ∃ piece ∈ pieces, piece.Covers c

/-- **The first range of a class whose ends are in reverse.** -/
def HasReversedRange (body : List Char) (low high : Char) : Prop :=
  ∃ before after, ReadsClass body (before ++ .range low high :: after) ∧
    (∀ piece ∈ before, piece.IsOrdered) ∧ high < low

variable {piece : ClassPiece} {pieces before after : List ClassPiece}

theorem exists_readsClass (body : List Char) : ∃ pieces, ReadsClass body pieces := by
  induction body using classChars.induct with
  | case1 c rest ih =>
    obtain ⟨pieces, h⟩ := ih
    exact ⟨_, h.escape⟩
  | case2 low high rest hlow _ ih =>
    obtain ⟨pieces, h⟩ := ih
    exact ⟨_, h.range hlow⟩
  | case3 low high rest hlow _ ih =>
    obtain ⟨pieces, h⟩ := ih
    exact ⟨_, h.range hlow⟩
  | case4 c rest hescape hrange ih =>
    obtain ⟨pieces, h⟩ := ih
    refine ⟨_, h.single (fun hc => ?_) hrange⟩
    exact List.eq_nil_iff_forall_not_mem.mpr fun d hd => by
      obtain ⟨e, tail, htail⟩ := List.exists_cons_of_ne_nil (List.ne_nil_of_mem hd)
      exact hescape e tail hc htail
  | case5 => exact ⟨_, .nil⟩

/-- **One piece of a class**: its characters come before the others, or its ends are in reverse. -/
theorem ReadsClass.exists_rest (h : ReadsClass body (piece :: pieces)) :
    ∃ rest, ReadsClass rest pieces ∧
      (piece.IsOrdered → classChars body = (classChars rest).map (piece.chars ++ ·)) ∧
      ∀ low high, piece = .range low high → high < low →
        classChars body = .error (.invalidRange low high) := by
  cases h with
  | @escape c rest _ h =>
    refine ⟨rest, h, fun _ => ?_, nofun⟩
    rw [classChars]
    cases classChars rest <;> rfl
  | @range low high rest _ hlow h =>
    refine ⟨rest, h, fun hle => ?_, ?_⟩
    · rw [classChars.eq_2 _ _ _ hlow, if_neg (not_lt.mpr hle)]
      cases classChars rest <;> rfl
    · rintro _ _ ⟨⟩ hlt
      rw [classChars.eq_2 _ _ _ hlow, if_pos hlt]
      rfl
  | @single c rest _ hescape hrange h =>
    refine ⟨rest, h, fun _ => ?_, nofun⟩
    rw [classChars.eq_3 _ _ (fun d tail hc htail => by simp [hescape hc] at htail) hrange]
    cases classChars rest <;> rfl

theorem classChars_of_isOrdered (h : ReadsClass body pieces)
    (hordered : ∀ piece ∈ pieces, piece.IsOrdered) :
    classChars body = .ok (pieces.flatMap ClassPiece.chars) := by
  induction pieces generalizing body with
  | nil =>
    cases h
    rfl
  | cons piece pieces ih =>
    obtain ⟨hpiece, hpieces⟩ := List.forall_mem_cons.mp hordered
    obtain ⟨rest, hrest, hclass, -⟩ := h.exists_rest
    rw [hclass hpiece, ih hrest hpieces]
    rfl

theorem classChars_of_hasReversedRange (h : HasReversedRange body low high) :
    classChars body = .error (.invalidRange low high) := by
  obtain ⟨before, after, h, hbefore, hlt⟩ := h
  induction before generalizing body with
  | nil =>
    obtain ⟨rest, -, -, hreversed⟩ := h.exists_rest
    exact hreversed low high rfl hlt
  | cons piece before ih =>
    obtain ⟨hpiece, hbefore⟩ := List.forall_mem_cons.mp hbefore
    obtain ⟨rest, hrest, hclass, -⟩ := h.exists_rest
    rw [hclass hpiece, ih hrest hbefore]
    rfl

/-- The pieces of a class are all in order, or one range is the first that is not. -/
theorem forall_isOrdered_or_exists (pieces : List ClassPiece) :
    (∀ piece ∈ pieces, piece.IsOrdered) ∨ ∃ before low high after,
      pieces = before ++ .range low high :: after ∧ (∀ piece ∈ before, piece.IsOrdered) ∧
        high < low := by
  induction pieces with
  | nil => exact .inl nofun
  | cons piece pieces ih =>
    by_cases hpiece : piece.IsOrdered
    · rcases ih with hpieces | ⟨before, low, high, after, rfl, hbefore, hlt⟩
      · exact .inl (List.forall_mem_cons.mpr ⟨hpiece, hpieces⟩)
      · exact .inr ⟨piece :: before, low, high, after, rfl,
          List.forall_mem_cons.mpr ⟨hpiece, hbefore⟩, hlt⟩
    · cases piece with
      | range low high => exact .inr ⟨[], low, high, pieces, rfl, nofun, not_le.mp hpiece⟩
      | escape c => exact absurd trivial hpiece
      | single c => exact absurd trivial hpiece

theorem classChars_eq_ok_iff : classChars body = .ok found ↔
    ∃ pieces, ReadsClass body pieces ∧ (∀ piece ∈ pieces, piece.IsOrdered) ∧
      found = pieces.flatMap ClassPiece.chars := by
  constructor
  · intro h
    obtain ⟨pieces, hpieces⟩ := exists_readsClass body
    rcases forall_isOrdered_or_exists pieces with hordered | ⟨before, low, high, after, rfl, hrest⟩
    · rw [classChars_of_isOrdered hpieces hordered] at h
      exact ⟨pieces, hpieces, hordered, (Except.ok.inj h).symm⟩
    · rw [classChars_of_hasReversedRange ⟨before, after, hpieces, hrest⟩] at h
      cases h
  · rintro ⟨pieces, hpieces, hordered, rfl⟩
    exact classChars_of_isOrdered hpieces hordered

theorem classChars_eq_error_iff : classChars body = .error error ↔
    ∃ low high, HasReversedRange body low high ∧ error = .invalidRange low high := by
  constructor
  · intro h
    obtain ⟨pieces, hpieces⟩ := exists_readsClass body
    rcases forall_isOrdered_or_exists pieces with hordered | ⟨before, low, high, after, rfl, hrest⟩
    · rw [classChars_of_isOrdered hpieces hordered] at h
      cases h
    · have hreversed : HasReversedRange body low high := ⟨before, after, hpieces, hrest⟩
      rw [classChars_of_hasReversedRange hreversed] at h
      exact ⟨low, high, hreversed, (Except.error.inj h).symm⟩
  · rintro ⟨low, high, hreversed, rfl⟩
    exact classChars_of_hasReversedRange hreversed

/-! ## Sets -/

/-- An ASCII character is in a list if it is among the first 128 code points and in the list. -/
theorem mem_iff_of_ascii {p : Char → Bool} {chars : List Char} (hchars : chars.all p = true)
    (hascii : ∀ d, p d = true → d.toNat < 128)
    (hall : ∀ n < 128, p (Char.ofNat n) = true → Char.ofNat n ∈ chars) :
    d ∈ chars ↔ p d = true := by
  refine ⟨List.all_eq_true.mp hchars d, fun h => ?_⟩
  have hmem := hall d.toNat (hascii d h)
  rw [Char.ofNat_toNat] at hmem
  exact hmem h

theorem toNat_lt_of_isAlphanum (h : d.isAlphanum = true) : d.toNat < 128 := by
  have hranges : ((decide ('A'.val ≤ d.val ∧ d.val ≤ 'Z'.val) ||
      ('a'.val ≤ d.val && d.val ≤ 'z'.val)) || ('0'.val ≤ d.val && d.val ≤ '9'.val)) = true :=
    h
  simp only [Bool.or_eq_true, Bool.and_eq_true, decide_eq_true_eq, UInt32.le_iff_toNat_le]
    at hranges
  rcases hranges with (⟨-, hle⟩ | ⟨-, hle⟩) | ⟨-, hle⟩
  · exact hle.trans_lt (by decide)
  · exact hle.trans_lt (by decide)
  · exact hle.trans_lt (by decide)

theorem mem_letters : d ∈ letters ↔ d.isAlpha = true := by
  refine mem_iff_of_ascii (by decide) (fun d hd => toNat_lt_of_isAlphanum ?_) (by decide)
  rw [Char.isAlphanum, hd, Bool.true_or]

theorem mem_digits : d ∈ Pattern.digits ↔ d.isDigit = true := by
  refine mem_iff_of_ascii (by decide) (fun d hd => toNat_lt_of_isAlphanum ?_) (by decide)
  rw [Char.isAlphanum, hd, Bool.or_true]

theorem mem_symbols : d ∈ symbols ↔ '!' ≤ d ∧ d ≤ '~' ∧ d.isAlphanum = false := by
  have hmem : d ∈ symbols ↔ ('!' ≤ d && d ≤ '~' && !d.isAlphanum) = true := by
    refine mem_iff_of_ascii (p := fun d => '!' ≤ d && d ≤ '~' && !d.isAlphanum) (by decide)
      (fun d hd => ?_) (by decide)
    simp only [Bool.and_eq_true, decide_eq_true_eq] at hd
    exact Nat.lt_of_le_of_lt hd.1.2 (by decide)
  simpa [and_assoc] using hmem

/-- **What an escape stands for.** -/
theorem mem_escaped : d ∈ escaped c ↔ Escapes c d := by
  unfold escaped Escapes
  split_ifs with hw hd ha hA
  · subst hw
    simp [mem_letters, mem_digits, Char.isAlphanum, or_assoc]
  · subst hd
    exact mem_digits
  · subst ha
    exact mem_letters
  · subst hA
    exact mem_symbols
  · split
    · exact absurd rfl hw
    · exact absurd rfl hd
    · exact absurd rfl ha
    · exact absurd rfl hA
    · exact List.mem_singleton

theorem mem_between : d ∈ between low high ↔ low ≤ d ∧ d ≤ high := by
  have hle (a b : Char) : a ≤ b ↔ a.toNat ≤ b.toNat := Iff.rfl
  simp only [between, List.mem_filterMap, List.mem_range, hle]
  constructor
  · rintro ⟨k, hk, hfound⟩
    split at hfound
    · next hvalid =>
      cases hfound
      have hcode : (Char.ofNat (low.toNat + k)).toNat = low.toNat + k := by
        rw [Char.ofNat, dif_pos hvalid]
        rfl
      omega
    · cases hfound
  · rintro ⟨hlow, hhigh⟩
    refine ⟨d.toNat - low.toNat, by omega, ?_⟩
    have hcode : low.toNat + (d.toNat - low.toNat) = d.toNat := by omega
    rw [hcode, Char.ofNat_toNat]
    exact if_pos d.valid

theorem ClassPiece.mem_chars : d ∈ piece.chars ↔ piece.Covers d := by
  cases piece with
  | escape c => exact mem_escaped
  | range low high => exact mem_between
  | single c => exact List.mem_singleton

theorem mem_withoutRepeats : c ∈ withoutRepeats cs ↔ c ∈ cs := by
  fun_induction withoutRepeats cs with
  | case1 first rest ih => simp [ih]
  | case2 first second rest hne ih =>
    rw [List.mem_cons, ih, List.mem_cons (l := second :: rest)]
  | case3 => rfl

/-- Without its repetitions a list in order is strictly increasing. -/
theorem pairwise_withoutRepeats (h : cs.Pairwise (· ≤ ·)) :
    (withoutRepeats cs).Pairwise (· < ·) := by
  fun_induction withoutRepeats cs with
  | case1 first rest ih => exact ih h.of_cons
  | case2 first second rest hne ih =>
    obtain ⟨hfirst, hrest⟩ := List.pairwise_cons.mp h
    refine List.pairwise_cons.mpr ⟨fun d hd => ?_, ih hrest⟩
    -- the second one is greater, and the others are no less than it
    have hsecond : first < second := lt_of_le_of_ne (hfirst second List.mem_cons_self) hne
    rcases List.mem_cons.mp (mem_withoutRepeats.mp hd) with rfl | hmem
    · exact hsecond
    · exact hsecond.trans_le (List.rel_of_pairwise_cons hrest hmem)
  | case3 cs hshort =>
    match cs, hshort with
    | [], _ => exact List.Pairwise.nil
    | [c], _ => exact List.pairwise_singleton _ _
    | first :: second :: rest, hshort => exact absurd rfl (hshort first second rest)

theorem classSet_eq :
    classSet body = (classChars body).bind fun chars =>
      match withoutRepeats (chars.mergeSort fun a b => a ≤ b) with
      | [] => .error .emptyClass
      | set => .ok set := by
  rfl

/-- The set of the characters of a class. -/
theorem pairwise_lt_and_mem_set (chars : List Char) :
    (withoutRepeats (chars.mergeSort fun a b => a ≤ b)).Pairwise (· < ·) ∧
      ∀ c, c ∈ withoutRepeats (chars.mergeSort fun a b => a ≤ b) ↔ c ∈ chars := by
  refine ⟨pairwise_withoutRepeats ?_, fun c => by rw [mem_withoutRepeats, List.mem_mergeSort]⟩
  have hsorted : (chars.mergeSort fun a b => a ≤ b).Pairwise fun a b => decide (a ≤ b) = true :=
    List.pairwise_mergeSort (by simpa using fun a b c => le_trans) (by simpa using le_total) chars
  exact hsorted.imp of_decide_eq_true

/-- There is one strictly increasing list with the same elements. -/
theorem eq_of_pairwise_lt {first second : List Char} (hfirst : first.Pairwise (· < ·))
    (hsecond : second.Pairwise (· < ·)) (h : ∀ c, c ∈ first ↔ c ∈ second) : first = second := by
  have hperm : first.Perm second :=
    (List.perm_ext_iff_of_nodup (hfirst.imp ne_of_lt) (hsecond.imp ne_of_lt)).mpr h
  exact hperm.eq_of_pairwise (fun _ _ _ _ hlt hgt => absurd hgt hlt.asymm) hfirst hsecond

theorem classSet_nil : classSet [] = .error .emptyClass := by
  simp [classSet_eq, classChars, withoutRepeats, Except.bind]

theorem mem_flatMap_chars :
    c ∈ pieces.flatMap ClassPiece.chars ↔ ∃ piece ∈ pieces, piece.Covers c := by
  simp only [List.mem_flatMap, ClassPiece.mem_chars]

theorem classSet_of_classChars (h : classChars body = .ok found) (hne : found ≠ []) :
    classSet body = .ok (withoutRepeats (found.mergeSort fun a b => a ≤ b)) := by
  rw [classSet_eq, h, Except.bind]
  split
  · next hnil =>
    obtain ⟨c, hc⟩ := List.exists_mem_of_ne_nil _ hne
    have hmem := ((pairwise_lt_and_mem_set found).2 c).mpr hc
    rw [hnil] at hmem
    cases hmem
  · rfl

/-- A class with pieces in order has characters. -/
theorem flatMap_chars_ne_nil (hordered : ∀ piece ∈ pieces, piece.IsOrdered) (hne : pieces ≠ []) :
    pieces.flatMap ClassPiece.chars ≠ [] := by
  obtain ⟨piece, hpiece⟩ := List.exists_mem_of_ne_nil _ hne
  obtain ⟨c, hc⟩ : ∃ c, piece.Covers c := by
    cases piece with
    | escape c =>
      obtain ⟨d, hd⟩ := List.exists_mem_of_ne_nil _ (escaped_ne_nil c)
      exact ⟨d, mem_escaped.mp hd⟩
    | range low high => exact ⟨low, le_refl _, hordered _ hpiece⟩
    | single c => exact ⟨c, rfl⟩
  exact List.ne_nil_of_mem (mem_flatMap_chars.mpr ⟨piece, hpiece, hc⟩)

/-- **The set of a class.** -/
theorem classSet_eq_ok_iff : classSet body = .ok set ↔ IsClassSet body set := by
  constructor
  · intro h
    cases hchars : classChars body with
    | error other =>
      rw [classSet_eq, hchars] at h
      cases h
    | ok found =>
      have hne := ne_nil_of_classSet h
      obtain ⟨pieces, hpieces, hordered, rfl⟩ := classChars_eq_ok_iff.mp hchars
      by_cases hnil : pieces = []
      · subst hnil
        cases hpieces
        rw [classSet_nil] at h
        cases h
      · rw [classSet_of_classChars hchars (flatMap_chars_ne_nil hordered hnil)] at h
        cases h
        obtain ⟨hincreasing, hmem⟩ := pairwise_lt_and_mem_set (pieces.flatMap ClassPiece.chars)
        exact ⟨hne, hincreasing, pieces, hpieces, hordered,
          fun c => (hmem c).trans mem_flatMap_chars⟩
  · rintro ⟨hne, hincreasing, pieces, hpieces, hordered, hcovers⟩
    have hfound : pieces.flatMap ClassPiece.chars ≠ [] := by
      obtain ⟨c, hc⟩ := List.exists_mem_of_ne_nil _ hne
      exact List.ne_nil_of_mem (mem_flatMap_chars.mpr ((hcovers c).mp hc))
    rw [classSet_of_classChars (classChars_of_isOrdered hpieces hordered) hfound]
    obtain ⟨hsorted, hmem⟩ := pairwise_lt_and_mem_set (pieces.flatMap ClassPiece.chars)
    rw [eq_of_pairwise_lt hsorted hincreasing]
    intro c
    rw [hmem, mem_flatMap_chars, hcovers]

/-- **A class has no set** if it is empty or has a range in reverse. -/
theorem classSet_eq_error_iff : classSet body = .error error ↔
    body = [] ∧ error = .emptyClass ∨
      ∃ low high, HasReversedRange body low high ∧ error = .invalidRange low high := by
  constructor
  · intro h
    cases hchars : classChars body with
    | error other =>
      rw [classSet_eq, hchars] at h
      cases h
      exact .inr (classChars_eq_error_iff.mp hchars)
    | ok found =>
      obtain ⟨pieces, hpieces, hordered, rfl⟩ := classChars_eq_ok_iff.mp hchars
      by_cases hnil : pieces = []
      · subst hnil
        cases hpieces
        rw [classSet_nil] at h
        cases h
        exact .inl ⟨rfl, rfl⟩
      · rw [classSet_of_classChars hchars (flatMap_chars_ne_nil hordered hnil)] at h
        cases h
  · rintro (⟨rfl, rfl⟩ | ⟨low, high, hreversed, rfl⟩)
    · exact classSet_nil
    · rw [classSet_eq, classChars_of_hasReversedRange hreversed]
      rfl

end VmProvisioning.Pattern
