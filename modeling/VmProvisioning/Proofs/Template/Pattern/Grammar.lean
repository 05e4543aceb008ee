import VmProvisioning.Proofs.Template.Pattern.CharClass
import VmProvisioning.Proofs.Text.Pieces

/-!
# The grammar of patterns

A pattern is a sequence of items. An item is a class in brackets up to the first closing one, an
escape or a single character, with a count in braces behind it or none. A text that is no pattern
has a fault behind the items that can be read.

## Main definitions

* `IsChoice`, `IsCount`: the two parts of an item
* `ReadsItems`: the items of a text, and what follows them
* `HasFault`: what is wrong behind the items of a text

## Main results

* `readChoices_eq_ok_iff`, `readRepeat_eq_ok_iff`: reading the two parts of an item
* `readItems_eq_ok_iff`, `readItems_eq_error_iff`: the items of a text, and when there are none
-/

namespace VmProvisioning.Pattern

variable {body choices front rest tail cs : List Char} {c : Char} {n : Nat} {items : List Item}
  {error : PatternError}

/-! ## Items -/

/-- **What an item chooses from**: the text of the first part of an item, with its choices. -/
inductive IsChoice : List Char → List Char → Prop
  | bracket {body set : List Char} (hbody : ']' ∉ body) (hset : IsClassSet body set) :
    IsChoice ('[' :: (body ++ [']'])) set
  | escape (c : Char) : IsChoice ['\\', c] (escaped c)
  | literal {c : Char} (hbracket : c ≠ '[') (hescape : c ≠ '\\') : IsChoice [c] [c]

/-- **A number of 64 bits**: decimal digits behind a plus sign or none. -/
def IsNumber (body : List Char) (n : Nat) : Prop :=
  ∃ digits, (body = digits ∨ body = '+' :: digits) ∧ digits ≠ [] ∧
    (∀ c ∈ digits, c.isDigit = true) ∧ n = Decimal.ofDigits digits ∧ n < UInt64.size

/-- **How often an item is drawn**: the text of the second part of an item, with its count. -/
inductive IsCount : List Char → Nat → Prop
  | once : IsCount [] 1
  | times {body : List Char} {n : Nat} (hnumber : IsNumber body n) (hle : n ≤ maxCount) :
    IsCount ('{' :: (body ++ ['}'])) n

/-- **The items at the beginning of a text**, and what follows them. Behind an item without a count
there is no opening brace. -/
inductive ReadsItems : List Char → List Item → List Char → Prop
  | nil (rest : List Char) : ReadsItems rest [] rest
  | cons {front count rest tail choices : List Char} {n : Nat} {items : List Item}
    (hchoice : IsChoice front choices) (hcount : IsCount count n)
    (honce : count = [] → ∀ others, rest ≠ '{' :: others) (h : ReadsItems rest items tail) :
    ReadsItems (front ++ (count ++ rest)) (⟨choices, n⟩ :: items) tail

/-- **What is wrong at the beginning of a text** that has no item there. -/
inductive HasFault : List Char → PatternError → Prop
  | unterminatedClass {rest : List Char} (h : ']' ∉ rest) :
    HasFault ('[' :: rest) .unterminatedClass
  | emptyClass (rest : List Char) : HasFault ('[' :: ']' :: rest) .emptyClass
  | invalidRange {body rest : List Char} {low high : Char} (hbody : ']' ∉ body)
    (h : HasReversedRange body low high) :
    HasFault ('[' :: (body ++ ']' :: rest)) (.invalidRange low high)
  | danglingEscape : HasFault ['\\'] .danglingEscape
  | unterminatedRepeat {front choices rest : List Char} (hchoice : IsChoice front choices)
    (h : '}' ∉ rest) : HasFault (front ++ '{' :: rest) .unterminatedRepeat
  | invalidRepeat {front choices body rest : List Char} (hchoice : IsChoice front choices)
    (hbody : '}' ∉ body) (h : ∀ n, ¬ IsNumber body n) :
    HasFault (front ++ '{' :: (body ++ '}' :: rest)) (.invalidRepeat (String.ofList body))
  | repeatTooLarge {front choices body rest : List Char} {n : Nat}
    (hchoice : IsChoice front choices) (hnumber : IsNumber body n) (h : maxCount < n) :
    HasFault (front ++ '{' :: (body ++ '}' :: rest)) (.repeatTooLarge n maxCount)

/-! ### Choices -/

theorem readChoices_bracket (hbody : ']' ∉ body) :
    readChoices '[' (body ++ ']' :: rest) = (classSet body).map fun set => (set, rest) := by
  rw [readChoices.eq_def, if_pos rfl, Text.cut?_append_cons hbody]

theorem readChoices_of_isChoice (h : IsChoice (c :: front) choices) :
    readChoices c (front ++ rest) = .ok (choices, rest) := by
  generalize hfront : c :: front = text at h
  cases h with
  | @bracket body set hbody hset =>
    cases hfront
    rw [List.append_assoc, List.singleton_append, readChoices_bracket hbody,
      classSet_eq_ok_iff.mpr hset]
    rfl
  | escape d =>
    cases hfront
    rfl
  | literal hbracket hescape =>
    cases hfront
    rw [readChoices.eq_def, if_neg hbracket, if_neg hescape]
    rfl

/-- **The first part of an item.** -/
theorem readChoices_eq_ok_iff : readChoices c cs = .ok (choices, rest) ↔
    ∃ front, IsChoice (c :: front) choices ∧ cs = front ++ rest := by
  constructor
  · intro h
    unfold readChoices at h
    split at h
    · next hbracket =>
      subst hbracket
      split at h
      · cases h
      · next body after hcut =>
        obtain ⟨hbody, rfl⟩ := Text.cut?_eq_some_iff.mp hcut
        cases hset : classSet body with
        | error other =>
          rw [hset] at h
          cases h
        | ok set =>
          rw [hset] at h
          cases h
          exact ⟨body ++ [']'], .bracket hbody (classSet_eq_ok_iff.mp hset), by simp⟩
    · next hbracket =>
      split at h
      · next hescape =>
        subst hescape
        cases cs with
        | nil => cases h
        | cons d cs =>
          cases h
          exact ⟨[d], .escape d, rfl⟩
      · next hescape =>
        cases h
        exact ⟨[], .literal hbracket hescape, rfl⟩
  · rintro ⟨front, hchoice, rfl⟩
    exact readChoices_of_isChoice hchoice

/-- **What is wrong with the first part of an item.** -/
theorem readChoices_eq_error_iff : readChoices c cs = .error error ↔
    c = '[' ∧ (']' ∉ cs ∧ error = .unterminatedClass ∨
      ∃ body rest, ']' ∉ body ∧ cs = body ++ ']' :: rest ∧ classSet body = .error error) ∨
    c = '\\' ∧ cs = [] ∧ error = .danglingEscape := by
  constructor
  · intro h
    unfold readChoices at h
    split at h
    · next hbracket =>
      refine .inl ⟨hbracket, ?_⟩
      split at h
      · next hcut =>
        cases h
        exact .inl ⟨Text.cut?_eq_none_iff.mp hcut, rfl⟩
      · next body after hcut =>
        obtain ⟨hbody, rfl⟩ := Text.cut?_eq_some_iff.mp hcut
        cases hset : classSet body with
        | error other =>
          rw [hset] at h
          cases h
          exact .inr ⟨body, after, hbody, rfl, hset⟩
        | ok set =>
          rw [hset] at h
          cases h
    · split at h
      · next hescape =>
        cases cs with
        | nil =>
          cases h
          exact .inr ⟨hescape, rfl, rfl⟩
        | cons d cs => cases h
      · cases h
  · rintro (⟨rfl, ⟨hclose, rfl⟩ | ⟨body, rest, hbody, rfl, hset⟩⟩ | ⟨rfl, rfl, rfl⟩)
    · rw [readChoices.eq_def, if_pos rfl, Text.cut?_eq_none_iff.mpr hclose]
    · rw [readChoices_bracket hbody, hset]
      rfl
    · rfl

/-! ### Counts -/

theorem isDigit_ne {e : Char} (h : c.isDigit = true) (he : e.isDigit = false) : c ≠ e := by
  rintro rfl
  rw [h] at he
  cases he

theorem IsNumber.notMem_brace (h : IsNumber body n) : '}' ∉ body := by
  obtain ⟨digits, hbody, -, hdigits, -⟩ := h
  have hbrace : '}' ∉ digits := fun hmem => isDigit_ne (hdigits _ hmem) (by decide) rfl
  rcases hbody with rfl | rfl
  · exact hbrace
  · exact List.not_mem_cons_of_ne_of_not_mem (by decide) hbrace

theorem ofDigits_filter_eq_some_iff {digits : List Char} :
    (if (digits.isEmpty || !digits.all Char.isDigit) = true then none
      else (some (Decimal.ofDigits digits)).filter (· < UInt64.size)) = some n ↔
      digits ≠ [] ∧ (∀ c ∈ digits, c.isDigit = true) ∧ n = Decimal.ofDigits digits ∧
        n < UInt64.size := by
  split
  · next h =>
    simp only [Bool.or_eq_true, List.isEmpty_iff, Bool.not_eq_true'] at h
    refine ⟨nofun, fun ⟨hne, hdigits, _⟩ => ?_⟩
    rcases h with rfl | hall
    · exact absurd rfl hne
    · rw [List.all_eq_true.mpr hdigits] at hall
      cases hall
  · next h =>
    simp only [Bool.or_eq_true, List.isEmpty_iff, Bool.not_eq_true', not_or,
      Bool.not_eq_false, List.all_eq_true] at h
    rw [Option.filter_eq_some_iff, decide_eq_true_eq]
    constructor
    · rintro ⟨⟨⟩, hlt⟩
      exact ⟨h.1, h.2, rfl, hlt⟩
    · rintro ⟨-, -, rfl, hlt⟩
      exact ⟨rfl, hlt⟩

theorem readCount?_eq_some_iff : readCount? body = some n ↔ IsNumber body n := by
  unfold readCount?
  dsimp only
  split
  · next digits =>
    rw [ofDigits_filter_eq_some_iff]
    constructor
    · exact fun h => ⟨digits, .inr rfl, h⟩
    · rintro ⟨others, hbody, h⟩
      rcases hbody with rfl | heq
      · exact absurd (h.2.1 '+' List.mem_cons_self) (by decide)
      · cases heq
        exact h
  · next hsign =>
    rw [ofDigits_filter_eq_some_iff]
    constructor
    · exact fun h => ⟨body, .inl rfl, h⟩
    · rintro ⟨digits, hbody, h⟩
      rcases hbody with rfl | heq
      · exact h
      · exact absurd heq (hsign digits)

theorem readRepeat_of_braces (hbody : '}' ∉ body) :
    readRepeat ('{' :: (body ++ '}' :: rest)) =
      match readCount? body with
      | none => .error (.invalidRepeat (String.ofList body))
      | some count =>
        if maxCount < count then .error (.repeatTooLarge count maxCount)
        else .ok (count, rest) := by
  cases hcount : readCount? body with
  | none => simp only [readRepeat, Text.cut?_append_cons hbody, hcount]
  | some count => simp only [readRepeat, Text.cut?_append_cons hbody, hcount]

theorem readRepeat_of_isCount {count : List Char} (hcount : IsCount count n)
    (honce : count = [] → ∀ others, rest ≠ '{' :: others) :
    readRepeat (count ++ rest) = .ok (n, rest) := by
  cases hcount with
  | once => exact readRepeat.eq_2 _ (honce rfl)
  | @times body _ hnumber hle =>
    rw [List.cons_append, List.append_assoc, List.singleton_append,
      readRepeat_of_braces hnumber.notMem_brace, readCount?_eq_some_iff.mpr hnumber]
    exact if_neg (not_lt.mpr hle)

/-- **The second part of an item.** -/
theorem readRepeat_eq_ok_iff : readRepeat cs = .ok (n, rest) ↔
    ∃ count, IsCount count n ∧ (count = [] → ∀ others, rest ≠ '{' :: others) ∧
      cs = count ++ rest := by
  constructor
  · intro h
    unfold readRepeat at h
    split at h
    · split at h
      · cases h
      · next body after hcut =>
        obtain ⟨hbody, rfl⟩ := Text.cut?_eq_some_iff.mp hcut
        split at h
        · cases h
        · next count hcount =>
          split at h
          · cases h
          · next hle =>
            cases h
            refine ⟨_, .times (readCount?_eq_some_iff.mp hcount) (not_lt.mp hle), nofun, ?_⟩
            simp
    · next hopen =>
      cases h
      exact ⟨[], .once, fun _ => hopen, rfl⟩
  · rintro ⟨count, hcount, honce, rfl⟩
    exact readRepeat_of_isCount hcount honce

/-- **What is wrong with the second part of an item.** -/
theorem readRepeat_eq_error_iff : readRepeat cs = .error error ↔
    ∃ others, cs = '{' :: others ∧ ('}' ∉ others ∧ error = .unterminatedRepeat ∨
      ∃ body rest, '}' ∉ body ∧ others = body ++ '}' :: rest ∧
        ((∀ n, ¬ IsNumber body n) ∧ error = .invalidRepeat (String.ofList body) ∨
          ∃ n, IsNumber body n ∧ maxCount < n ∧ error = .repeatTooLarge n maxCount)) := by
  constructor
  · intro h
    unfold readRepeat at h
    split at h
    · next others =>
      refine ⟨others, rfl, ?_⟩
      split at h
      · next hcut =>
        cases h
        exact .inl ⟨Text.cut?_eq_none_iff.mp hcut, rfl⟩
      · next body after hcut =>
        obtain ⟨hbody, rfl⟩ := Text.cut?_eq_some_iff.mp hcut
        refine .inr ⟨body, after, hbody, rfl, ?_⟩
        split at h
        · next hnone =>
          cases h
          refine .inl ⟨fun n hnumber => ?_, rfl⟩
          rw [readCount?_eq_some_iff.mpr hnumber] at hnone
          cases hnone
        · next count hcount =>
          split at h
          · next hlt =>
            cases h
            exact .inr ⟨count, readCount?_eq_some_iff.mp hcount, hlt, rfl⟩
          · cases h
    · cases h
  · rintro ⟨others, rfl, ⟨hclose, rfl⟩ | ⟨body, rest, hbody, rfl, hfault⟩⟩
    · rw [readRepeat, Text.cut?_eq_none_iff.mpr hclose]
    · rw [readRepeat_of_braces hbody]
      rcases hfault with ⟨hnone, rfl⟩ | ⟨n, hnumber, hlt, rfl⟩
      · cases hcount : readCount? body with
        | none => rfl
        | some n => exact absurd (readCount?_eq_some_iff.mp hcount) (hnone n)
      · rw [readCount?_eq_some_iff.mpr hnumber]
        exact if_pos hlt

/-! ## Patterns -/

theorem readItems_cons : readItems (c :: cs) =
    (readChoices c cs).bind fun (choices, rest) =>
      (readRepeat rest).bind fun (count, rest) =>
        (readItems rest).map (⟨choices, count⟩ :: ·) := by
  rw [readItems]
  split
  · next hchoices =>
    rw [hchoices]
    rfl
  · next choices rest hchoices =>
    rw [hchoices]
    split
    · next hcount =>
      simp only [Except.bind, hcount]
    · next count rest' hcount =>
      simp only [Except.bind, hcount]

theorem IsChoice.exists_cons (h : IsChoice front choices) : ∃ c rest, front = c :: rest := by
  cases h with
  | bracket => exact ⟨_, _, rfl⟩
  | escape => exact ⟨_, _, rfl⟩
  | literal => exact ⟨_, _, rfl⟩

/-- Reading goes on behind the items that are read. -/
theorem readItems_of_readsItems (h : ReadsItems cs items tail) :
    readItems cs = (readItems tail).map (items ++ ·) := by
  induction h with
  | nil rest => cases readItems rest <;> rfl
  | @cons front count rest tail choices n items hchoice hcount honce _ ih =>
    obtain ⟨c, front, rfl⟩ := hchoice.exists_cons
    rw [List.cons_append, readItems_cons, readChoices_of_isChoice hchoice]
    simp only [Except.bind, readRepeat_of_isCount hcount honce, ih]
    cases readItems tail <;> rfl

/-- **A fault ends the reading.** -/
theorem readItems_of_hasFault (h : HasFault cs error) : readItems cs = .error error := by
  -- The fault is one of the first part of the item, or of the second one behind a first one.
  have hfirst {c : Char} {cs : List Char} (hfault : readChoices c cs = .error error) :
      readItems (c :: cs) = .error error := by
    rw [readItems_cons, hfault]
    rfl
  have hsecond {front choices rest : List Char} (hchoice : IsChoice front choices)
      (hfault : readRepeat rest = .error error) : readItems (front ++ rest) = .error error := by
    obtain ⟨c, front, rfl⟩ := hchoice.exists_cons
    rw [List.cons_append, readItems_cons, readChoices_of_isChoice hchoice]
    simp only [Except.bind, hfault]
  cases h with
  | unterminatedClass hclose =>
    exact hfirst (readChoices_eq_error_iff.mpr (.inl ⟨rfl, .inl ⟨hclose, rfl⟩⟩))
  | emptyClass rest =>
    exact hfirst (readChoices_eq_error_iff.mpr
      (.inl ⟨rfl, .inr ⟨[], rest, nofun, rfl, classSet_nil⟩⟩))
  | invalidRange hbody hreversed =>
    have hset := classSet_eq_error_iff.mpr (.inr ⟨_, _, hreversed, rfl⟩)
    exact hfirst (readChoices_eq_error_iff.mpr (.inl ⟨rfl, .inr ⟨_, _, hbody, rfl, hset⟩⟩))
  | danglingEscape => exact hfirst (readChoices_eq_error_iff.mpr (.inr ⟨rfl, rfl, rfl⟩))
  | unterminatedRepeat hchoice hclose =>
    exact hsecond hchoice (readRepeat_eq_error_iff.mpr ⟨_, rfl, .inl ⟨hclose, rfl⟩⟩)
  | invalidRepeat hchoice hbody hnone =>
    exact hsecond hchoice (readRepeat_eq_error_iff.mpr
      ⟨_, rfl, .inr ⟨_, _, hbody, rfl, .inl ⟨hnone, rfl⟩⟩⟩)
  | repeatTooLarge hchoice hnumber hlt =>
    exact hsecond hchoice (readRepeat_eq_error_iff.mpr
      ⟨_, rfl, .inr ⟨_, _, hnumber.notMem_brace, rfl, .inr ⟨_, hnumber, hlt, rfl⟩⟩⟩)

theorem hasFault_of_readChoices (h : readChoices c cs = .error error) :
    HasFault (c :: cs) error := by
  rcases readChoices_eq_error_iff.mp h with
    ⟨rfl, ⟨hclose, rfl⟩ | ⟨body, rest, hbody, rfl, hset⟩⟩ | ⟨rfl, rfl, rfl⟩
  · exact .unterminatedClass hclose
  · rcases classSet_eq_error_iff.mp hset with ⟨rfl, rfl⟩ | ⟨low, high, hreversed, rfl⟩
    · exact .emptyClass rest
    · exact .invalidRange hbody hreversed
  · exact .danglingEscape

theorem hasFault_of_readRepeat (hchoice : IsChoice front choices)
    (h : readRepeat cs = .error error) : HasFault (front ++ cs) error := by
  obtain ⟨others, rfl, ⟨hclose, rfl⟩ | ⟨body, rest, hbody, rfl, hfault⟩⟩ :=
    readRepeat_eq_error_iff.mp h
  · exact .unterminatedRepeat hchoice hclose
  · rcases hfault with ⟨hnone, rfl⟩ | ⟨n, hnumber, hlt, rfl⟩
    · exact .invalidRepeat hchoice hbody hnone
    · exact .repeatTooLarge hchoice hnumber hlt

/-- **A text has items up to its end**, or up to a fault. -/
theorem exists_readsItems (cs : List Char) : ∃ items tail, ReadsItems cs items tail ∧
    (tail = [] ∨ ∃ error, HasFault tail error) := by
  -- Induction along the reading, which ends at the end of the text or at a fault.
  induction cs using readItems.induct with
  | case1 => exact ⟨[], [], .nil [], .inl rfl⟩
  | case2 c cs error hchoices =>
    exact ⟨[], _, .nil _, .inr ⟨error, hasFault_of_readChoices hchoices⟩⟩
  | case3 c cs choices rest hchoices error hcount =>
    obtain ⟨front, hchoice, rfl⟩ := readChoices_eq_ok_iff.mp hchoices
    exact ⟨[], _, .nil _, .inr ⟨error, hasFault_of_readRepeat hchoice hcount⟩⟩
  | case4 c cs choices rest hchoices n rest' hcount ih =>
    obtain ⟨front, hchoice, rfl⟩ := readChoices_eq_ok_iff.mp hchoices
    obtain ⟨count, hfound, honce, rfl⟩ := readRepeat_eq_ok_iff.mp hcount
    obtain ⟨items, tail, hitems, hend⟩ := ih
    exact ⟨_, tail, .cons hchoice hfound honce hitems, hend⟩

/-- **The items of a text** are those up to its end. -/
theorem readItems_eq_ok_iff : readItems cs = .ok items ↔ ReadsItems cs items [] := by
  constructor
  · intro h
    obtain ⟨found, tail, hfound, rfl | ⟨error, hfault⟩⟩ := exists_readsItems cs
    · rw [readItems_of_readsItems hfound, readItems] at h
      obtain rfl : found = items := by simpa [Except.map] using h
      exact hfound
    · rw [readItems_of_readsItems hfound, readItems_of_hasFault hfault] at h
      cases h
  · intro h
    rw [readItems_of_readsItems h, readItems]
    simp [Except.map]

/-- **A text has no items** if there is a fault behind those that can be read. -/
theorem readItems_eq_error_iff : readItems cs = .error error ↔
    ∃ items tail, ReadsItems cs items tail ∧ HasFault tail error := by
  constructor
  · intro h
    obtain ⟨items, tail, hitems, rfl | ⟨other, hfault⟩⟩ := exists_readsItems cs
    · rw [readItems_of_readsItems hitems, readItems] at h
      cases h
    · have herror := readItems_of_readsItems hitems
      rw [readItems_of_hasFault hfault, h] at herror
      cases herror
      exact ⟨items, tail, hitems, hfault⟩
  · rintro ⟨items, tail, hitems, hfault⟩
    rw [readItems_of_readsItems hitems, readItems_of_hasFault hfault]
    rfl

end VmProvisioning.Pattern
