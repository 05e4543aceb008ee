import VmProvisioning.Proofs.Template.Pattern.Grammar
import VmProvisioning.Proofs.Text.Offsets

/-!
# Values of patterns

A value of a pattern holds characters of each item in order, as many as the item counts. Whether
there is a value, and of what length, is the same for all sources of random numbers.

The reading never leaves the pattern: a scan that cuts the pattern at byte offsets, draws as it
goes and comes to nothing when it cuts within a character, beyond the end or too often, comes to
the same values.

## Main definitions

* `IsDrawn`: the values of items
* `HasFaultIn`: what is wrong with a pattern
* `scan`: the scan at byte offsets

## Main results

* `isDrawn_draw`: what is drawn are values of the items
* `scan_eq`: the scan comes to what is generated
* `generate_language`: the values of a pattern, and when there are none
-/

namespace VmProvisioning.Pattern

variable {σ τ : Type} {body choices front rest tail cs : List Char} {c : Char} {n : Nat}
  {items : List Item} {error : PatternError} {pattern : String}

/-! ## Cutting at byte offsets -/

/-- **A reading that cuts texts at byte offsets**: it may end in a fault of the pattern, and comes
to nothing when a cut fails. -/
abbrev Cutting : Type → Type :=
  ExceptT PatternError Option

namespace Cutting

/-- A reading that comes to nothing. -/
def nothing {α : Type} : Cutting α :=
  ExceptT.mk none

/-- The result of reading text that has been cut out. -/
def ofExcept {α : Type} (result : Except PatternError α) : Cutting α :=
  ExceptT.mk (some result)

variable {α β : Type}

theorem liftM_some_bind (value : α) (next : α → Cutting β) :
    (liftM (some value) >>= next) = next value :=
  rfl

theorem ofExcept_ok_bind (value : α) (next : α → Cutting β) :
    (ofExcept (.ok value) >>= next) = next value :=
  rfl

end Cutting

/-- The choices of the item at the beginning of a text whose first character is `c`, and how many
bytes they take. -/
def scanChoices (c : Char) (text : List Char) : Cutting (List Char × Nat) :=
  if c = '[' then
    match Text.offset? ']' text with
    | none => throw .unterminatedClass
    | some stop => do
      let body ← Text.sliceBytes? 1 stop text
      let set ← Cutting.ofExcept (classSet body)
      return (set, stop + 1)
  else if c = '\\' then do
    let (_, behind) ← Text.cutAt? 1 text
    match behind with
    | [] => throw .danglingEscape
    | next :: _ => return (escaped next, 1 + next.utf8Size)
  else return ([c], c.utf8Size)

/-- The count at the beginning of a text, and how many bytes it takes. -/
def scanRepeat : List Char → Cutting (Nat × Nat)
  | '{' :: body =>
    match Text.offset? '}' body with
    | none => throw .unterminatedRepeat
    | some stop => do
      let (digits, _) ← Text.cutAt? stop body
      match readCount? digits with
      | none => throw (.invalidRepeat (String.ofList digits))
      | some count =>
        if maxCount < count then throw (.repeatTooLarge count maxCount)
        else return (count, stop + 2)
  | _ => return (1, 0)

/-- The item at the beginning of a text whose first character is `c`, and what follows it. -/
def scanItem (c : Char) (text : List Char) : Cutting (Item × List Char) := do
  let (choices, taken) ← scanChoices c text
  let (_, text) ← Text.cutAt? taken text
  let (count, taken) ← scanRepeat text
  let (_, text) ← Text.cutAt? taken text
  return (⟨choices, count⟩, text)

/-- **The scan of a text** in at most `passes` passes, each of which takes an item from the text and
draws its characters. -/
def scanFrom (source : RandomSource σ) :
    (passes : Nat) → List Char → σ → Cutting (List Char × σ)
  | _, [], state => return ([], state)
  | 0, _ :: _, _ => Cutting.nothing
  | passes + 1, c :: cs, state => do
    let (item, text) ← scanItem c (c :: cs)
    let (drawn, state) := (source.pickMany item.choices item.count).run state
    let (others, state) ← scanFrom source passes text state
    return (drawn ++ others, state)

/-- **The scan of a pattern**, in no more passes than it has characters. -/
def scan (source : RandomSource σ) (pattern : String) (state : σ) : Cutting (String × σ) :=
  if pattern = "" then throw .emptyPattern
  else do
    let (drawn, state) ← scanFrom source pattern.length pattern.toList state
    return (String.ofList drawn, state)

/-! ### One item -/

theorem scanChoices_bracket (hbody : ']' ∉ body) (rest : List Char) :
    scanChoices '[' ('[' :: (body ++ ']' :: rest)) = Cutting.ofExcept
      ((classSet body).map fun set => (set, Text.byteCount ('[' :: body) + 1)) := by
  have hclose : Text.offset? ']' ('[' :: (body ++ ']' :: rest)) =
      some (Text.byteCount ('[' :: body)) :=
    Text.offset?_append_cons (List.not_mem_cons_of_ne_of_not_mem (by decide) hbody)
  have hslice : Text.sliceBytes? 1 (Text.byteCount ('[' :: body))
      ('[' :: (body ++ ']' :: rest)) = some body :=
    @Text.sliceBytes?_append ['['] (']' :: rest) body
  rw [scanChoices, if_pos rfl, hclose]
  dsimp only
  rw [hslice, Cutting.liftM_some_bind]
  cases classSet body with
  | error error => rfl
  | ok set => rfl

/-- The first part of an item is scanned, with its bytes. -/
theorem scanChoices_of_isChoice (h : IsChoice (c :: front) choices) (rest : List Char) :
    scanChoices c (c :: (front ++ rest)) =
      Cutting.ofExcept (.ok (choices, Text.byteCount (c :: front))) := by
  generalize hfront : c :: front = text at h ⊢
  cases h with
  | @bracket body set hbody hset =>
    cases hfront
    rw [List.append_assoc, List.singleton_append, scanChoices_bracket hbody,
      classSet_eq_ok_iff.mpr hset, ← List.cons_append, Text.byteCount_append]
    rfl
  | escape d =>
    cases hfront
    rfl
  | literal hbracket hescape =>
    cases hfront
    rw [scanChoices, if_neg hbracket, if_neg hescape]
    rfl

theorem scanChoices_of_error (h : readChoices c cs = .error error) :
    scanChoices c (c :: cs) = Cutting.ofExcept (.error error) := by
  rcases readChoices_eq_error_iff.mp h with
    ⟨rfl, ⟨hclose, rfl⟩ | ⟨body, rest, hbody, rfl, hset⟩⟩ | ⟨rfl, rfl, rfl⟩
  · have hnone : Text.offset? ']' ('[' :: cs) = none :=
      Text.offset?_of_notMem (List.not_mem_cons_of_ne_of_not_mem (by decide) hclose)
    rw [scanChoices, if_pos rfl, hnone]
    rfl
  · rw [scanChoices_bracket hbody, hset]
    rfl
  · rfl

theorem scanRepeat_of_braces (hbody : '}' ∉ body) (rest : List Char) :
    scanRepeat ('{' :: (body ++ '}' :: rest)) = Cutting.ofExcept
      (match readCount? body with
      | none => .error (.invalidRepeat (String.ofList body))
      | some count =>
        if maxCount < count then .error (.repeatTooLarge count maxCount)
        else .ok (count, Text.byteCount body + 2)) := by
  rw [scanRepeat, Text.offset?_append_cons hbody]
  dsimp only
  rw [Text.cutAt?_append, Cutting.liftM_some_bind]
  dsimp only
  cases readCount? body with
  | none => rfl
  | some count =>
    dsimp only
    split
    · rfl
    · rfl

/-- The second part of an item is scanned, with its bytes. -/
theorem scanRepeat_of_isCount {count : List Char} (hcount : IsCount count n)
    (honce : count = [] → ∀ others, rest ≠ '{' :: others) :
    scanRepeat (count ++ rest) = Cutting.ofExcept (.ok (n, Text.byteCount count)) := by
  cases hcount with
  | once => exact scanRepeat.eq_2 _ (honce rfl)
  | @times body _ hnumber hle =>
    rw [List.cons_append, List.append_assoc, List.singleton_append,
      scanRepeat_of_braces hnumber.notMem_brace, readCount?_eq_some_iff.mpr hnumber]
    dsimp only
    rw [if_neg (not_lt.mpr hle), Text.byteCount_cons, Text.byteCount_append]
    have hbytes : Text.byteCount body + 2 = '{'.utf8Size + (Text.byteCount body + 1) := by
      rw [Nat.add_left_comm]
      rfl
    rw [hbytes]
    rfl

theorem scanRepeat_of_error (h : readRepeat cs = .error error) :
    scanRepeat cs = Cutting.ofExcept (.error error) := by
  obtain ⟨others, rfl, ⟨hclose, rfl⟩ | ⟨body, rest, hbody, rfl, -⟩⟩ :=
    readRepeat_eq_error_iff.mp h
  · rw [scanRepeat, Text.offset?_of_notMem hclose]
    rfl
  · rw [readRepeat_of_braces hbody] at h
    rw [scanRepeat_of_braces hbody]
    cases hcount : readCount? body with
    | none =>
      rw [hcount] at h
      cases h
      rfl
    | some count =>
      rw [hcount] at h
      dsimp only at h ⊢
      split at h
      · next hlt =>
        cases h
        rw [if_pos hlt]
      · cases h

/-- **One pass of the scan** takes the item that is read. -/
theorem scanItem_eq (c : Char) (cs : List Char) :
    scanItem c (c :: cs) = Cutting.ofExcept
      ((readChoices c cs).bind fun (choices, rest) =>
        (readRepeat rest).map fun (count, rest) => (⟨choices, count⟩, rest)) := by
  cases hchoices : readChoices c cs with
  | error error =>
    rw [scanItem, scanChoices_of_error hchoices]
    rfl
  | ok result =>
    obtain ⟨choices, rest⟩ := result
    obtain ⟨front, hchoice, rfl⟩ := readChoices_eq_ok_iff.mp hchoices
    rw [scanItem, scanChoices_of_isChoice hchoice, Cutting.ofExcept_ok_bind]
    dsimp only
    rw [← List.cons_append, Text.cutAt?_append, Cutting.liftM_some_bind]
    simp only [Except.bind]
    cases hcount : readRepeat rest with
    | error error =>
      rw [scanRepeat_of_error hcount]
      rfl
    | ok result =>
      obtain ⟨n, rest⟩ := result
      obtain ⟨count, hfound, honce, rfl⟩ := readRepeat_eq_ok_iff.mp hcount
      rw [scanRepeat_of_isCount hfound honce, Cutting.ofExcept_ok_bind]
      dsimp only
      rw [Text.cutAt?_append]
      rfl

/-! ### All items -/

/-- **The scan of a text** draws from the items that are read, with as many passes as there are
characters. -/
theorem scanFrom_eq (source : RandomSource σ) {passes : Nat} (h : cs.length ≤ passes) (state : σ) :
    scanFrom source passes cs state =
      Cutting.ofExcept ((readItems cs).map fun items => (draw source items).run state) := by
  -- Induction on the passes: each takes at least one character.
  induction passes generalizing cs state with
  | zero =>
    obtain rfl := List.eq_nil_of_length_eq_zero (Nat.le_zero.mp h)
    rw [scanFrom, readItems]
    rfl
  | succ passes ih =>
    cases cs with
    | nil =>
      rw [scanFrom, readItems]
      rfl
    | cons c cs =>
      rw [scanFrom, scanItem_eq, readItems_cons]
      cases hchoices : readChoices c cs with
      | error error => rfl
      | ok result =>
        obtain ⟨choices, rest⟩ := result
        have hrest := length_readChoices hchoices
        simp only [Except.bind]
        cases hcount : readRepeat rest with
        | error error => rfl
        | ok result =>
          obtain ⟨n, rest'⟩ := result
          have hrest' := length_readRepeat hcount
          have hlength : rest'.length ≤ passes := by
            simp only [List.length_cons] at h
            omega
          simp only [Except.map, Cutting.ofExcept_ok_bind, ih hlength]
          cases readItems rest' with
          | error error => rfl
          | ok items => rfl

/-- **The scan of a pattern comes to what is generated**: every cut succeeds, and the scan ends. -/
theorem scan_eq (source : RandomSource σ) (pattern : String) (state : σ) :
    scan source pattern state = Cutting.ofExcept (generate source pattern state) := by
  unfold scan generate read
  split
  · rfl
  · rw [scanFrom_eq source (le_of_eq String.length_toList) state]
    cases readItems pattern.toList with
    | error error => rfl
    | ok items => rfl

/-! ## Values -/

/-- **A value of items**: for each item in order as many of its choices as it counts. -/
def IsDrawn (items : List Item) (value : List Char) : Prop :=
  ∃ parts : List (List Char), value = parts.flatten ∧
    List.Forall₂ (fun item part => part.length = item.count ∧ ∀ c ∈ part, c ∈ item.choices)
      items parts

/-- **A pattern with its items.** -/
structure IsPattern (pattern : String) (items : List Item) : Prop where
  ne_empty : pattern ≠ ""
  reads : ReadsItems pattern.toList items []

/-- **What is wrong with a text that is no pattern**: it is empty, or has a fault behind the items
that can be read. -/
inductive IsFaulty (pattern : String) : PatternError → Prop
  | empty (h : pattern = "") : IsFaulty pattern .emptyPattern
  | behind {items : List Item} {tail : List Char} {error : PatternError}
    (hitems : ReadsItems pattern.toList items tail) (hfault : HasFault tail error) :
    IsFaulty pattern error

theorem isDrawn_draw (source : RandomSource σ) (h : ∀ item ∈ items, item.choices ≠ [])
    (state : σ) : IsDrawn items ((draw source items).run state).1 := by
  induction items generalizing state with
  | nil => exact ⟨[], rfl, .nil⟩
  | cons item rest ih =>
    obtain ⟨hitem, hrest⟩ := List.forall_mem_cons.mp h
    obtain ⟨parts, hparts, hdrawn⟩ :=
      ih hrest ((source.pickMany item.choices item.count).run state).2
    refine ⟨((source.pickMany item.choices item.count).run state).1 :: parts, ?_,
      .cons ⟨source.length_pickMany hitem _ _, source.mem_of_mem_pickMany⟩ hdrawn⟩
    rw [List.flatten_cons, ← hparts]
    rfl

theorem read_eq_ok_iff : read pattern = .ok items ↔ IsPattern pattern items := by
  unfold read
  split
  · next hempty => exact ⟨nofun, fun h => absurd hempty h.ne_empty⟩
  · next hne => exact readItems_eq_ok_iff.trans ⟨fun h => ⟨hne, h⟩, fun h => h.reads⟩

theorem read_eq_error_iff : read pattern = .error error ↔ IsFaulty pattern error := by
  unfold read
  split
  · next hempty =>
    constructor
    · rintro ⟨⟩
      exact .empty hempty
    · intro h
      cases h with
      | empty => rfl
      | behind hitems hfault =>
        rw [hempty] at hitems
        have hread := readItems_eq_error_iff.mpr ⟨_, _, hitems, hfault⟩
        rw [String.toList_empty, readItems] at hread
        cases hread
  · next hne =>
    rw [readItems_eq_error_iff]
    constructor
    · rintro ⟨items, tail, hitems, hfault⟩
      exact .behind hitems hfault
    · intro h
      cases h with
      | empty hempty => exact absurd hempty hne
      | behind hitems hfault => exact ⟨_, _, hitems, hfault⟩

/-- The values of a pattern. -/
theorem exists_generate_of_isPattern (h : IsPattern pattern items) (source : RandomSource σ)
    (state : σ) : ∃ value after, generate source pattern state = .ok (value, after) ∧
      value.length = drawCount items ∧ IsDrawn items value.toList := by
  have hread := read_eq_ok_iff.mpr h
  have hchoices := choices_ne_nil_of_read hread
  refine ⟨String.ofList ((draw source items).run state).1, ((draw source items).run state).2, ?_,
    ?_, ?_⟩
  · rw [generate, hread]
    rfl
  · rw [String.length_ofList, length_draw hchoices]
  · rw [String.toList_ofList]
    exact isDrawn_draw source hchoices state

/-- **The language of patterns.** A text is a pattern with one sequence of items, and all sources
draw values of these items, which are of one length; or it is faulty, and no source draws a value,
for the same fault. A value is drawn without ever cutting the pattern within a character or beyond
its end. -/
theorem generate_language (first : RandomSource σ) (second : RandomSource τ) (pattern : String)
    (state : σ) (other : τ) :
    (∀ error, generate first pattern state = .error error ↔ IsFaulty pattern error) ∧
      ((∃ error, generate first pattern state = .error error ∧
          generate second pattern other = .error error) ∨
        ∃ items, IsPattern pattern items ∧ (∀ others, IsPattern pattern others → others = items) ∧
          ∃ value after value' after', generate first pattern state = .ok (value, after) ∧
            generate second pattern other = .ok (value', after') ∧
            value.length = value'.length ∧
            IsDrawn items value.toList ∧ IsDrawn items value'.toList) ∧
      scan first pattern state = Cutting.ofExcept (generate first pattern state) := by
  refine ⟨fun error => generate_eq_error_iff.trans read_eq_error_iff, ?_,
    scan_eq first pattern state⟩
  cases hread : read pattern with
  | error error =>
    exact .inl ⟨error, generate_eq_error_iff.mpr hread, generate_eq_error_iff.mpr hread⟩
  | ok items =>
    have hitems := read_eq_ok_iff.mp hread
    obtain ⟨value, after, hvalue, hlength, hdrawn⟩ :=
      exists_generate_of_isPattern hitems first state
    obtain ⟨value', after', hvalue', hlength', hdrawn'⟩ :=
      exists_generate_of_isPattern hitems second other
    refine .inr ⟨items, hitems, fun others hothers => ?_, value, after, value', after', hvalue,
      hvalue', hlength.trans hlength'.symm, hdrawn, hdrawn'⟩
    have hagain := read_eq_ok_iff.mpr hothers
    rw [hread] at hagain
    exact (Except.ok.inj hagain).symm

end VmProvisioning.Pattern
