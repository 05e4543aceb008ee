import Mathlib.Data.Finset.Dedup
import Mathlib.Data.Finset.Insert
import Mathlib.Data.List.TakeWhile
import VmProvisioning.Proofs.Fields
import VmProvisioning.Proofs.Text.Pieces
import VmProvisioning.Template.Reference

/-!
# The one way to read references

Which references a text has depends on the names of the parameters alone. References never overlap,
as each has its only dollar sign in front, so there is one way to cut a text into characters and
references such that no reference is missed. Putting in values is then a matter of each piece on
its own: a value is never read again, and what is no reference stays as it is.

## Main definitions

* `IsName`, `RefersTo`: the references to a set of parameters
* `IsSegmentation`: a text cut into characters and all its references
* `scan`: values put in by a search for the braces of one reference after the other

## Main results

* `isSegmentation_segments`, `IsSegmentation.eq_segments`: the segments of a text are its only
  segmentation
* `scan_eq_flatMap_fill`: the search finds the same references
* `exists_segmentation_fillText`: filling in any values follows the one segmentation
-/

namespace VmProvisioning

/-! ## References -/

namespace Reference

/-- **A name that can be referred to**: letters, digits and underscores, at least one. -/
structure IsName (name : String) : Prop where
  ne_empty : name ≠ ""
  chars : ∀ c ∈ name.toList, isNameChar c = true

/-- **A reference to one of the parameters** with the given names. -/
inductive RefersTo (names : Finset String) : Segment → Prop
  | intro {name : String} {isDouble : Bool} (hname : IsName name) (hmem : name ∈ names) :
    RefersTo names (.reference name isDouble)

/-- The text before the name of a reference. -/
def opening : Bool → List Char
  | true => ['$', '{', '{']
  | false => ['$', '{']

/-- The text behind the name of a reference. -/
def closing : Bool → List Char
  | true => ['}', '}']
  | false => ['}']

variable {names : Finset String} {values : Fields String} {name : String} {isDouble : Bool}
  {segment : Segment} {cs rest before after : List Char}

theorem source_reference :
    (Segment.reference name isDouble).source =
      opening isDouble ++ name.toList ++ closing isDouble := by
  cases isDouble with
  | true => rfl
  | false => rfl

theorem isNameChar_brace {c : Char} (h : isNameChar c = true) : c ≠ '$' ∧ c ≠ '{' ∧ c ≠ '}' := by
  refine ⟨?_, ?_, ?_⟩
  · rintro rfl
    exact absurd h (by decide)
  · rintro rfl
    exact absurd h (by decide)
  · rintro rfl
    exact absurd h (by decide)

theorem IsName.exists_cons (h : IsName name) : ∃ c cs, name.toList = c :: cs := by
  cases hcs : name.toList with
  | nil => exact absurd (String.toList_eq_nil_iff.mp hcs) h.ne_empty
  | cons c cs => exact ⟨c, cs, rfl⟩

/-- The characters of a name are taken up to the closing braces. -/
theorem IsName.takeWhile_append (h : IsName name) (isDouble : Bool) (rest : List Char) :
    (name.toList ++ closing isDouble ++ rest).takeWhile isNameChar = name.toList ∧
      (name.toList ++ closing isDouble ++ rest).dropWhile isNameChar =
        closing isDouble ++ rest := by
  rw [List.append_assoc, List.takeWhile_append_of_pos h.chars, List.dropWhile_append_of_pos h.chars]
  cases isDouble with
  | true => simp [closing, isNameChar]
  | false => simp [closing, isNameChar]

theorem readName?_eq_some_iff :
    readName? isDouble cs = some (segment, rest) ↔ ∃ name, IsName name ∧
      segment = .reference name isDouble ∧ cs = name.toList ++ closing isDouble ++ rest := by
  constructor
  · intro h
    have hsplit : cs.takeWhile isNameChar ++ cs.dropWhile isNameChar = cs :=
      List.takeWhile_append_dropWhile
    have hname (hne : cs.takeWhile isNameChar ≠ []) :
        IsName (String.ofList (cs.takeWhile isNameChar)) :=
      ⟨by simpa using hne, fun c hc => List.mem_takeWhile_imp (by simpa using hc)⟩
    unfold readName? at h
    split at h
    · cases h
    · next hne =>
      split at h
      · next hdrop =>
        cases h
        refine ⟨_, hname hne, rfl, ?_⟩
        simp [closing, ← hdrop]
      · next hdrop =>
        cases h
        refine ⟨_, hname hne, rfl, ?_⟩
        simp [closing, ← hdrop]
      · cases h
  · rintro ⟨name, hname, rfl, rfl⟩
    obtain ⟨c, chars, hcons⟩ := hname.exists_cons
    obtain ⟨htake, hdrop⟩ := hname.takeWhile_append isDouble rest
    unfold readName?
    rw [htake, hdrop, hcons]
    cases isDouble with
    | true => simp [closing, ← hcons]
    | false => simp [closing, ← hcons]

theorem readReference?_eq_some_iff :
    readReference? cs = some (segment, rest) ↔ ∃ name isDouble, IsName name ∧
      segment = .reference name isDouble ∧ cs = segment.source ++ rest := by
  constructor
  · intro h
    unfold readReference? at h
    split at h
    · obtain ⟨name, hname, rfl, rfl⟩ := readName?_eq_some_iff.mp h
      exact ⟨name, true, hname, rfl, by simp [source_reference, opening]⟩
    · obtain ⟨name, hname, rfl, rfl⟩ := readName?_eq_some_iff.mp h
      exact ⟨name, false, hname, rfl, by simp [source_reference, opening]⟩
    · cases h
  · rintro ⟨name, isDouble, hname, rfl, rfl⟩
    rw [source_reference]
    cases isDouble with
    | true => exact readName?_eq_some_iff.mpr ⟨name, hname, rfl, rfl⟩
    | false =>
      -- A name does not begin with a brace, so one brace is not taken for two.
      obtain ⟨c, chars, hcons⟩ := hname.exists_cons
      have hc : c ≠ '{' := (isNameChar_brace (hname.chars c (by simp [hcons]))).2.1
      have hread : readName? false (name.toList ++ closing false ++ rest) =
          some (.reference name false, rest) :=
        readName?_eq_some_iff.mpr ⟨name, hname, rfl, rfl⟩
      rw [hcons] at hread ⊢
      simp only [opening, List.cons_append, List.nil_append] at hread ⊢
      unfold readReference?
      split
      · next heq =>
        cases heq
        exact absurd rfl hc
      · next heq =>
        cases heq
        exact hread
      · next hne => exact absurd rfl (hne _)

theorem readBound?_eq_some_iff (hnames : (Fields.keys values).toFinset = names) :
    readBound? values cs = some (segment, rest) ↔
      RefersTo names segment ∧ cs = segment.source ++ rest := by
  have hbound (name : String) : Fields.contains values name = true ↔ name ∈ names := by
    rw [← hnames, List.mem_toFinset]
    exact Fields.get?_isSome_iff
  rw [readBound?, Option.filter_eq_some_iff, readReference?_eq_some_iff]
  constructor
  · rintro ⟨⟨name, isDouble, hname, rfl, hcs⟩, hcontains⟩
    exact ⟨.intro hname ((hbound name).mp hcontains), hcs⟩
  · rintro ⟨⟨hname, hmem⟩, hcs⟩
    exact ⟨⟨_, _, hname, rfl, hcs⟩, (hbound _).mpr hmem⟩

/-! ## Segmentations -/

/-- **A segmentation of a text**: characters and references that make up the text, such that every
reference that occurs in the text is one of them. -/
structure IsSegmentation (names : Finset String) (text : List Char) (segmentation : List Segment) :
    Prop where
  source : segmentation.flatMap Segment.source = text
  refersTo : ∀ segment ∈ segmentation, (∃ c, segment = .literal c) ∨ RefersTo names segment
  complete : ∀ before segment after, RefersTo names segment →
    text = before ++ segment.source ++ after →
    ∃ front back, segmentation = front ++ segment :: back ∧
      front.flatMap Segment.source = before ∧ back.flatMap Segment.source = after

/-- A reference has its only dollar sign in front. -/
theorem RefersTo.exists_source_eq (h : RefersTo names segment) :
    ∃ tail, segment.source = '$' :: tail ∧ '$' ∉ tail := by
  cases h with
  | @intro name isDouble hname hmem =>
    have hchars : '$' ∉ name.toList := by
      intro hdollar
      exact (isNameChar_brace (hname.chars _ hdollar)).1 rfl
    rw [source_reference]
    cases isDouble with
    | true => exact ⟨_, rfl, by simpa [closing] using hchars⟩
    | false => exact ⟨_, rfl, by simpa [closing] using hchars⟩

theorem source_ne_nil (segment : Segment) : segment.source ≠ [] := by
  cases segment with
  | literal c => exact List.cons_ne_nil _ _
  | reference name isDouble =>
    rw [source_reference]
    cases isDouble with
    | true => exact List.cons_ne_nil _ _
    | false => exact List.cons_ne_nil _ _

/-- **A segmentation of a text with one more segment in front**, where every reference that occurs
is the first segment or stands behind it. -/
theorem IsSegmentation.cons {others : List Segment} (h : IsSegmentation names rest others)
    (hsegment : (∃ c, segment = .literal c) ∨ RefersTo names segment)
    (hfirst : ∀ before other after, RefersTo names other →
      segment.source ++ rest = before ++ other.source ++ after →
      (before = [] ∧ other = segment ∧ after = rest) ∨
        ∃ between, before = segment.source ++ between) :
    IsSegmentation names (segment.source ++ rest) (segment :: others) := by
  refine ⟨by rw [List.flatMap_cons, h.source], List.forall_mem_cons.mpr ⟨hsegment, h.refersTo⟩, ?_⟩
  intro before other after hother hoccurs
  rcases hfirst before other after hother hoccurs with ⟨rfl, rfl, rfl⟩ | ⟨between, rfl⟩
  · exact ⟨[], others, rfl, rfl, h.source⟩
  · have hrest : rest = between ++ other.source ++ after := by
      simpa using hoccurs
    obtain ⟨front, back, hsegments, hfront, hback⟩ := h.complete _ _ _ hother hrest
    refine ⟨segment :: front, back, by rw [hsegments, List.cons_append], ?_, hback⟩
    rw [List.flatMap_cons, hfront]

/-- **References do not overlap**: one that occurs behind the beginning of another one occurs
behind its end. -/
theorem RefersTo.exists_before_eq {other : Segment} (h : RefersTo names segment)
    (hother : RefersTo names other) (hne : before ≠ [])
    (heq : before ++ other.source ++ after = segment.source ++ rest) :
    ∃ between, before = segment.source ++ between := by
  obtain ⟨tail, hsource, htail⟩ := h.exists_source_eq
  obtain ⟨otherTail, hotherSource, -⟩ := hother.exists_source_eq
  rw [List.append_assoc] at heq
  rcases List.append_eq_append_iff.mp heq with ⟨overlap, hoverlap, hafter⟩ | ⟨between, hbetween, -⟩
  · cases overlap with
    | nil => exact ⟨[], by simpa using hoverlap.symm⟩
    | cons c overlap =>
      -- the second dollar sign would stand within the first reference
      exfalso
      obtain ⟨d, before, rfl⟩ := List.exists_cons_of_ne_nil hne
      rw [hotherSource] at hafter
      rw [hsource] at hoverlap
      obtain ⟨rfl, -⟩ := List.cons_eq_cons.mp hafter
      obtain ⟨-, rfl⟩ := List.cons_eq_cons.mp hoverlap
      exact htail (by simp)
  · exact ⟨between, hbetween⟩

section Segments

variable (hnames : (Fields.keys values).toFinset = names)
include hnames

/-- A reference at the beginning of a text is its first segment. -/
theorem segments_of_refersTo (h : RefersTo names segment) :
    segments values (segment.source ++ rest) = segment :: segments values rest := by
  obtain ⟨c, cs, hcons⟩ := List.exists_cons_of_ne_nil (source_ne_nil segment)
  have hread : readBound? values (c :: (cs ++ rest)) = some (segment, rest) :=
    (readBound?_eq_some_iff hnames).mpr ⟨h, by rw [hcons, List.cons_append]⟩
  rw [hcons, List.cons_append, segments]
  split
  · next found rest' hfound =>
    rw [hread] at hfound
    cases hfound
    rfl
  · next hnone =>
    rw [hread] at hnone
    cases hnone

/-- A character that begins no reference is the first segment. -/
theorem segments_of_not_refersTo {c : Char}
    (h : ∀ segment rest, RefersTo names segment → c :: cs ≠ segment.source ++ rest) :
    segments values (c :: cs) = .literal c :: segments values cs := by
  rw [segments]
  split
  · next segment rest hfound =>
    obtain ⟨hrefers, heq⟩ := (readBound?_eq_some_iff hnames).mp hfound
    exact absurd heq (h segment rest hrefers)
  · rfl

/-- **The segments of a text are a segmentation.** -/
theorem isSegmentation_segments (cs : List Char) :
    IsSegmentation names cs (segments values cs) := by
  -- Induction along the reading: the first segment is a reference, or a character.
  induction cs using segments.induct values with
  | case1 =>
    rw [segments]
    refine ⟨rfl, by simp, ?_⟩
    intro before segment after _ heq
    exact absurd heq (by simp [source_ne_nil])
  | case2 c cs segment rest hread ih =>
    obtain ⟨hrefers, heq⟩ := (readBound?_eq_some_iff hnames).mp hread
    rw [heq, segments_of_refersTo hnames hrefers]
    refine ih.cons (.inr hrefers) ?_
    intro before other after hother hoccurs
    by_cases hbefore : before = []
    -- two references at one place are the same
    · subst hbefore
      have hreads : readBound? values (segment.source ++ rest) = some (other, after) :=
        (readBound?_eq_some_iff hnames).mpr ⟨hother, hoccurs⟩
      rw [← heq, hread] at hreads
      cases hreads
      exact .inl ⟨rfl, rfl, rfl⟩
    · exact .inr (hrefers.exists_before_eq hother hbefore hoccurs.symm)
  | case3 c cs hread ih =>
    have hnone : ∀ segment rest, RefersTo names segment → c :: cs ≠ segment.source ++ rest := by
      intro segment rest hrefers heq
      rw [(readBound?_eq_some_iff hnames).mpr ⟨hrefers, heq⟩] at hread
      cases hread
    rw [segments_of_not_refersTo hnames hnone]
    show IsSegmentation names ((Segment.literal c).source ++ cs) _
    refine ih.cons (.inl ⟨c, rfl⟩) ?_
    intro before other after hother hoccurs
    cases before with
    | nil => exact absurd hoccurs (hnone other after hother)
    | cons d before =>
      obtain ⟨rfl, -⟩ := List.cons_eq_cons.mp hoccurs
      exact .inr ⟨before, rfl⟩

end Segments

/-- What follows the first segment has a segmentation of its own. -/
theorem IsSegmentation.exists_tail {text : List Char} {others : List Segment}
    (h : IsSegmentation names text (segment :: others)) :
    ∃ rest, text = segment.source ++ rest ∧ IsSegmentation names rest others := by
  refine ⟨others.flatMap Segment.source, by rw [← h.source, List.flatMap_cons], rfl, ?_, ?_⟩
  · exact fun other hother => h.refersTo other (List.mem_cons_of_mem _ hother)
  · intro before other after hother hoccurs
    have htext : text = segment.source ++ before ++ other.source ++ after := by
      rw [← h.source, List.flatMap_cons, hoccurs]
      simp only [List.append_assoc]
    obtain ⟨front, back, hsplit, hfront, hback⟩ := h.complete _ other _ hother htext
    cases front with
    | nil => exact absurd hfront.symm (by simp [source_ne_nil])
    | cons first front =>
      obtain ⟨rfl, rfl⟩ := List.cons_eq_cons.mp hsplit
      refine ⟨front, back, rfl, ?_, hback⟩
      rw [List.flatMap_cons] at hfront
      exact List.append_cancel_left hfront

/-- **There is no other segmentation**: a character can be taken as it is only where no reference
begins, as every reference that occurs has to be a segment. -/
theorem IsSegmentation.eq_segments (hnames : (Fields.keys values).toFinset = names)
    {text : List Char} {segmentation : List Segment} (h : IsSegmentation names text segmentation) :
    segmentation = segments values text := by
  -- Induction on the segmentation: its first segment is the one that is read first.
  induction segmentation generalizing text with
  | nil =>
    obtain rfl : [] = text := h.source
    rw [segments]
  | cons segment others ih =>
    obtain ⟨rest, rfl, hrest⟩ := h.exists_tail
    rcases h.refersTo segment List.mem_cons_self with ⟨c, rfl⟩ | hrefers
    · have hnone : ∀ other after, RefersTo names other → c :: rest ≠ other.source ++ after := by
        intro other after hother hoccurs
        obtain ⟨front, back, hsplit, hfront, -⟩ := h.complete [] other after hother hoccurs
        cases front with
        | nil =>
          obtain ⟨rfl, -⟩ := List.cons_eq_cons.mp hsplit
          cases hother
        | cons first front => exact absurd hfront (by simp [source_ne_nil])
      rw [ih hrest]
      exact (segments_of_not_refersTo hnames hnone).symm
    · rw [ih hrest, segments_of_refersTo hnames hrefers]

/-! ## Searching for braces -/

/-- The name that a reference would have behind its opening, and what follows the reference: the
text up to the first closing brace, or pair of braces. -/
def nameUpToBraces : List Char → List Char × List Char
  | '{' :: inner => (Text.cut? ['}', '}'] inner).getD ([], '{' :: inner)
  | after => (Text.cut? ['}'] after).getD ([], after)

/-- The value of a parameter, if its name can be referred to. -/
def valueOf? (values : Fields String) (name : List Char) : Option String :=
  (Fields.get? values (String.ofList name)).filter fun _ => !name.isEmpty && name.all isNameChar

theorem length_getD_cut? (needle cs : List Char) :
    ((Text.cut? needle cs).getD ([], cs)).2.length ≤ cs.length := by
  cases hcut : Text.cut? needle cs with
  | none => exact le_rfl
  | some parts => exact Text.length_cut? hcut

theorem length_nameUpToBraces (after : List Char) :
    (nameUpToBraces after).2.length ≤ after.length := by
  unfold nameUpToBraces
  split
  · next inner =>
    cases hcut : Text.cut? ['}', '}'] inner with
    | none => exact le_rfl
    | some parts => exact Nat.le_succ_of_le (Text.length_cut? hcut)
  · exact length_getD_cut? _ _

theorem length_cut?_opening (h : Text.cut? ['$', '{'] cs = some (before, after)) :
    after.length < cs.length := by
  rw [Text.eq_append_of_cut? (List.cons_ne_nil _ _) h]
  simp only [List.length_append, List.length_cons]
  omega

/-- **Values put in by searching**: the text up to the next opening brace stays as it is, and then
the value comes for the name up to the closing brace. Where there is none, the search goes on
behind the opening brace. -/
def scan (values : Fields String) (cs : List Char) : List Char :=
  match _ : Text.cut? ['$', '{'] cs with
  | none => cs
  | some (before, after) =>
    match valueOf? values (nameUpToBraces after).1 with
    | some value => before ++ (value.toList ++ scan values (nameUpToBraces after).2)
    | none => before ++ ('$' :: '{' :: scan values after)
termination_by cs.length
decreasing_by
  · exact (length_nameUpToBraces after).trans_lt (length_cut?_opening ‹_›)
  · exact length_cut?_opening ‹_›

/-- References begin with the braces that are searched for. -/
theorem RefersTo.isPrefixOf_source (h : RefersTo names segment) (rest : List Char) :
    ['$', '{'].isPrefixOf (segment.source ++ rest) = true := by
  cases h with
  | @intro name isDouble hname hmem =>
    rw [source_reference]
    cases isDouble with
    | true => rfl
    | false => rfl

section Scan

variable (hnames : (Fields.keys values).toFinset = names)
include hnames

/-- A character is the first segment where the braces that are searched for do not stand. -/
theorem segments_of_not_isPrefixOf {c : Char} (h : ¬['$', '{'].isPrefixOf (c :: cs) = true) :
    segments values (c :: cs) = .literal c :: segments values cs := by
  refine segments_of_not_refersTo hnames fun segment rest hrefers hoccurs => h ?_
  rw [hoccurs]
  exact hrefers.isPrefixOf_source rest

/-- There is no reference before the braces that are found. -/
theorem segments_of_cut? (h : Text.cut? ['$', '{'] cs = some (before, after)) :
    segments values cs = before.map .literal ++ segments values ('$' :: '{' :: after) := by
  -- Induction along the search: up to the braces every character is a segment of its own.
  induction cs generalizing before with
  | nil => simp [Text.cut?] at h
  | cons c cs ih =>
    rw [Text.cut?] at h
    split at h
    · next hopens =>
      obtain ⟨tail, htail⟩ := List.isPrefixOf_iff_prefix.mp hopens
      cases h
      rw [← htail]
      rfl
    · next hopens =>
      obtain ⟨⟨front, back⟩, hcut, heq⟩ := Option.map_eq_some_iff.mp h
      cases heq
      rw [segments_of_not_isPrefixOf hnames hopens, ih hcut]
      rfl

/-- Without the braces that are searched for there is no reference. -/
theorem segments_of_cut?_eq_none (h : Text.cut? ['$', '{'] cs = none) :
    segments values cs = cs.map .literal := by
  induction cs with
  | nil => rw [segments, List.map_nil]
  | cons c cs ih =>
    rw [Text.cut?] at h
    split at h
    · cases h
    · next hopens =>
      rw [segments_of_not_isPrefixOf hnames hopens, ih (Option.map_eq_none_iff.mp h),
        List.map_cons]

end Scan

/-- A name that is found stands between the braces of a reference. -/
theorem exists_eq_of_nameUpToBraces {found : List Char} (h : nameUpToBraces after = (found, rest))
    (hne : found ≠ []) :
    ∃ isDouble, '$' :: '{' :: after = opening isDouble ++ found ++ closing isDouble ++ rest := by
  unfold nameUpToBraces at h
  split at h
  · next inner =>
    cases hcut : Text.cut? ['}', '}'] inner with
    | none =>
      rw [hcut] at h
      cases h
      exact absurd rfl hne
    | some parts =>
      rw [hcut] at h
      cases h
      refine ⟨true, ?_⟩
      rw [Text.eq_append_of_cut? (List.cons_ne_nil _ _) hcut]
      simp [opening, closing]
  · cases hcut : Text.cut? ['}'] after with
    | none =>
      rw [hcut] at h
      cases h
      exact absurd rfl hne
    | some parts =>
      rw [hcut] at h
      cases h
      refine ⟨false, ?_⟩
      rw [Text.eq_append_of_cut? (List.cons_ne_nil _ _) hcut]
      simp [opening, closing]

/-- The name of a reference is found. -/
theorem IsName.nameUpToBraces_eq (h : IsName name)
    (hoccurs : '$' :: '{' :: after = (Segment.reference name isDouble).source ++ rest) :
    nameUpToBraces after = (name.toList, rest) := by
  have hbrace : '}' ∉ name.toList := by
    intro hmem
    exact (isNameChar_brace (h.chars _ hmem)).2.2 rfl
  rw [source_reference] at hoccurs
  cases isDouble with
  | true =>
    obtain rfl : after = '{' :: (name.toList ++ (['}', '}'] ++ rest)) := by
      simpa [opening, closing] using hoccurs
    rw [nameUpToBraces, Text.cut?_append_append hbrace]
    rfl
  | false =>
    obtain rfl : after = name.toList ++ (['}'] ++ rest) := by
      simpa [opening, closing] using hoccurs
    obtain ⟨c, chars, hcons⟩ := h.exists_cons
    have hc : c ≠ '{' := (isNameChar_brace (h.chars c (by simp [hcons]))).2.1
    unfold nameUpToBraces
    split
    · next heq =>
      rw [hcons] at heq
      cases heq
      exact absurd rfl hc
    · rw [Text.cut?_append_append hbrace]
      rfl

theorem valueOf?_eq_some_iff {found : List Char} {value : String} :
    valueOf? values found = some value ↔
      IsName (String.ofList found) ∧ Fields.get? values (String.ofList found) = some value := by
  rw [valueOf?, Option.filter_eq_some_iff, and_comm, Bool.and_eq_true_iff]
  refine and_congr_left fun _ => ⟨?_, ?_⟩
  · rintro ⟨hne, hchars⟩
    exact ⟨by simpa using hne, by simpa using hchars⟩
  · rintro ⟨hne, hchars⟩
    exact ⟨by simpa using hne, by simpa using hchars⟩

section Scan

variable (hnames : (Fields.keys values).toFinset = names)
include hnames

/-- Behind braces with the name of a parameter there is a reference. -/
theorem segments_of_valueOf? {found : List Char} {value : String}
    (hbraces : nameUpToBraces after = (found, rest)) (hvalue : valueOf? values found = some value) :
    ∃ isDouble, segments values ('$' :: '{' :: after) =
      .reference (String.ofList found) isDouble :: segments values rest := by
  obtain ⟨hname, hget⟩ := valueOf?_eq_some_iff.mp hvalue
  have hmem : String.ofList found ∈ names := by
    rw [← hnames, List.mem_toFinset, ← Fields.get?_isSome_iff, hget]
    rfl
  have hne : found ≠ [] := by
    intro hempty
    exact hname.ne_empty (by rw [hempty])
  obtain ⟨isDouble, hoccurs⟩ := exists_eq_of_nameUpToBraces hbraces hne
  refine ⟨isDouble, ?_⟩
  rw [hoccurs, ← segments_of_refersTo hnames (.intro hname hmem), source_reference,
    String.toList_ofList]

/-- Behind braces without the name of a parameter the reading goes on. -/
theorem segments_of_valueOf?_eq_none (h : valueOf? values (nameUpToBraces after).1 = none) :
    segments values ('$' :: '{' :: after) =
      .literal '$' :: .literal '{' :: segments values after := by
  have hdollar : ∀ segment rest, RefersTo names segment →
      '$' :: '{' :: after ≠ segment.source ++ rest := by
    intro segment rest hrefers hoccurs
    cases hrefers with
    | @intro name isDouble hname hmem =>
      rw [← hnames, List.mem_toFinset, ← Fields.get?_isSome_iff, Option.isSome_iff_exists] at hmem
      obtain ⟨value, hget⟩ := hmem
      have hvalue : valueOf? values name.toList = some value :=
        valueOf?_eq_some_iff.mpr (by rw [String.ofList_toList]; exact ⟨hname, hget⟩)
      rw [hname.nameUpToBraces_eq hoccurs, hvalue] at h
      cases h
  rw [segments_of_not_refersTo hnames hdollar, segments_of_not_isPrefixOf hnames (by simp)]

/-- **The search finds the references**, and puts in what they stand for. -/
theorem scan_eq_flatMap_fill (cs : List Char) :
    scan values cs = (segments values cs).flatMap (Segment.fill values) := by
  have hfill (before : List Char) :
      (before.map Segment.literal).flatMap (Segment.fill values) = before := by
    simp [List.flatMap_map, Segment.fill]
  -- Induction along the search.
  induction cs using scan.induct values with
  | case1 cs hcut =>
    rw [scan]
    split
    · rw [segments_of_cut?_eq_none hnames hcut, hfill]
    · next hfound =>
      rw [hcut] at hfound
      cases hfound
  | case2 cs before after hcut value hvalue ih =>
    obtain ⟨isDouble, hsegments⟩ := segments_of_valueOf? hnames (Prod.eta _).symm hvalue
    obtain ⟨-, hget⟩ := valueOf?_eq_some_iff.mp hvalue
    rw [segments_of_cut? hnames hcut, hsegments, List.flatMap_append, hfill, List.flatMap_cons,
      ← ih, Segment.fill, hget, Option.getD_some, scan]
    split
    · next hnone =>
      rw [hcut] at hnone
      cases hnone
    · next hfound =>
      rw [hcut] at hfound
      cases hfound
      simp only [hvalue]
  | case3 cs before after hcut hvalue ih =>
    rw [segments_of_cut? hnames hcut, segments_of_valueOf?_eq_none hnames hvalue,
      List.flatMap_append, hfill, List.flatMap_cons, List.flatMap_cons, ← ih, scan]
    split
    · next hnone =>
      rw [hcut] at hnone
      cases hnone
    · next hfound =>
      rw [hcut] at hfound
      cases hfound
      simp only [hvalue]
      rfl

end Scan

/-! ## One way to fill in values -/

/-- **A text falls into characters and references in one way**, by the names of the parameters
alone, and no reference that occurs is missed. Whatever values the parameters have, filling them in
takes every character as it is and every reference for its value, and so does the search for
braces. -/
theorem exists_segmentation_fillText (names : Finset String) (text : String) :
    ∃ segmentation, IsSegmentation names text.toList segmentation ∧
      (∀ other, IsSegmentation names text.toList other → other = segmentation) ∧
      ∀ values : Fields String, (Fields.keys values).toFinset = names →
        fillText values text = String.ofList (segmentation.flatMap (Segment.fill values)) ∧
        scan values text.toList = segmentation.flatMap (Segment.fill values) := by
  -- any values will do to read the text
  obtain ⟨blanks, hblanks⟩ : ∃ blanks : Fields String, (Fields.keys blanks).toFinset = names := by
    refine ⟨names.toList.map fun name => (name, ""), ?_⟩
    ext name
    simp [Fields.keys]
  have hsegmentation := isSegmentation_segments hblanks text.toList
  refine ⟨_, hsegmentation, fun other hother => hother.eq_segments hblanks, ?_⟩
  intro values hnames
  have hsegments : segments blanks text.toList = segments values text.toList :=
    hsegmentation.eq_segments hnames
  rw [hsegments, ← scan_eq_flatMap_fill hnames]
  refine ⟨?_, rfl⟩
  rw [scan_eq_flatMap_fill hnames, fillText]

/-- Values one of which looks like a reference. -/
def nestedValues : Fields String :=
  [("NAME", "${PASSWORD}"), ("PASSWORD", "hunter2")]

/-- One reference to each parameter and one to nothing: the value of the first is not read again. -/
theorem exists_segmentation_nestedValues :
    (Fields.keys nestedValues).toFinset = {"NAME", "PASSWORD"} ∧
      ∃ segmentation,
        IsSegmentation {"NAME", "PASSWORD"} "${NAME}:${{PASSWORD}}:${OTHER}".toList segmentation ∧
        fillText nestedValues "${NAME}:${{PASSWORD}}:${OTHER}" =
          String.ofList (segmentation.flatMap (Segment.fill nestedValues)) ∧
        fillText nestedValues "${NAME}:${{PASSWORD}}:${OTHER}" =
          "${PASSWORD}:hunter2:${OTHER}" := by
  have hnames : (Fields.keys nestedValues).toFinset = {"NAME", "PASSWORD"} := by decide
  obtain ⟨segmentation, hsegmentation, -, hfill⟩ :=
    exists_segmentation_fillText {"NAME", "PASSWORD"} "${NAME}:${{PASSWORD}}:${OTHER}"
  exact ⟨hnames, segmentation, hsegmentation, (hfill nestedValues hnames).1, by decide +kernel⟩

end Reference

end VmProvisioning
