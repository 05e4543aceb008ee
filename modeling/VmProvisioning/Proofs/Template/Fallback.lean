import Mathlib.Data.Option.Basic
import VmProvisioning.Proofs.Deployment.Materialization
import VmProvisioning.Proofs.Text.Pieces
import VmProvisioning.Template.Basic

/-!
# What the rules fall back on

A raw template with a name always has a normal form: the last rule for each property always applies.
What the rules decide is not blank, with two exceptions. The end of a label is an operating system
also when nothing but blanks and underscores stand in it, and the size of a disk is what is asked
for unless it is empty, also when it is blank.

## Main definitions

* `Text.IsNonblank`: a text with a character that is not blank
* `Classification.IsLabelledBlank`, `Classification.IsBlankRequested`: when a property is blank

## Main results

* `Classification.isNonblank_displayName`, `isNonblank_icon`, `isNonblank_of_mem_image`,
  `isNonblank_flavor`: properties that are never blank
* `Classification.isNonblank_operatingSystem_iff`, `isNonblank_diskSize_iff`: those that are blank
  now and then
* `Template.ofRaw_falls_back`: the normal form of every raw template
-/

namespace VmProvisioning

/-! ## Chains of rules -/

section Chain

variable {α : Type} {p : α → Prop} {first second : Option α} {default : α}

theorem forall_mem_or (hfirst : ∀ value ∈ first, p value) (hsecond : ∀ value ∈ second, p value) :
    ∀ value ∈ first.or second, p value := by
  intro value hvalue
  rcases Option.or_eq_some_iff.mp hvalue with hvalue | ⟨-, hvalue⟩
  · exact hfirst value hvalue
  · exact hsecond value hvalue

theorem getD_of_forall_mem (hfirst : ∀ value ∈ first, p value) (hdefault : p default) :
    p (first.getD default) := by
  cases first with
  | none => exact hdefault
  | some value => exact hfirst value rfl

end Chain

/-! ## Texts that are not blank -/

namespace Text

variable {c : Char} {cs needle : List Char} {text part : String}

/-- **A text that is not blank**: one of its characters is not. -/
def IsNonblank (text : String) : Prop :=
  ∃ c ∈ text.toList, isBlank c = false

theorem isBlankText_eq_false_iff : isBlankText text = false ↔ IsNonblank text :=
  List.all_eq_false.trans (by simp [IsNonblank])

instance : Decidable (IsNonblank text) :=
  decidable_of_iff _ isBlankText_eq_false_iff

theorem not_isNonblank_iff : ¬ IsNonblank text ↔ ∀ c ∈ text.toList, isBlank c = true := by
  simp [IsNonblank]

/-- What is found in a text is part of it. -/
theorem mem_of_occursIn (h : occursIn needle cs = true) (hc : c ∈ needle) : c ∈ cs := by
  obtain ⟨parts, hcut⟩ := Option.isSome_iff_exists.mp h
  rw [eq_append_of_cut? (List.ne_nil_of_mem hc) hcut]
  simp [hc]

theorem IsNonblank.of_contains (hpart : IsNonblank part) (h : contains text part = true) :
    IsNonblank text := by
  obtain ⟨c, hc, hblank⟩ := hpart
  exact ⟨c, mem_of_occursIn h hc, hblank⟩

/-- A text that is left when blanks are trimmed is not blank. -/
theorem isNonblank_trimBy (h : trimBy isBlank cs ≠ []) :
    IsNonblank (String.ofList (trimBy isBlank cs)) := by
  have hne : (cs.dropWhile isBlank).reverse.dropWhile isBlank ≠ [] :=
    fun hnil => h (by rw [trimBy, hnil, List.reverse_nil])
  refine ⟨_, ?_, List.head_dropWhile_not isBlank hne⟩
  rw [String.toList_ofList, trimBy, List.mem_reverse]
  exact List.head_mem hne

/-! ### Lower case -/

/-- The code points of the blank characters. -/
def blankCodes : List Nat :=
  [0x9, 0xA, 0xB, 0xC, 0xD, 0x20, 0x85, 0xA0, 0x1680, 0x2000, 0x2001, 0x2002, 0x2003, 0x2004,
   0x2005, 0x2006, 0x2007, 0x2008, 0x2009, 0x200A, 0x2028, 0x2029, 0x202F, 0x205F, 0x3000]

theorem toNat_mem_blankCodes (h : isBlank c = true) : c.toNat ∈ blankCodes := by
  simp only [isBlank, Bool.or_eq_true, Bool.and_eq_true, decide_eq_true_iff, beq_iff_eq] at h
  simp only [blankCodes, List.mem_cons, List.not_mem_nil, or_false]
  omega

/-- Blank characters have no upper case. -/
theorem lowerChar_of_isBlank (h : isBlank c = true) : lowerChar c = [c] := by
  have hcodes : ∀ code ∈ blankCodes, lowerChar (Char.ofNat code) = [Char.ofNat code] := by
    decide +kernel
  simpa using hcodes _ (toNat_mem_blankCodes h)

theorem lowerAfter_of_forall_isBlank (before : List Char) (h : ∀ c ∈ cs, isBlank c = true) :
    lowerAfter before cs = cs := by
  induction cs generalizing before with
  | nil => rfl
  | cons c cs ih =>
    obtain ⟨hc, hcs⟩ := List.forall_mem_cons.mp h
    have hne : c ≠ capitalSigma := by
      rintro rfl
      exact absurd hc (by decide)
    rw [lowerAfter, if_neg hne, lowerChar_of_isBlank hc, ih _ hcs, List.singleton_append]

/-- A blank text in lower case is the same. -/
theorem lowercase_of_not_isNonblank (h : ¬ IsNonblank text) : lowercase text = text := by
  rw [lowercase, lowerAfter_of_forall_isBlank _ (not_isNonblank_iff.mp h), String.ofList_toList]

end Text

open Text

namespace Classification

variable {name key text family : String} {annotations labels texts : Fields String}
  {table : List (String × String)} {ending rest : List Char} {objects : List Json}

/-! ## Names -/

theorem mem_intercalate {c : Char} {separator word : List Char} {words : List (List Char)}
    (hword : word ∈ words) (hc : c ∈ word) : c ∈ separator.intercalate words := by
  induction words with
  | nil => cases hword
  | cons first words ih =>
    cases words with
    | nil =>
      rw [List.mem_singleton.mp hword] at hc
      rwa [List.intercalate_singleton]
    | cons second words =>
      rw [List.intercalate_cons_cons, List.append_assoc, List.mem_append, List.mem_append]
      rcases List.mem_cons.mp hword with rfl | hword
      · exact .inl hc
      · exact .inr (.inr (ih hword))

theorem machineWord_mem_cleanWords (name : List Char) : machineWord ∈ cleanWords name := by
  unfold cleanWords
  dsimp only
  split
  · next hlast => exact List.mem_of_getLast? hlast
  · exact List.mem_append_right _ (List.mem_singleton.mpr rfl)

/-- A readable name is not blank: it ends in the word for a machine. -/
theorem isNonblank_cleanName (name : String) : IsNonblank (cleanName name) := by
  refine ⟨'V', ?_, by decide⟩
  rw [cleanName, String.toList_ofList]
  exact mem_intercalate (machineWord_mem_cleanWords _) (by decide)

/-! ## Annotations and tables -/

theorem isNonblank_of_mem_nonBlank? : ∀ value ∈ nonBlank? texts key, IsNonblank value := by
  intro value hvalue
  obtain ⟨-, hblank⟩ := Option.mem_filter_iff.mp hvalue
  simpa [← isBlankText_eq_false_iff] using hblank

/-- An entry of a table whose part and family are not blank. -/
def IsNonblankEntry (entry : String × String) : Prop :=
  IsNonblank entry.1 ∧ IsNonblank entry.2

instance (entry : String × String) : Decidable (IsNonblankEntry entry) :=
  inferInstanceAs (Decidable (IsNonblank entry.1 ∧ IsNonblank entry.2))

theorem isNonblankEntry_of_mem_osFamilies : ∀ entry ∈ osFamilies, IsNonblankEntry entry := by
  decide +kernel

theorem isNonblankEntry_of_mem_osLabelTable :
    ∀ entry ∈ osFamilies ++ osLabelAliases, IsNonblankEntry entry := by
  decide +kernel

/-- A family is that of an entry that occurs in the text. -/
theorem isNonblank_of_osFamily? (htable : ∀ entry ∈ table, IsNonblankEntry entry)
    (h : osFamily? table text = some (family, rest)) :
    IsNonblank (lowercase text) ∧ IsNonblank family := by
  obtain ⟨⟨part, found⟩, hmem, hentry⟩ := List.exists_of_findSome?_eq_some h
  obtain ⟨cut, hcut, heq⟩ := Option.map_eq_some_iff.mp hentry
  cases heq
  obtain ⟨hpart, hfamily⟩ := htable _ hmem
  exact ⟨hpart.of_contains (Option.isSome_of_eq_some hcut), hfamily⟩

/-- There is no family of a blank text. -/
theorem osFamily?_of_not_isNonblank (htable : ∀ entry ∈ table, IsNonblankEntry entry)
    (h : ¬ IsNonblank text) : osFamily? table text = none := by
  cases hfamily : osFamily? table text with
  | none => rfl
  | some found =>
    obtain ⟨hlower, -⟩ := isNonblank_of_osFamily? htable hfamily
    rw [lowercase_of_not_isNonblank h] at hlower
    exact absurd hlower h

/-! ## Properties that are never blank -/

/-- **The display name** is not blank. -/
theorem isNonblank_displayName (name : String) (annotations : Fields String) :
    IsNonblank (displayName name annotations) := by
  refine getD_of_forall_mem ?_ (isNonblank_cleanName name)
  refine forall_mem_or isNonblank_of_mem_nonBlank? (forall_mem_or ?_ ?_)
  · refine Option.forall_mem_map.mpr fun entry hentry => ?_
    have hnamed := List.find?_some hentry
    simp only [Bool.and_eq_true, Bool.not_eq_true'] at hnamed
    exact isBlankText_eq_false_iff.mp hnamed.2
  · exact fun value hvalue => isNonblank_of_mem_nonBlank? value (Option.mem_filter_iff.mp hvalue).1

/-- **The flavor** has a processor, and memory that is not blank. -/
theorem isNonblank_flavor (name : String) (labels : Fields String) :
    1 ≤ (flavor name labels).cpu ∧ IsNonblank (flavor name labels).memory := by
  have htable : ∀ entry ∈ flavors, 1 ≤ entry.2.cpu ∧ IsNonblank entry.2.memory := by decide +kernel
  unfold flavor
  refine getD_of_forall_mem (p := fun size : Flavor => 1 ≤ size.cpu ∧ IsNonblank size.memory) ?_
    (by decide +kernel)
  refine Option.forall_mem_map.mpr (forall_mem_or ?_ ?_)
  · exact fun entry hentry => htable entry (List.mem_of_find?_eq_some hentry)
  · exact fun entry hentry => htable entry (List.mem_of_find?_eq_some hentry)

theorem isNonblank_of_mem_iconOfText? : ∀ icon ∈ iconOfText? text, IsNonblank icon := by
  have htable : ∀ entry ∈ icons, IsNonblank entry.2 := by decide +kernel
  refine Option.forall_mem_map.mpr fun entry hentry => ?_
  exact htable entry (List.mem_of_find?_eq_some hentry)

/-- **The icon** is not blank. -/
theorem isNonblank_icon (name : String) (annotations : Fields String) :
    IsNonblank (icon name annotations) := by
  refine getD_of_forall_mem ?_ (by decide +kernel)
  refine forall_mem_or isNonblank_of_mem_nonBlank? (forall_mem_or ?_ isNonblank_of_mem_iconOfText?)
  intro found hfound
  obtain ⟨tags, -, htags⟩ := Option.bind_eq_some_iff.mp hfound
  exact isNonblank_of_mem_iconOfText? found htags

/-- **The image** is not blank if there is one. -/
theorem isNonblank_of_mem_image : ∀ reference ∈ image annotations, IsNonblank reference := by
  refine forall_mem_or isNonblank_of_mem_nonBlank? (Option.forall_mem_map.mpr fun disk hdisk => ?_)
  obtain ⟨disks, -, hfirst⟩ := Option.bind_eq_some_iff.mp hdisk
  obtain ⟨piece, -, rfl⟩ := List.mem_map.mp (List.mem_of_find?_eq_some hfirst)
  exact isNonblank_trimBy (by simpa using List.find?_some hfirst)

/-! ## Properties that may be blank -/

/-- **A label with a blank end decides** on the operating system. -/
structure IsLabelledBlank (annotations labels : Fields String) : Prop where
  osName : nonBlank? annotations osNameKey = none
  genericAnnotation : nonBlank? annotations genericOsKey = none
  genericLabel : nonBlank? labels genericOsKey = none
  ending : ∃ ending, osLabelEnding? labels = some ending ∧ ∀ c ∈ ending, c = '_' ∨ isBlank c = true

theorem isNonblank_osOfText (h : IsNonblank text) : IsNonblank (osOfText text).1 := by
  unfold osOfText
  split
  · next hfamily => exact (isNonblank_of_osFamily? isNonblankEntry_of_mem_osFamilies hfamily).2
  · exact h

/-- The operating system of a label is blank when its end is, apart from underscores. -/
theorem isNonblank_osOfLabel_iff :
    IsNonblank (osOfLabel ending).1 ↔ ¬ ∀ c ∈ ending, c = '_' ∨ isBlank c = true := by
  have htext : IsNonblank (String.ofList (ending.filter (· ≠ '_'))) ↔
      ¬ ∀ c ∈ ending, c = '_' ∨ isBlank c = true := by
    simp [IsNonblank, and_assoc]
  rw [← htext, osOfLabel]
  split
  · next hfamily =>
    refine iff_of_true (isNonblank_of_osFamily? isNonblankEntry_of_mem_osLabelTable hfamily).2 ?_
    -- a family occurs in the text, so the text is not blank either
    by_contra hblank
    rw [osFamily?_of_not_isNonblank isNonblankEntry_of_mem_osLabelTable hblank] at hfamily
    cases hfamily
  · exact Iff.rfl

/-- **The operating system** is blank just when a label with a blank end decides on it. -/
theorem isNonblank_operatingSystem_iff :
    IsNonblank (operatingSystem name annotations labels).1 ↔
      ¬ IsLabelledBlank annotations labels := by
  unfold operatingSystem
  -- The rules in their order: all but the one for labels skip blank texts.
  split
  · next os hos =>
    refine iff_of_true (isNonblank_of_mem_nonBlank? os hos) fun hblank => ?_
    rw [hblank.osName] at hos
    cases hos
  · next hos =>
    split
    · next text htext =>
      refine iff_of_true (isNonblank_osOfText ?_) fun hblank => ?_
      · exact forall_mem_or isNonblank_of_mem_nonBlank? isNonblank_of_mem_nonBlank? text htext
      · rw [hblank.genericAnnotation, hblank.genericLabel] at htext
        cases htext
    · next hgeneric =>
      obtain ⟨hnote, hlabel⟩ := Option.or_eq_none_iff.mp hgeneric
      split
      · next ending hending =>
        rw [isNonblank_osOfLabel_iff, not_iff_not]
        refine ⟨fun hblank => ⟨hos, hnote, hlabel, ending, hending, hblank⟩, ?_⟩
        rintro ⟨-, -, -, other, hother, hblank⟩
        rw [hending] at hother
        cases hother
        exact hblank
      · next hending =>
        have hnot : ¬ IsLabelledBlank annotations labels := by
          rintro ⟨-, -, -, other, hother, -⟩
          rw [hending] at hother
          cases hother
        refine iff_of_true ?_ hnot
        split
        · next hfamily =>
          exact (isNonblank_of_osFamily? isNonblankEntry_of_mem_osFamilies hfamily).2
        · show IsNonblank defaultOs
          decide +kernel

/-- The size that the first disk template with a size asks for. -/
def requestedSize? (objects : List Json) : Option String :=
  ((objects.filter fun object => object.textAt? ["kind"] == some "VirtualMachine").flatMap
    fun machine => machine.itemsAt ["spec", "dataVolumeTemplates"]).findSome? requestedStorage?

/-- **A blank size is asked for.** -/
def IsBlankRequested (objects : List Json) : Prop :=
  ∃ size, requestedSize? objects = some size ∧ ¬ IsNonblank size

/-- **The disk size** is blank just when a blank one is asked for. -/
theorem isNonblank_diskSize_iff : IsNonblank (diskSize objects) ↔ ¬ IsBlankRequested objects := by
  have hdefault : IsNonblank defaultDiskSize := by decide +kernel
  have hsize : diskSize objects =
      ((requestedSize? objects).filter fun size => !contains size "$\x7b").getD defaultDiskSize :=
    rfl
  rw [hsize, IsBlankRequested]
  cases hrequest : requestedSize? objects with
  | none => exact iff_of_true hdefault (by simp)
  | some size =>
    by_cases hreference : contains size "$\x7b" = true
    · have hdollar : IsNonblank "$\x7b" := by decide +kernel
      have hsize : IsNonblank size := hdollar.of_contains hreference
      simpa [Option.filter, hreference, hsize] using hdefault
    · simp [Option.filter, hreference]

end Classification

/-! ## Normal forms -/

namespace Template

open Classification

variable {raw : Json}

/-- A raw template with a name. -/
def HasName (raw : Json) : Prop :=
  ∃ name, raw.textAt? ["metadata", "name"] = some name ∧ name ≠ ""

theorem rawName?_eq_none_iff : rawName? raw = none ↔ ¬ HasName raw := by
  rw [Option.eq_none_iff_forall_ne_some, HasName, not_exists]
  refine forall_congr' fun name => not_congr ?_
  rw [rawName?, Json.nonEmptyTextAt?_eq_some_iff]

/-- **The normal form of every raw template.** One without a name has none. One with a name has a
normal form: its display name, memory, icon and image are not blank and it has a processor, while
the operating system and the disk size are not blank unless a label with a blank end decides on the
one or a blank size is asked for as the other. -/
theorem ofRaw_falls_back (raw : Json) :
    (¬ HasName raw → ofRaw raw = .error (.materialization kind "<unnamed>" .unnamedTemplate)) ∧
    (HasName raw → ∃ template, ofRaw raw = .ok template ∧
      IsNonblank template.displayName ∧ IsNonblank template.memory ∧ IsNonblank template.iconClass ∧
      1 ≤ template.cpu ∧ (∀ image ∈ template.image, IsNonblank image) ∧
      (IsNonblank template.osType ↔ ¬ IsLabelledBlank (raw.textsAt ["metadata", "annotations"])
        (raw.textsAt ["metadata", "labels"])) ∧
      (IsNonblank template.diskSize ↔ ¬ IsBlankRequested (raw.itemsAt ["objects"]))) := by
  cases hname : rawName? raw with
  | none =>
    have hunnamed := rawName?_eq_none_iff.mp hname
    refine ⟨fun _ => ?_, fun hnamed => absurd hnamed hunnamed⟩
    rw [ofRaw, hname]
  | some name =>
    have hnamed : HasName raw := by
      by_contra hunnamed
      rw [rawName?_eq_none_iff.mpr hunnamed] at hname
      cases hname
    refine ⟨fun hunnamed => absurd hnamed hunnamed, fun _ => ?_⟩
    rw [ofRaw, hname]
    exact ⟨_, rfl, isNonblank_displayName _ _, (isNonblank_flavor _ _).2, isNonblank_icon _ _,
      (isNonblank_flavor _ _).1, isNonblank_of_mem_image, isNonblank_operatingSystem_iff,
      isNonblank_diskSize_iff⟩

/-- A raw template with a label that has no end but an underscore, and a machine that asks for a
disk of blank size. -/
def blankTemplate : Json :=
  .object [("metadata", .object [
      ("labels", .object [("os.template.kubevirt.io/_", .text "true")]), ("name", .text "web")]),
    ("objects", .array [.object [("kind", .text "VirtualMachine"),
      ("spec", .object [("dataVolumeTemplates", .array [
        Json.nest ["spec", "storage", "resources", "requests", "storage"] (.text " ")])])]])]

/-- Neither the operating system nor the disk size falls back on its default. -/
theorem exists_ofRaw_blankTemplate :
    HasName blankTemplate ∧ ∃ template, ofRaw blankTemplate = .ok template ∧
      template.osType = "" ∧ template.diskSize = " " ∧
      ¬ IsNonblank template.osType ∧ ¬ IsNonblank template.diskSize := by
  refine ⟨⟨"web", by decide +kernel, by decide⟩, _, rfl, ?_, ?_, ?_, ?_⟩
  · decide +kernel
  · decide +kernel
  · decide +kernel
  · decide +kernel

end Template

end VmProvisioning
