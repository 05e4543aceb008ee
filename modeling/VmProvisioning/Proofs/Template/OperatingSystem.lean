import VmProvisioning.Proofs.Fields
import VmProvisioning.Proofs.Template.Fallback
import VmProvisioning.Proofs.Text.Occurrence

/-!
# The rules for the operating system

The operating system of a template is decided by the first of its rules that applies: the annotation
made for it, a text in free form, a label, the name, and at last a default. In a text the families
of a table are looked for one after the other, whatever the case of the letters.

A label may also begin with a short form of a family. The rules say so, but a short form within a
label without a family counts as well, and what stands before it is lost.

## Main definitions

* `IsDecided`: a value decided by the first of several rules
* `NamesFamily`: a table names a family in a text
* `osRules`: the rules for the operating system as they are meant
* `HidesAlias`: a label with a short form within it

## Main results

* `osFamily?_eq_some_iff`: the family that a table names in a text
* `osLabelEnding?_eq_some_iff`: the first label in the order of the keys
* `isDecided_osRules_iff`: the rules decide as they are meant unless a label hides a short form
* `operatingSystem_by_rules`: they decide so, and what they decide where a label does
-/

namespace VmProvisioning

/-! ## Rules in order -/

section Rules

variable {α : Type} {rule : α → Prop} {rules : List (α → Prop)} {value : α}
  {found others : Option α}

/-- **A value is decided by rules in order**: by the first rule that applies at all. -/
def IsDecided (rules : List (α → Prop)) (value : α) : Prop :=
  ∃ before rule after, rules = before ++ rule :: after ∧
    (∀ silent ∈ before, ∀ other, ¬ silent other) ∧ rule value

theorem isDecided_cons_iff : IsDecided (rule :: rules) value ↔
    rule value ∨ (∀ other, ¬ rule other) ∧ IsDecided rules value := by
  constructor
  · rintro ⟨before, decisive, after, heq, hsilent, hvalue⟩
    rcases List.cons_eq_append_iff.mp heq with ⟨rfl, heq⟩ | ⟨before, rfl, rfl⟩
    · cases heq
      exact .inl hvalue
    · obtain ⟨hrule, hbefore⟩ := List.forall_mem_cons.mp hsilent
      exact .inr ⟨hrule, before, decisive, after, rfl, hbefore, hvalue⟩
  · rintro (hvalue | ⟨hrule, before, decisive, after, rfl, hbefore, hvalue⟩)
    · exact ⟨[], rule, rules, rfl, nofun, hvalue⟩
    · exact ⟨rule :: before, decisive, after, rfl, List.forall_mem_cons.mpr ⟨hrule, hbefore⟩,
        hvalue⟩

theorem not_isDecided_nil : ¬ IsDecided [] value := by
  rintro ⟨before, rule, after, heq, -⟩
  simp at heq

/-- A rule that finds a value decides, and leaves it to the others if it finds none. -/
theorem isDecided_cons_iff_or (hrule : ∀ value, rule value ↔ found = some value)
    (hrules : found = none → ∀ value, IsDecided rules value ↔ others = some value) (value : α) :
    IsDecided (rule :: rules) value ↔ found.or others = some value := by
  rw [isDecided_cons_iff, hrule]
  cases found with
  | none => simp [hrule, hrules]
  | some first => simp [hrule]

end Rules

namespace Classification

open Text

variable {name key value text ending family : String} {annotations labels texts : Fields String}
  {table : List (String × String)} {version : List Char} {os : String × String}

/-! ## Families -/

/-- **A table names no family in a text**: no part of a name occurs in it, whatever the case of its
letters. -/
def NamesNone (table : List (String × String)) (text : String) : Prop :=
  ∀ entry ∈ table, ¬ entry.1.toList <:+: (lowercase text).toList

/-- **A table names a family in a text**: that of the first entry that occurs in it. What stands
after the first occurrence is the version, in lower case. -/
def NamesFamily (table : List (String × String)) (text family : String) (version : List Char) :
    Prop :=
  ∃ before part after front, table = before ++ (part, family) :: after ∧ NamesNone before text ∧
    IsFirstOccurrence part.toList (lowercase text).toList front version

theorem osFamily?_eq_none_iff : osFamily? table text = none ↔ NamesNone table text := by
  simp [osFamily?, NamesNone, List.findSome?_eq_none_iff, cut?_eq_none_iff_not_isInfix]

/-- **The family that a table names in a text.** -/
theorem osFamily?_eq_some_iff :
    osFamily? table text = some (family, version) ↔ NamesFamily table text family version := by
  constructor
  · intro h
    obtain ⟨before, ⟨part, found⟩, after, heq, hfound, hbefore⟩ := List.findSome?_eq_some_iff.mp h
    obtain ⟨⟨front, rest⟩, hcut, hrest⟩ := Option.map_eq_some_iff.mp hfound
    cases hrest
    refine ⟨before, part, after, front, heq, ?_, cut?_eq_some_iff_isFirstOccurrence.mp hcut⟩
    exact osFamily?_eq_none_iff.mp (List.findSome?_eq_none_iff.mpr hbefore)
  · rintro ⟨before, part, after, front, rfl, hbefore, hfirst⟩
    have hnone := List.findSome?_eq_none_iff.mp (osFamily?_eq_none_iff.mpr hbefore)
    refine List.findSome?_eq_some_iff.mpr ⟨before, (part, family), after, rfl, ?_, hnone⟩
    have hcut := cut?_eq_some_iff_isFirstOccurrence.mpr hfirst
    exact Option.map_eq_some_iff.mpr ⟨(front, version), hcut, rfl⟩

theorem osFamily?_append (first second : List (String × String)) (text : String) :
    osFamily? (first ++ second) text = (osFamily? first text).or (osFamily? second text) := by
  simp [osFamily?, List.findSome?_append]

theorem not_namesFamily_iff : (∀ family version, ¬ NamesFamily table text family version) ↔
    NamesNone table text := by
  simp only [← osFamily?_eq_none_iff, ← osFamily?_eq_some_iff, Option.eq_none_iff_forall_ne_some,
    Prod.forall, ne_eq]

/-! ## Labels -/

/-- **The first label that switches on an operating system**, in the order of the keys. -/
structure IsFirstSwitch (labels : Fields String) (ending : String) : Prop where
  isOn : Fields.get? labels (osLabelPrefix ++ ending) = some "true"
  least : ∀ other, Fields.get? labels (osLabelPrefix ++ other) = some "true" →
    osLabelPrefix ++ ending ≤ osLabelPrefix ++ other

theorem labelEnding_eq_some_iff {entry : String × String} {cs : List Char} :
    (match entry with
      | (key, value) =>
        if value = "true" then dropPrefix? osLabelPrefix.toList key.toList else none) = some cs ↔
      entry = (osLabelPrefix ++ String.ofList cs, "true") := by
  obtain ⟨key, value⟩ := entry
  have hkey :
      key = osLabelPrefix ++ String.ofList cs ↔ key.toList = osLabelPrefix.toList ++ cs := by
    rw [← String.toList_inj, String.toList_append, String.toList_ofList]
  rw [Prod.mk.injEq, hkey]
  show (if value = "true" then dropPrefix? osLabelPrefix.toList key.toList else none) = some cs ↔ _
  split
  · next htrue => rw [dropPrefix?_eq_some_iff, and_iff_left htrue]
  · next htrue => exact iff_of_false nofun fun h => htrue h.2

/-- The label that is found is the first one. -/
theorem isFirstSwitch_of_osLabelEnding? {cs : List Char} (hlabels : labels.IsOrdered)
    (h : osLabelEnding? labels = some cs) : IsFirstSwitch labels (String.ofList cs) := by
  obtain ⟨before, entry, after, heq, hfound, hbefore⟩ := List.findSome?_eq_some_iff.mp h
  obtain rfl := labelEnding_eq_some_iff.mp hfound
  refine ⟨hlabels.get?_eq_some_iff.mpr (by simp [heq]), fun other hother => ?_⟩
  have hmem := hlabels.get?_eq_some_iff.mp hother
  rw [heq] at hmem hlabels
  rcases List.mem_append.mp hmem with hmem | hmem
  · -- A label in front of it would have been found.
    have hswitch := (@labelEnding_eq_some_iff (osLabelPrefix ++ other, "true") other.toList).mpr
      (by rw [String.ofList_toList])
    exact absurd ((hbefore _ hmem).symm.trans hswitch) nofun
  · rcases List.mem_cons.mp hmem with hsame | hmem
    · exact (congrArg Prod.fst hsame).ge
    · rw [Fields.IsOrdered, Fields.keys, List.map_append, List.map_cons] at hlabels
      obtain ⟨-, hbehind, -⟩ := List.pairwise_append.mp hlabels
      exact le_of_lt ((List.pairwise_cons.mp hbehind).1 _ (List.mem_map_of_mem hmem))

/-- **The first label in the order of the keys.** -/
theorem osLabelEnding?_eq_some_iff (hlabels : labels.IsOrdered) :
    osLabelEnding? labels = some ending.toList ↔ IsFirstSwitch labels ending := by
  constructor
  · intro h
    have hfirst := isFirstSwitch_of_osLabelEnding? hlabels h
    rwa [String.ofList_toList] at hfirst
  · intro h
    cases hfound : osLabelEnding? labels with
    | none =>
      have hskipped := List.findSome?_eq_none_iff.mp hfound _ (hlabels.get?_eq_some_iff.mp h.isOn)
      have hswitch := (@labelEnding_eq_some_iff (osLabelPrefix ++ ending, "true") ending.toList).mpr
        (by rw [String.ofList_toList])
      exact absurd (hskipped.symm.trans hswitch) nofun
    | some cs =>
      -- Both come before the other.
      have hfirst := isFirstSwitch_of_osLabelEnding? hlabels hfound
      have hkeys := le_antisymm (h.least _ hfirst.isOn) (hfirst.least _ h.isOn)
      rw [← String.toList_inj, String.toList_append, String.toList_append,
        List.append_cancel_left_eq, String.toList_ofList] at hkeys
      rw [hkeys]

theorem IsFirstSwitch.unique {other : String} (h : IsFirstSwitch labels ending)
    (hlabels : labels.IsOrdered) (hother : IsFirstSwitch labels other) : ending = other := by
  have hfound := (osLabelEnding?_eq_some_iff hlabels).mpr h
  rw [(osLabelEnding?_eq_some_iff hlabels).mpr hother, Option.some_inj, String.toList_inj] at hfound
  exact hfound.symm

/-! ## The rules -/

/-- A text that is not blank stands under a key. -/
def IsShown (texts : Fields String) (key value : String) : Prop :=
  Fields.get? texts key = some value ∧ IsNonblank value

theorem nonBlank?_eq_some_iff : nonBlank? texts key = some value ↔ IsShown texts key value := by
  rw [nonBlank?, Option.filter_eq_some_iff, IsShown, Bool.not_eq_true', isBlankText_eq_false_iff]

/-- **A text in free form**: the family that it names, with what stands after it apart from hyphens,
or the text as it is. -/
inductive ReadsFreely (text : String) : String × String → Prop
  | family {family : String} {version : List Char}
      (h : NamesFamily osFamilies text family version) :
      ReadsFreely text (family, String.ofList (trimBy (· == '-') version))
  | plain (h : NamesNone osFamilies text) : ReadsFreely text (text, "")

/-- **The text of a label**: the family that it names, with what stands after it. Without a family
it may begin with the short form of one, and otherwise it is taken as it is. -/
inductive ReadsLabel (text : String) : String × String → Prop
  | family {family : String} {version : List Char}
      (h : NamesFamily osFamilies text family version) :
      ReadsLabel text (family, String.ofList version)
  | alias {version : List Char} (h : NamesNone osFamilies text)
      (hstart : (lowercase text).toList = "win".toList ++ version) :
      ReadsLabel text ("Windows", String.ofList version)
  | plain (h : NamesNone osFamilies text) (hstart : ¬ "win".toList <+: (lowercase text).toList) :
      ReadsLabel text (text, "")

/-- A text without its underscores. -/
def withoutUnderscores (text : String) : String :=
  String.ofList (text.toList.filter (· ≠ '_'))

/-- **The rules for the operating system** with its version, in their order. -/
def osRules (name : String) (annotations labels : Fields String) :
    List (String × String → Prop) :=
  [fun os => IsShown annotations osNameKey os.1 ∧
      IsDecided [IsShown annotations osVersionKey, (· = "")] os.2,
    fun os => ∃ text, IsShown annotations genericOsKey text ∧ ReadsFreely text os,
    fun os => ∃ text, IsShown labels genericOsKey text ∧ ReadsFreely text os,
    fun os => ∃ ending, IsFirstSwitch labels ending ∧ ReadsLabel (withoutUnderscores ending) os,
    fun os => ∃ version, NamesFamily osFamilies name os.1 version ∧ os.2 = "",
    fun os => os = ("Linux", "")]

/-- **A text hides a short form**: it names no family, and the short form is in it, but not at its
beginning. -/
structure HidesAlias (text : String) (version : List Char) : Prop where
  namesNone : NamesNone osFamilies text
  within : ∃ front, front ≠ [] ∧
    IsFirstOccurrence "win".toList (lowercase text).toList front version

/-- **A label that hides a short form decides** on the operating system. -/
structure IsMisread (annotations labels : Fields String) (text : String) (version : List Char) :
    Prop where
  osName : ∀ os, ¬ IsShown annotations osNameKey os
  genericAnnotation : ∀ text, ¬ IsShown annotations genericOsKey text
  genericLabel : ∀ text, ¬ IsShown labels genericOsKey text
  label : ∃ ending, IsFirstSwitch labels ending ∧ text = withoutUnderscores ending
  hidesAlias : HidesAlias text version

theorem readsFreely_iff : ReadsFreely text os ↔ osOfText text = os := by
  rw [osOfText]
  cases hfamily : osFamily? osFamilies text with
  | none =>
    have hnone := osFamily?_eq_none_iff.mp hfamily
    constructor
    · rintro (h | h)
      · exact absurd h (not_namesFamily_iff.mpr hnone _ _)
      · rfl
    · rintro rfl
      exact .plain hnone
  | some found =>
    obtain ⟨family, version⟩ := found
    have hnames := osFamily?_eq_some_iff.mp hfamily
    constructor
    · rintro (h | h)
      · rw [← osFamily?_eq_some_iff, hfamily] at h
        cases h
        rfl
      · exact absurd hnames (not_namesFamily_iff.mpr h _ _)
    · rintro rfl
      exact .family hnames

/-! ### Labels -/

theorem osOfLabel_of_names (h : NamesFamily osFamilies (withoutUnderscores ending) family version) :
    osOfLabel ending.toList = (family, String.ofList version) := by
  have hfamily := osFamily?_eq_some_iff.mpr h
  rw [withoutUnderscores] at hfamily
  simp only [osOfLabel, osFamily?_append, hfamily, Option.some_or]

theorem osFamily?_osLabelAliases (text : String) : osFamily? osLabelAliases text =
    (cut? "win".toList (lowercase text).toList).map fun parts => ("Windows", parts.2) := by
  rw [osFamily?, osLabelAliases, List.findSome?_singleton]

/-- A label without a family is looked through for the short form. -/
theorem osOfLabel_of_namesNone (h : NamesNone osFamilies (withoutUnderscores ending)) :
    osOfLabel ending.toList =
      ((cut? "win".toList (lowercase (withoutUnderscores ending)).toList).map
        fun parts => ("Windows", String.ofList parts.2)).getD (withoutUnderscores ending, "") := by
  have hfamily := osFamily?_eq_none_iff.mpr h
  rw [withoutUnderscores] at hfamily ⊢
  simp only [osOfLabel, osFamily?_append, hfamily, Option.none_or, osFamily?_osLabelAliases]
  generalize cut? "win".toList _ = found
  cases found with
  | none => rfl
  | some parts => rfl

/-- The rule for labels decides on one operating system. -/
theorem ReadsLabel.unique {other : String × String} (h : ReadsLabel text os)
    (hother : ReadsLabel text other) : os = other := by
  rcases h with h | ⟨h, hstart⟩ | ⟨h, hstart⟩
  · rcases hother with hother | ⟨hother, -⟩ | ⟨hother, -⟩
    · have hfamily := osFamily?_eq_some_iff.mpr h
      rw [osFamily?_eq_some_iff.mpr hother] at hfamily
      cases hfamily
      rfl
    · exact absurd h (not_namesFamily_iff.mpr hother _ _)
    · exact absurd h (not_namesFamily_iff.mpr hother _ _)
  · rcases hother with hother | ⟨-, hother⟩ | ⟨-, hother⟩
    · exact absurd hother (not_namesFamily_iff.mpr h _ _)
    · rw [hstart, List.append_cancel_left_eq] at hother
      rw [hother]
    · exact absurd ⟨_, hstart.symm⟩ hother
  · rcases hother with hother | ⟨-, hother⟩ | ⟨-, -⟩
    · exact absurd hother (not_namesFamily_iff.mpr h _ _)
    · exact absurd ⟨_, hother.symm⟩ hstart
    · rfl

/-- Where no short form is hidden a label is read as the rule says. -/
theorem readsLabel_osOfLabel (h : ∀ version, ¬ HidesAlias (withoutUnderscores ending) version) :
    ReadsLabel (withoutUnderscores ending) (osOfLabel ending.toList) := by
  cases hfamily : osFamily? osFamilies (withoutUnderscores ending) with
  | some found =>
    have hnames := osFamily?_eq_some_iff.mp hfamily
    rw [osOfLabel_of_names hnames]
    exact .family hnames
  | none =>
    have hnone := osFamily?_eq_none_iff.mp hfamily
    rw [osOfLabel_of_namesNone hnone]
    cases hcut : cut? "win".toList (lowercase (withoutUnderscores ending)).toList with
    | some parts =>
      obtain ⟨front, version⟩ := parts
      have hfirst := cut?_eq_some_iff_isFirstOccurrence.mp hcut
      rcases Decidable.eq_or_ne front [] with rfl | hfront
      · exact .alias hnone hfirst.eq_append
      · exact absurd ⟨hnone, front, hfront, hfirst⟩ (h version)
    | none =>
      exact .plain hnone fun hstart => cut?_eq_none_iff_not_isInfix.mp hcut hstart.isInfix

/-- A hidden short form counts, though the rule takes the label as it is. -/
theorem HidesAlias.osOfLabel_and_readsLabel (h : HidesAlias (withoutUnderscores ending) version) :
    osOfLabel ending.toList = ("Windows", String.ofList version) ∧
      ReadsLabel (withoutUnderscores ending) (withoutUnderscores ending, "") := by
  obtain ⟨front, hne, hfirst⟩ := h.within
  constructor
  · rw [osOfLabel_of_namesNone h.namesNone, cut?_eq_some_iff_isFirstOccurrence.mpr hfirst,
      Option.map_some, Option.getD_some]
  · refine .plain h.namesNone fun ⟨rest, hstart⟩ => hne ?_
    exact List.length_eq_zero_iff.mp (Nat.le_zero.mp (hfirst.length_le [] rest hstart.symm))

/-- The text that hides it is not the name of the family. -/
theorem HidesAlias.ne_windows (h : HidesAlias text version) : text ≠ "Windows" := by
  rintro rfl
  exact h.namesNone ("windows", "Windows") (by decide) ⟨[], [], by decide +kernel⟩

/-! ### The first rule that applies -/

theorem isShown_version_iff (annotations : Fields String) (os : String × String) :
    IsShown annotations osNameKey os.1 ∧
        IsDecided [IsShown annotations osVersionKey, (· = "")] os.2 ↔
      (nonBlank? annotations osNameKey).map
        (fun found => (found, (nonBlank? annotations osVersionKey).getD "")) = some os := by
  have hversion : IsDecided [IsShown annotations osVersionKey, (· = "")] os.2 ↔
      (nonBlank? annotations osVersionKey).getD "" = os.2 := by
    rw [isDecided_cons_iff, isDecided_cons_iff, ← nonBlank?_eq_some_iff]
    simp only [← nonBlank?_eq_some_iff, not_isDecided_nil, and_false, or_false]
    cases nonBlank? annotations osVersionKey with
    | none =>
      rw [Option.getD_none, eq_comm]
      simp
    | some version => simp
  rw [hversion, ← nonBlank?_eq_some_iff]
  obtain ⟨found, version⟩ := os
  cases nonBlank? annotations osNameKey with
  | none => simp
  | some found => simp

theorem exists_readsFreely_iff (texts : Fields String) (os : String × String) :
    (∃ text, IsShown texts genericOsKey text ∧ ReadsFreely text os) ↔
      (nonBlank? texts genericOsKey).map osOfText = some os := by
  simp only [Option.map_eq_some_iff, nonBlank?_eq_some_iff, readsFreely_iff]

/-- What is found by the rules in their order, where the rule for labels finds `byLabel`. -/
def findByRules (name : String) (annotations labels : Fields String)
    (byLabel : Option (String × String)) : Option (String × String) :=
  ((nonBlank? annotations osNameKey).map
    fun found => (found, (nonBlank? annotations osVersionKey).getD "")).or
  (((nonBlank? annotations genericOsKey).map osOfText).or
  (((nonBlank? labels genericOsKey).map osOfText).or
  (byLabel.or
  (((osFamily? osFamilies name).map fun (family, _) => (family, "")).or
  (some ("Linux", ""))))))

/-- The rules decide on what is found by them, whatever the rule for labels finds. That rule counts
only if none of the texts in front of it is shown. -/
theorem isDecided_osRules_iff_findByRules {byLabel : Option (String × String)}
    (hlabel : (∀ os, ¬ IsShown annotations osNameKey os) →
      (∀ text, ¬ IsShown annotations genericOsKey text) →
      (∀ text, ¬ IsShown labels genericOsKey text) →
      ∀ os, (∃ ending, IsFirstSwitch labels ending ∧ ReadsLabel (withoutUnderscores ending) os) ↔
        byLabel = some os) (os : String × String) :
    IsDecided (osRules name annotations labels) os ↔
      findByRules name annotations labels byLabel = some os := by
  have hsilent {texts : Fields String} {key : String} (h : nonBlank? texts key = none) :
      ∀ value, ¬ IsShown texts key value := by
    intro value hvalue
    rw [nonBlank?_eq_some_iff.mpr hvalue] at h
    cases h
  refine isDecided_cons_iff_or (isShown_version_iff annotations) (fun hname => ?_) os
  refine isDecided_cons_iff_or (exists_readsFreely_iff annotations) fun hannotation => ?_
  refine isDecided_cons_iff_or (exists_readsFreely_iff labels) fun hgeneric => ?_
  refine isDecided_cons_iff_or (hlabel (hsilent (Option.map_eq_none_iff.mp hname))
    (hsilent (Option.map_eq_none_iff.mp hannotation))
    (hsilent (Option.map_eq_none_iff.mp hgeneric))) fun _ => ?_
  refine isDecided_cons_iff_or (fun os => ?_) fun _ os => ?_
  · obtain ⟨family, version⟩ := os
    simp [← osFamily?_eq_some_iff, eq_comm]
  · rw [isDecided_cons_iff, Option.some_inj, eq_comm, or_iff_left]
    exact fun h => not_isDecided_nil h.2

/-- The operating system is what is found by the rules, where the rule for labels finds the text of
the first label. -/
theorem findByRules_eq_operatingSystem (name : String) (annotations labels : Fields String) :
    findByRules name annotations labels ((osLabelEnding? labels).map osOfLabel) =
      some (operatingSystem name annotations labels) := by
  rw [findByRules, operatingSystem]
  cases nonBlank? annotations osNameKey with
  | some found => rfl
  | none =>
    cases nonBlank? annotations genericOsKey with
    | some text => rfl
    | none =>
      cases nonBlank? labels genericOsKey with
      | some text => rfl
      | none =>
        cases osLabelEnding? labels with
        | some ending => rfl
        | none =>
          cases osFamily? osFamilies name with
          | some found => rfl
          | none => rfl

/-- **The rules decide on the operating system** unless a label hides a short form. -/
theorem isDecided_osRules_iff (hlabels : labels.IsOrdered)
    (h : ∀ text version, ¬ IsMisread annotations labels text version) (os : String × String) :
    IsDecided (osRules name annotations labels) os ↔
      operatingSystem name annotations labels = os := by
  rw [← Option.some_inj, ← findByRules_eq_operatingSystem]
  refine isDecided_osRules_iff_findByRules (fun hname hannotation hgeneric os => ?_) os
  have hreads {ending : String} (hending : IsFirstSwitch labels ending) :
      ReadsLabel (withoutUnderscores ending) (osOfLabel ending.toList) :=
    readsLabel_osOfLabel fun version halias =>
      h _ version ⟨hname, hannotation, hgeneric, ⟨ending, hending, rfl⟩, halias⟩
  constructor
  · rintro ⟨ending, hending, hos⟩
    rw [(osLabelEnding?_eq_some_iff hlabels).mpr hending, Option.map_some,
      (hreads hending).unique hos]
  · intro hos
    obtain ⟨cs, hcs, rfl⟩ := Option.map_eq_some_iff.mp hos
    rw [← String.toList_ofList (l := cs)] at hcs ⊢
    have hending := (osLabelEnding?_eq_some_iff hlabels).mp hcs
    exact ⟨_, hending, hreads hending⟩

/-- **A hidden short form is taken for the family**, where the rules take the label as it is. -/
theorem isDecided_osRules_of_isMisread (hlabels : labels.IsOrdered)
    (h : IsMisread annotations labels text version) :
    operatingSystem name annotations labels = ("Windows", String.ofList version) ∧
      ∀ os, IsDecided (osRules name annotations labels) os ↔ os = (text, "") := by
  obtain ⟨hname, hannotation, hgeneric, ⟨ending, hending, rfl⟩, halias⟩ := h
  have hnone {texts : Fields String} {key : String} (h : ∀ value, ¬ IsShown texts key value) :
      nonBlank? texts key = none :=
    Option.eq_none_iff_forall_ne_some.mpr fun value hvalue =>
      h value (nonBlank?_eq_some_iff.mp hvalue)
  obtain ⟨hread, hreads⟩ := halias.osOfLabel_and_readsLabel
  constructor
  · rw [← Option.some_inj, ← findByRules_eq_operatingSystem, findByRules, hnone hname,
      hnone hannotation, hnone hgeneric, (osLabelEnding?_eq_some_iff hlabels).mpr hending,
      Option.map_some, hread]
    rfl
  · have hlabel (os : String × String) :
        (∃ other, IsFirstSwitch labels other ∧ ReadsLabel (withoutUnderscores other) os) ↔
          some (withoutUnderscores ending, "") = some os := by
      constructor
      · rintro ⟨other, hother, hos⟩
        obtain rfl := hending.unique hlabels hother
        rw [hreads.unique hos]
      · rintro ⟨⟩
        exact ⟨ending, hending, hreads⟩
    intro os
    rw [isDecided_osRules_iff_findByRules fun _ _ _ => hlabel, findByRules, hnone hname,
      hnone hannotation, hnone hgeneric]
    exact Option.some_inj.trans eq_comm

/-- **The rules for the operating system.** What decides is the first rule that applies, unless a
label decides that names no family and has the short form of one behind its first character. Such a
label counts as that family with what stands after the short form, where by the rules it would be
taken as it is. -/
theorem operatingSystem_by_rules (hlabels : labels.IsOrdered) :
    ((∀ text version, ¬ IsMisread annotations labels text version) →
      ∀ os, IsDecided (osRules name annotations labels) os ↔
        operatingSystem name annotations labels = os) ∧
    ∀ text version, IsMisread annotations labels text version →
      operatingSystem name annotations labels = ("Windows", String.ofList version) ∧
      (∀ os, IsDecided (osRules name annotations labels) os ↔ os = (text, "")) ∧
      text ≠ "Windows" := by
  refine ⟨isDecided_osRules_iff hlabels, fun text version h => ?_⟩
  obtain ⟨hos, hrules⟩ := isDecided_osRules_of_isMisread hlabels h
  exact ⟨hos, hrules, h.hidesAlias.ne_windows⟩

/-- A label that switches on the operating system with an ending. -/
def switchLabels (ending : String) : Fields String :=
  [(osLabelPrefix ++ ending, "true")]

theorem isOrdered_switchLabels (ending : String) : (switchLabels ending).IsOrdered :=
  List.pairwise_singleton _ _

theorem isFirstSwitch_switchLabels : IsFirstSwitch (switchLabels ending) ending := by
  refine ⟨Fields.get?_cons_self, fun other hother => ?_⟩
  have hmem := (isOrdered_switchLabels ending).get?_eq_some_iff.mp hother
  exact (congrArg Prod.fst (List.mem_singleton.mp hmem)).ge

/-- A label without a family, with the short form behind its first character. -/
theorem isMisread_darwin : IsMisread [] (switchLabels "darwin_20") "darwin20" ['2', '0'] where
  osName := nofun
  genericAnnotation := nofun
  genericLabel := by
    rintro text ⟨htext, -⟩
    rw [switchLabels, Fields.get?_cons_of_ne (by decide)] at htext
    cases htext
  label := ⟨"darwin_20", isFirstSwitch_switchLabels, by decide +kernel⟩
  hidesAlias :=
    { namesNone := osFamily?_eq_none_iff.mp (by decide +kernel)
      within := ⟨['d', 'a', 'r'], by decide,
        cut?_eq_some_iff_isFirstOccurrence.mp (by decide +kernel)⟩ }

theorem operatingSystem_by_rules_win2k22 :
    (switchLabels "win2k22").IsOrdered ∧
      (∀ text version, ¬ IsMisread [] (switchLabels "win2k22") text version) ∧
      IsDecided (osRules "x" [] (switchLabels "win2k22")) ("Windows", "2k22") ∧
      (switchLabels "darwin_20").IsOrdered ∧
      IsMisread [] (switchLabels "darwin_20") "darwin20" ['2', '0'] ∧
      operatingSystem "x" [] (switchLabels "darwin_20") = ("Windows", "20") := by
  have hordered := isOrdered_switchLabels "win2k22"
  have hread : ∀ text version, ¬ IsMisread [] (switchLabels "win2k22") text version := by
    rintro text version ⟨-, -, -, ⟨ending, hending, rfl⟩, -, front, hne, hfirst⟩
    obtain rfl := hending.unique hordered isFirstSwitch_switchLabels
    have hstart : (lowercase (withoutUnderscores "win2k22")).toList =
        [] ++ ("win".toList ++ ['2', 'k', '2', '2']) := by
      decide +kernel
    exact hne (List.length_eq_zero_iff.mp (Nat.le_zero.mp (hfirst.length_le _ _ hstart)))
  have hdarwin := isOrdered_switchLabels "darwin_20"
  refine ⟨hordered, hread, ?_, hdarwin, isMisread_darwin, ?_⟩
  · exact ((operatingSystem_by_rules hordered).1 hread _).mpr (by decide +kernel)
  · exact ((operatingSystem_by_rules hdarwin).2 _ _ isMisread_darwin).1

/-- A label for Darwin is read as one for Windows. -/
theorem not_isDecided_operatingSystem_darwin :
    operatingSystem "x" [] (switchLabels "darwin_20") = ("Windows", "20") ∧
      IsDecided (osRules "x" [] (switchLabels "darwin_20")) ("darwin20", "") ∧
      ¬ IsDecided (osRules "x" [] (switchLabels "darwin_20"))
        (operatingSystem "x" [] (switchLabels "darwin_20")) := by
  obtain ⟨hos, hrules⟩ := @isDecided_osRules_of_isMisread "x" _ _ _ _
    (isOrdered_switchLabels "darwin_20") isMisread_darwin
  refine ⟨hos, (hrules _).mpr rfl, ?_⟩
  rw [hrules, hos]
  decide

end Classification

end VmProvisioning
