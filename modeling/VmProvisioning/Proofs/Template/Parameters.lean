import VmProvisioning.Proofs.Deployment.Materialization
import VmProvisioning.Proofs.Json.Row
import VmProvisioning.Proofs.Template.Binding

/-!
# The parameters of raw templates

An entry for a parameter is read as a whole: it is kept when it has a name and everything in it has
the type of its place. A required parameter that is kept is never bound to the empty text by its own
declaration. An entry with a name and anything of another type is lost, and so is what it requires.

## Main definitions

* `Parameter.IsReadAs`: what is read from the fields of an entry
* `Parameter.IsWellTyped`: entries in which everything has the type of its place
* `Parameter.keptName?`: the names of the entries that are kept

## Main results

* `Parameter.ofJson?_eq_some_iff`: what is read from an entry
* `Template.map_name_parameters`: the names of the parameters of a template
* `Template.map_name_parameters_eq_iff`: when no name is lost
* `Template.names_and_required_of_ofRaw`: both, and which required parameters are enforced
-/

namespace VmProvisioning

namespace Parameter

variable {row : Json.Row} {parameter : Parameter} {entry : Json} {name : String}

/-! ## Reading an entry -/

/-- The text in the place of an optional text, which may be missing or `null`. -/
def optionalText? (found : Option Json) : Option (Option String) :=
  found.elim (some none) fun value => if value.isNull then some none else value.text?.map some

/-- **What is read from the fields of an entry.** -/
structure IsReadAs (row : Json.Row) (parameter : Parameter) : Prop where
  name : row.at? 0 "name" = some (.text parameter.name)
  displayName : optionalText? (row.at? 1 "displayName") = some parameter.displayName
  description : optionalText? (row.at? 2 "description") = some parameter.description
  value : optionalText? (row.at? 3 "value") = some parameter.value
  generate : optionalText? (row.at? 4 "generate") = some parameter.generate
  source : optionalText? (row.at? 5 "from") = some parameter.source
  isRequired : (row.at? 6 "required").elim (some false) Json.bool? = some parameter.isRequired

theorem elim_text?_eq_some_iff {found : Option Json} {text : String} :
    found.elim none Json.text? = some text ↔ found = some (.text text) := by
  rcases found with _ | found
  · simp
  · cases found with
    | text content => simp [Json.text?]
    | _ => simp [Json.text?]

/-- **What is read from an entry** is read from its fields, of which there are at most seven. -/
theorem ofJson?_eq_some_iff : ofJson? entry = some parameter ↔
    ∃ row, entry.row? = some row ∧ row.IsWithin 7 ∧ IsReadAs row parameter := by
  refine Json.record?_eq_some_iff ?_
  intro row value last
  simp only [Json.required, Json.optional, Json.defaulted, Json.field_bind_run_drop_iff,
    elim_text?_eq_some_iff]
  constructor
  · rintro ⟨name, hname, displayName, hdisplay, description, hdescription, value, hvalue, generate,
      hgenerate, source, hsource, isRequired, hrequired, hlast⟩
    cases hlast
    exact ⟨⟨hname, hdisplay, hdescription, hvalue, hgenerate, hsource, hrequired⟩, rfl⟩
  · rintro ⟨⟨hname, hdisplay, hdescription, hvalue, hgenerate, hsource, hrequired⟩, rfl⟩
    exact ⟨_, hname, _, hdisplay, _, hdescription, _, hvalue, _, hgenerate, _, hsource, _,
      hrequired, rfl⟩

/-! ## Entries that are kept -/

/-- The places of the optional texts. -/
def textPlaces : List (Nat × String) :=
  [(1, "displayName"), (2, "description"), (3, "value"), (4, "generate"), (5, "from")]

/-- **Entries in which everything has the type of its place**, but for the name. -/
structure IsWellTyped (row : Json.Row) : Prop where
  within : row.IsWithin 7
  texts : ∀ place ∈ textPlaces, ∀ found ∈ row.at? place.1 place.2,
    found.isNull = true ∨ found.text?.isSome = true
  isRequired : ∀ found ∈ row.at? 6 "required", found.bool?.isSome = true

instance (row : Json.Row) : Decidable (IsWellTyped row) :=
  decidable_of_iff (row.IsWithin 7 ∧
    (∀ place ∈ textPlaces, ∀ found ∈ row.at? place.1 place.2,
      found.isNull = true ∨ found.text?.isSome = true) ∧
    ∀ found ∈ row.at? 6 "required", found.bool?.isSome = true)
    ⟨fun ⟨hwithin, htexts, hrequired⟩ => ⟨hwithin, htexts, hrequired⟩,
      fun ⟨hwithin, htexts, hrequired⟩ => ⟨hwithin, htexts, hrequired⟩⟩

/-- **The name of an entry that is kept**: everything in it has the type of its place, and its name
is not empty. -/
def keptName? (entry : Json) : Option String :=
  entry.row?.bind fun row =>
    if IsWellTyped row then ((row.at? 0 "name").bind Json.text?).filter (· ≠ "") else none

theorem keptName?_eq_some_iff : keptName? entry = some name ↔
    ∃ row, entry.row? = some row ∧ IsWellTyped row ∧ row.at? 0 "name" = some (.text name) ∧
      name ≠ "" := by
  have htext {found : Option Json} :
      (found.bind Json.text?).filter (· ≠ "") = some name ↔
        found = some (.text name) ∧ name ≠ "" := by
    rw [Option.filter_eq_some_iff, ← elim_text?_eq_some_iff]
    cases found with
    | none => simp
    | some found => simp
  unfold keptName?
  rw [Option.bind_eq_some_iff]
  refine exists_congr fun row => and_congr_right fun _ => ?_
  by_cases htyped : IsWellTyped row
  · rw [if_pos htyped, htext]
    simp [htyped]
  · simp [htyped]

/-- An optional text is read from anything that is `null` or a text. -/
theorem exists_optionalText?_eq_iff {found : Option Json} :
    (∃ text, optionalText? found = some text) ↔
      ∀ value ∈ found, value.isNull = true ∨ value.text?.isSome = true := by
  cases found with
  | none => simp [optionalText?]
  | some value =>
    cases value with
    | null => simp [optionalText?, Json.isNull]
    | text content => simp [optionalText?, Json.isNull, Json.text?]
    | _ => simp [optionalText?, Json.isNull, Json.text?]

theorem exists_bool?_eq_iff {found : Option Json} :
    (∃ truth, found.elim (some false) Json.bool? = some truth) ↔
      ∀ value ∈ found, value.bool?.isSome = true := by
  cases found with
  | none => simp
  | some value => simp [Option.isSome_iff_exists]

/-- **A parameter is read** from fields that are well typed and have a name. -/
theorem exists_isReadAs_iff (hwithin : row.IsWithin 7) :
    (∃ parameter, IsReadAs row parameter ∧ parameter.name = name) ↔
      row.at? 0 "name" = some (.text name) ∧ IsWellTyped row := by
  constructor
  · rintro ⟨parameter, ⟨hname, hdisplay, hdescription, hvalue, hgenerate, hsource, hrequired⟩, rfl⟩
    refine ⟨hname, hwithin, ?_, exists_bool?_eq_iff.mp ⟨_, hrequired⟩⟩
    simp only [textPlaces, List.forall_mem_cons, ← exists_optionalText?_eq_iff]
    exact ⟨⟨_, hdisplay⟩, ⟨_, hdescription⟩, ⟨_, hvalue⟩, ⟨_, hgenerate⟩, ⟨_, hsource⟩, by simp⟩
  · rintro ⟨hname, -, htexts, hrequired⟩
    simp only [textPlaces, List.forall_mem_cons, ← exists_optionalText?_eq_iff] at htexts
    obtain ⟨⟨displayName, hdisplay⟩, ⟨description, hdescription⟩, ⟨value, hvalue⟩,
      ⟨generate, hgenerate⟩, ⟨source, hsource⟩, -⟩ := htexts
    obtain ⟨isRequired, hrequired⟩ := exists_bool?_eq_iff.mpr hrequired
    exact ⟨⟨name, displayName, description, value, generate, source, isRequired⟩,
      ⟨hname, hdisplay, hdescription, hvalue, hgenerate, hsource, hrequired⟩, rfl⟩

/-- **The name of an entry that is kept** is that of the parameter that is read from it. -/
theorem keptName?_eq_some_iff_ofJson? :
    keptName? entry = some name ↔
      ∃ parameter, ofJson? entry = some parameter ∧ parameter.name = name ∧ name ≠ "" := by
  rw [keptName?_eq_some_iff]
  constructor
  · rintro ⟨row, hrow, htyped, hname, hne⟩
    obtain ⟨parameter, hread, rfl⟩ := (exists_isReadAs_iff htyped.within).mpr ⟨hname, htyped⟩
    exact ⟨parameter, ofJson?_eq_some_iff.mpr ⟨row, hrow, htyped.within, hread⟩, rfl, hne⟩
  · rintro ⟨parameter, hparameter, rfl, hne⟩
    obtain ⟨row, hrow, hwithin, hread⟩ := ofJson?_eq_some_iff.mp hparameter
    obtain ⟨hname, htyped⟩ := (exists_isReadAs_iff hwithin).mp ⟨parameter, hread, rfl⟩
    exact ⟨row, hrow, htyped, hname, hne⟩

/-- An object is kept under its name when it is well typed. -/
theorem keptName?_object (members : Fields Json) :
    keptName? (.object members) =
      if IsWellTyped (.named members) then (Json.object members).nonEmptyTextAt? ["name"]
      else none := by
  have hname : (Json.object members).nonEmptyTextAt? ["name"] =
      ((Fields.get? members "name").bind Json.text?).filter (· ≠ "") := by
    rw [Json.nonEmptyTextAt?, Json.textAt?, Json.at?_cons, Json.member?_object]
    cases Fields.get? members "name" with
    | none => rfl
    | some found => rfl
  rw [hname]
  rfl

/-- An entry that is marked as required. -/
def IsMarkedRequired (entry : Json) : Prop :=
  ∃ row, entry.row? = some row ∧ row.at? 6 "required" = some (.bool true)

/-- An entry that is kept and marked as required is read as a required parameter. -/
theorem exists_required_of_keptName? (hkept : keptName? entry = some name)
    (hmarked : IsMarkedRequired entry) :
    ∃ parameter, ofJson? entry = some parameter ∧ parameter.name = name ∧ name ≠ "" ∧
      parameter.isRequired = true := by
  obtain ⟨parameter, hread, hname, hne⟩ := keptName?_eq_some_iff_ofJson?.mp hkept
  obtain ⟨row, hrow, -, hfields⟩ := ofJson?_eq_some_iff.mp hread
  obtain ⟨row', hrow', hrequired⟩ := hmarked
  obtain rfl : row = row' := Option.some.inj (hrow.symm.trans hrow')
  refine ⟨parameter, hread, hname, hne, ?_⟩
  have hfield := hfields.isRequired
  rw [hrequired] at hfield
  exact (Option.some.inj hfield).symm

end Parameter

namespace Template

variable {raw : Json} {template : Template} {request : DeployRequest}

/-- The names of the entries that are objects with a name. -/
def declaredNames (raw : Json) : List String :=
  (raw.itemsAt ["parameters"]).filterMap fun entry => entry.nonEmptyTextAt? ["name"]

theorem parameters_of_ofRaw (h : ofRaw raw = .ok template) :
    template.parameters =
      ((raw.itemsAt ["parameters"]).filterMap Parameter.ofJson?).filter (·.name ≠ "") := by
  unfold ofRaw at h
  split at h
  · cases h
  · cases h
    rfl

/-- **The names of the parameters of a template** are those of the entries that are kept. -/
theorem map_name_parameters (h : ofRaw raw = .ok template) :
    template.parameters.map Parameter.name =
      (raw.itemsAt ["parameters"]).filterMap Parameter.keptName? := by
  rw [parameters_of_ofRaw h, List.filter_filterMap, List.map_filterMap]
  apply List.filterMap_congr
  intro entry _
  ext name
  rw [Parameter.keptName?_eq_some_iff_ofJson?]
  constructor
  · intro hname
    obtain ⟨parameter, hparameter, rfl⟩ := Option.map_eq_some_iff.mp hname
    obtain ⟨hread, hne⟩ := Option.filter_eq_some_iff.mp hparameter
    exact ⟨parameter, hread, rfl, by simpa using hne⟩
  · rintro ⟨parameter, hread, rfl, hne⟩
    rw [hread, Option.filter_some, if_pos (by simpa using hne)]
    rfl

/-- **A selection that leaves something out** and otherwise is another one: both come to the same
list exactly when nothing of the list is left out. -/
theorem filterMap_eq_filterMap_iff {α β : Type} {first second : α → Option β} {items : List α}
    (h : ∀ item ∈ items, first item = none ∨ first item = second item) :
    items.filterMap first = items.filterMap second ↔
      ∀ item ∈ items, first item = second item := by
  constructor
  · intro heq
    induction items with
    | nil => nofun
    | cons item rest ih =>
      obtain ⟨hitem, hrest⟩ := List.forall_mem_cons.mp h
      cases hsecond : second item with
      | none =>
        have hfirst : first item = none := by
          rcases hitem with hnone | hsame
          · exact hnone
          · rw [hsame, hsecond]
        rw [List.filterMap_cons_none hfirst, List.filterMap_cons_none hsecond] at heq
        exact List.forall_mem_cons.mpr ⟨hfirst.trans hsecond.symm, ih hrest heq⟩
      | some found =>
        rcases hitem with hnone | hsame
        -- what is left out makes the list shorter
        · have hle : (rest.filterMap first).length ≤ (rest.filterMap second).length := by
            rw [List.length_filterMap_eq_countP, List.length_filterMap_eq_countP]
            apply List.countP_mono_left
            intro other hother hsome
            rcases hrest other hother with hnone' | hsame'
            · simp [hnone'] at hsome
            · rwa [hsame'] at hsome
          rw [List.filterMap_cons_none hnone, List.filterMap_cons_some hsecond] at heq
          rw [heq, List.length_cons] at hle
          omega
        · rw [List.filterMap_cons_some (hsame.trans hsecond), List.filterMap_cons_some hsecond,
            List.cons.injEq] at heq
          exact List.forall_mem_cons.mpr ⟨hsame, ih hrest heq.2⟩
  · exact List.filterMap_congr

/-- **No name is lost** exactly when all objects with a name are well typed. -/
theorem map_name_parameters_eq_iff (h : ofRaw raw = .ok template)
    (harrays : ∀ items, .array items ∉ raw.itemsAt ["parameters"]) :
    template.parameters.map Parameter.name = declaredNames raw ↔
      ∀ members, .object members ∈ raw.itemsAt ["parameters"] →
        ((Json.object members).nonEmptyTextAt? ["name"]).isSome = true →
        Parameter.IsWellTyped (.named members) := by
  have hkept : ∀ entry ∈ raw.itemsAt ["parameters"], Parameter.keptName? entry = none ∨
      Parameter.keptName? entry = entry.nonEmptyTextAt? ["name"] := by
    intro entry hentry
    cases entry with
    | object members =>
      rw [Parameter.keptName?_object]
      by_cases htyped : Parameter.IsWellTyped (.named members)
      · exact .inr (if_pos htyped)
      · exact .inl (if_neg htyped)
    | array items => exact absurd hentry (harrays items)
    | _ => exact .inl rfl
  rw [map_name_parameters h, declaredNames, filterMap_eq_filterMap_iff hkept]
  constructor
  · intro hall members hmem hname
    have hsame := hall _ hmem
    rw [Parameter.keptName?_object] at hsame
    by_contra htyped
    rw [if_neg htyped] at hsame
    rw [← hsame] at hname
    cases hname
  · intro htyped entry hentry
    cases entry with
    | object members =>
      rw [Parameter.keptName?_object]
      cases hname : (Json.object members).nonEmptyTextAt? ["name"] with
      | none => exact ite_self none
      | some name => exact if_pos (htyped members hentry (by rw [hname]; rfl))
    | array items => exact absurd hentry (harrays items)
    | _ => rfl

/-- **A required parameter of a template is enforced**: no request for which its declaration comes
to the empty text is materialized. -/
theorem not_resolvesTo_of_ofTemplate {σ : Type} {source : RandomSource σ} {state : σ}
    {materialized : Materialized} {parameter : Parameter}
    (hmem : parameter ∈ template.parameters) (hrequired : parameter.isRequired = true)
    (h : Materialized.ofTemplate source state template request = .ok materialized) :
    ¬ Binding.ResolvesTo source (Materialized.overrides request) parameter "" := by
  intro hempty
  obtain ⟨hbind, -⟩ := Materialized.ofTemplate_eq_ok_iff.mp h
  exact Binding.not_failsBy_of_bind hbind hmem _ (.noValue hrequired hempty)

/-- **Names and required parameters of a raw template.** The names of the parameters are those of
the entries that are kept, in order. Where no entry is an array they are those of all objects with a
name exactly when all of these are well typed. What is marked as required is enforced when it is
kept. -/
theorem names_and_required_of_ofRaw (h : ofRaw raw = .ok template) :
    template.parameters.map Parameter.name =
        (raw.itemsAt ["parameters"]).filterMap Parameter.keptName? ∧
      ((∀ items, .array items ∉ raw.itemsAt ["parameters"]) →
        (template.parameters.map Parameter.name = declaredNames raw ↔
          ∀ members, .object members ∈ raw.itemsAt ["parameters"] →
            ((Json.object members).nonEmptyTextAt? ["name"]).isSome = true →
            Parameter.IsWellTyped (.named members))) ∧
      ∀ entry ∈ raw.itemsAt ["parameters"], ∀ name, Parameter.keptName? entry = some name →
        Parameter.IsMarkedRequired entry →
        ∃ parameter ∈ template.parameters, parameter.name = name ∧ parameter.isRequired = true ∧
          ∀ (σ : Type) (source : RandomSource σ) (state : σ) (request : DeployRequest)
            (materialized : Materialized),
            Materialized.ofTemplate source state template request = .ok materialized →
            ¬ Binding.ResolvesTo source (Materialized.overrides request) parameter "" := by
  refine ⟨map_name_parameters h, map_name_parameters_eq_iff h, ?_⟩
  intro entry hentry name hkept hmarked
  obtain ⟨parameter, hread, hname, hne, hrequired⟩ :=
    Parameter.exists_required_of_keptName? hkept hmarked
  have hmem : parameter ∈ template.parameters := by
    rw [parameters_of_ofRaw h, List.mem_filter]
    refine ⟨List.mem_filterMap.mpr ⟨entry, hentry, hread⟩, ?_⟩
    rw [hname]
    simpa using hne
  refine ⟨parameter, hmem, hname, hrequired, ?_⟩
  intro σ source state request materialized hmaterialized
  exact not_resolvesTo_of_ofTemplate hmem hrequired hmaterialized

/-! ## Entries with and without types -/

/-- A secret with a token to fill in. -/
def tokenSecret : Json :=
  .ofMembers [("apiVersion", .text "v1"), ("kind", .text "Secret"),
    ("metadata", .ofMembers [("name", .text "keys")]),
    ("stringData", .ofMembers [("token", .text "$\x7bTOKEN\x7d")])]

/-- A raw template of the secret, with the given entries for parameters. -/
def tokenRaw (entries : List Json) : Json :=
  .ofMembers [("metadata", .ofMembers [("name", .text "web")]), ("objects", .array [tokenSecret]),
    ("parameters", .array entries)]

/-- A required entry. -/
def tokenEntry (members : List (String × Json)) : Json :=
  .ofMembers ([("name", .text "TOKEN"), ("required", .bool true)] ++ members)

/-- A request for the template. -/
def tokenRequest : DeployRequest :=
  ⟨"web", "web", "acme-dev", none, "acme"⟩

/-- The manifest of the secret with a token. -/
def tokenManifest (token : String) : Manifest :=
  ⟨.ofKind "v1" "Secret", "keys", "acme-dev",
    .ofMembers [("apiVersion", .text "v1"), ("kind", .text "Secret"),
      ("metadata", .ofMembers [("name", .text "keys"), ("namespace", .text "acme-dev"),
        ("labels", .ofTexts (Ownership.labels "web" "acme" "web"))]),
      ("stringData", .ofMembers [("token", .text token)])]⟩

theorem itemsAt_tokenRaw (entries : List Json) :
    (tokenRaw entries).itemsAt ["parameters"] = entries := by
  rfl

/-- A well typed entry, with a member that nobody knows. -/
def typedEntry : Json :=
  tokenEntry [("value", .text "secret"), ("unit", .int 7)]

/-- The entry among some that have no name. -/
def typedEntries : List Json :=
  [.ofMembers [("value", .text "80")], typedEntry, .int 7,
    .ofMembers [("name", .text ""), ("description", .int 7)]]

/-- The template of them. -/
def typedTemplate : Template :=
  { Template.new "web" with
    objects := [tokenSecret]
    parameters := [{ name := "TOKEN", value := some "secret", isRequired := true }] }

/-- What it becomes. -/
def typedMaterialized : Materialized :=
  ⟨"web", [("NAME", "web"), ("NAMESPACE", "acme-dev"), ("TOKEN", "secret")],
    [tokenManifest "secret"]⟩

/-- No name is lost, and the required parameter is enforced. -/
theorem names_and_required_typedTemplate :
    ofRaw (tokenRaw typedEntries) = .ok typedTemplate ∧
      typedTemplate.parameters.map Parameter.name = declaredNames (tokenRaw typedEntries) ∧
      Materialized.ofTemplate Congruential.source 0 typedTemplate tokenRequest =
        .ok typedMaterialized ∧
      ∃ parameter ∈ typedTemplate.parameters, parameter.name = "TOKEN" ∧
        ¬ Binding.ResolvesTo Congruential.source (Materialized.overrides tokenRequest)
          parameter "" := by
  have htemplate : ofRaw (tokenRaw typedEntries) = .ok typedTemplate := by decide +kernel
  have hmaterialized : Materialized.ofTemplate Congruential.source 0 typedTemplate tokenRequest =
      .ok typedMaterialized := by
    decide +kernel
  obtain ⟨-, hnames, hrequired⟩ := names_and_required_of_ofRaw htemplate
  rw [itemsAt_tokenRaw] at hnames hrequired
  refine ⟨htemplate, (hnames ?_).mpr ?_, hmaterialized, ?_⟩
  · simp [typedEntries, typedEntry, tokenEntry, Json.ofMembers]
  · intro members hmem hname
    simp only [typedEntries, typedEntry, tokenEntry, Json.ofMembers, List.mem_cons,
      Json.object.injEq, reduceCtorEq, List.not_mem_nil, or_false, false_or] at hmem
    rcases hmem with rfl | rfl | rfl
    · revert hname
      decide +kernel
    · decide +kernel
    · revert hname
      decide +kernel
  · have hmem : typedEntry ∈ typedEntries := List.mem_cons_of_mem _ List.mem_cons_self
    obtain ⟨parameter, hparameter, hname, -, henforced⟩ := hrequired typedEntry hmem "TOKEN"
      (by decide +kernel) ⟨_, rfl, by decide +kernel⟩
    exact ⟨parameter, hparameter, hname, henforced _ _ _ _ _ hmaterialized⟩

/-- A required entry whose description is a number. -/
def untypedEntry : Json :=
  tokenEntry [("description", .int 7)]

/-- The template of it, which has no parameters. -/
def untypedTemplate : Template :=
  { Template.new "web" with objects := [tokenSecret] }

/-- **A required entry that is lost**: its name is not among those of the template, and a request
is materialized without a value for it, with the reference to it left in the manifest. -/
theorem exists_ofRaw_without_required :
    ofRaw (tokenRaw [untypedEntry]) = .ok untypedTemplate ∧
      untypedTemplate.parameters.map Parameter.name = [] ∧
      declaredNames (tokenRaw [untypedEntry]) = ["TOKEN"] ∧
      Parameter.IsMarkedRequired untypedEntry ∧
      Materialized.ofTemplate Congruential.source 0 untypedTemplate tokenRequest =
        .ok ⟨"web", [("NAME", "web"), ("NAMESPACE", "acme-dev")],
          [tokenManifest "$\x7bTOKEN\x7d"]⟩ := by
  refine ⟨by decide +kernel, rfl, by decide +kernel, ⟨_, rfl, by decide +kernel⟩, ?_⟩
  decide +kernel

end Template

end VmProvisioning
