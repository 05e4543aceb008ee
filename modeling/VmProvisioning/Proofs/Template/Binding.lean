import Mathlib.Data.List.Nodup
import VmProvisioning.Template.Binding
import VmProvisioning.Proofs.Fields
import VmProvisioning.Proofs.Template.Pattern

/-!
# Which values are bound

Every declared and every overriding name is bound. An override is bound as it is, and without one
the last declaration of the name decides. Binding fails with the first declaration in order that
has a pattern to draw from which cannot be read, or is required and comes to the empty text.
Whether it fails does not depend on the source of random numbers, as the length of a drawn value is
that of its pattern.

The empty text is only refused where a declaration is made. A later declaration of the same name
that is not required can still bind it to the empty text.

## Main definitions

* `Binding.ResolvesTo`: what a declaration comes to
* `Binding.FailsBy`: what is wrong with a declaration
* `Binding.IsLastDeclared`: the declaration that counts for a name
* `Binding.IsBlank`: a declaration that comes to the empty text

## Main results

* `requiredValueOf_eq_error_iff`: when a declaration is refused
* `bindDeclared_eq_error_iff`: the first declaration that is refused
* `exists_get?_of_isLastDeclared`: the last declaration of a name counts
* `bind_values_and_error_iff`: what is bound, and when binding fails
* `required_ne_empty_iff`: when all required names are bound to texts that are not empty
-/

namespace VmProvisioning.Binding

variable {σ : Type} {source : RandomSource σ} {overrides values result : Fields String}
  {parameter : Parameter} {declared : List Parameter} {name value templateId : String}
  {state after : σ} {flaw : Flaw} {failure : Failure}

/-! ## One declaration -/

/-- **A declaration without a value**: it has none that is not empty, and is not overridden. -/
structure IsUnset (overrides : Fields String) (parameter : Parameter) : Prop where
  free : Fields.get? overrides parameter.name = none
  blank : ∀ value, parameter.value = some value → value = ""

/-- **What a declaration comes to**: the override, else its own value, else one that is drawn from
its pattern, else the empty text. -/
inductive ResolvesTo (source : RandomSource σ) (overrides : Fields String)
    (parameter : Parameter) : String → Prop where
  | overridden {value : String} (h : Fields.get? overrides parameter.name = some value) :
    ResolvesTo source overrides parameter value
  | declared {value : String} (hfree : Fields.get? overrides parameter.name = none)
    (h : parameter.value = some value) (hne : value ≠ "") :
    ResolvesTo source overrides parameter value
  | generated {value : String} {state after : σ} (hunset : IsUnset overrides parameter)
    (hgenerate : parameter.generate = some expressionGenerator)
    (h : Pattern.generate source (parameter.source.getD "") state = .ok (value, after)) :
    ResolvesTo source overrides parameter value
  | empty (hunset : IsUnset overrides parameter)
    (hgenerate : parameter.generate ≠ some expressionGenerator) :
    ResolvesTo source overrides parameter ""

/-- **What is wrong with a declaration**: a pattern to draw from that cannot be read, or the empty
text where a value is required. -/
inductive FailsBy (source : RandomSource σ) (overrides : Fields String)
    (parameter : Parameter) : Flaw → Prop where
  | pattern {error : PatternError} (hunset : IsUnset overrides parameter)
    (hgenerate : parameter.generate = some expressionGenerator)
    (h : Pattern.read (parameter.source.getD "") = .error error) :
    FailsBy source overrides parameter (.pattern parameter.name error)
  | noValue (hrequired : parameter.isRequired = true)
    (h : ResolvesTo source overrides parameter "") :
    FailsBy source overrides parameter (.noValue parameter.name)

theorem valueOf_of_get? (h : Fields.get? overrides parameter.name = some value) (state : σ) :
    valueOf source overrides parameter state = .ok (value, state) := by
  rw [valueOf, h]

theorem valueOf_of_value (hfree : Fields.get? overrides parameter.name = none)
    (h : parameter.value = some value) (hne : value ≠ "") (state : σ) :
    valueOf source overrides parameter state = .ok (value, state) := by
  simp [valueOf, hfree, h, Option.filter_some, hne]

theorem valueOf_of_isUnset (h : IsUnset overrides parameter) (state : σ) :
    valueOf source overrides parameter state =
      if parameter.generate = some expressionGenerator then
        (Pattern.generate source (parameter.source.getD "") state).mapError
          (Flaw.pattern parameter.name)
      else .ok ("", state) := by
  have hfilter : parameter.value.filter (· ≠ "") = none := by
    simpa [Option.filter_eq_none_iff] using h.blank
  rw [valueOf, h.free, hfilter]

/-- A declaration is overridden, has a value or is unset. -/
theorem valueOf_cases (overrides : Fields String) (parameter : Parameter) :
    (∃ value, Fields.get? overrides parameter.name = some value) ∨
      (∃ value, Fields.get? overrides parameter.name = none ∧ parameter.value = some value ∧
        value ≠ "") ∨
      IsUnset overrides parameter := by
  cases hfree : Fields.get? overrides parameter.name with
  | some value => exact .inl ⟨value, rfl⟩
  | none =>
    by_cases hvalue : ∃ value, parameter.value = some value ∧ value ≠ ""
    · obtain ⟨value, hvalue, hne⟩ := hvalue
      exact .inr (.inl ⟨value, rfl, hvalue, hne⟩)
    · refine .inr (.inr ⟨hfree, ?_⟩)
      intro value hvalue'
      by_contra hne
      exact hvalue ⟨value, hvalue', hne⟩

theorem resolvesTo_of_valueOf (h : valueOf source overrides parameter state = .ok (value, after)) :
    ResolvesTo source overrides parameter value := by
  rcases valueOf_cases overrides parameter with
    ⟨found, hfound⟩ | ⟨found, hfree, hfound, hne⟩ | hunset
  · rw [valueOf_of_get? hfound] at h
    cases h
    exact .overridden hfound
  · rw [valueOf_of_value hfree hfound hne] at h
    cases h
    exact .declared hfree hfound hne
  · rw [valueOf_of_isUnset hunset] at h
    split at h
    · next hgenerate =>
      cases hdrawn : Pattern.generate source (parameter.source.getD "") state with
      | error error => simp [hdrawn, Except.mapError] at h
      | ok drawn =>
        simp only [hdrawn, Except.mapError, Except.ok.injEq] at h
        subst h
        exact .generated hunset hgenerate hdrawn
    · next hgenerate =>
      cases h
      exact .empty hunset hgenerate

/-- The value of a declaration fails by its pattern alone, in every state of the source. -/
theorem valueOf_eq_error_iff : valueOf source overrides parameter state = .error flaw ↔
    IsUnset overrides parameter ∧ parameter.generate = some expressionGenerator ∧
      ∃ error, Pattern.read (parameter.source.getD "") = .error error ∧
        flaw = .pattern parameter.name error := by
  constructor
  · intro h
    rcases valueOf_cases overrides parameter with
      ⟨found, hfound⟩ | ⟨found, hfree, hfound, hne⟩ | hunset
    · rw [valueOf_of_get? hfound] at h
      cases h
    · rw [valueOf_of_value hfree hfound hne] at h
      cases h
    · rw [valueOf_of_isUnset hunset] at h
      split at h
      · next hgenerate =>
        cases hdrawn : Pattern.generate source (parameter.source.getD "") state with
        | error error =>
          simp only [hdrawn, Except.mapError, Except.error.injEq] at h
          exact ⟨hunset, hgenerate, error, Pattern.generate_eq_error_iff.mp hdrawn, h.symm⟩
        | ok drawn => simp [hdrawn, Except.mapError] at h
      · cases h
  · rintro ⟨hunset, hgenerate, error, hread, rfl⟩
    rw [valueOf_of_isUnset hunset, if_pos hgenerate, Pattern.generate_eq_error_iff.mpr hread]
    rfl

theorem ResolvesTo.eq_of_get? {other : String} (h : ResolvesTo source overrides parameter value)
    (hfound : Fields.get? overrides parameter.name = some other) : value = other := by
  cases h with
  | overridden hvalue => exact Option.some.inj (hvalue.symm.trans hfound)
  | declared hfree => simp [hfree] at hfound
  | generated hunset => simp [hunset.free] at hfound
  | empty hunset => simp [hunset.free] at hfound

/-- What an unset declaration comes to has the length of its pattern, or is empty without one. -/
theorem ResolvesTo.of_isUnset (h : ResolvesTo source overrides parameter value)
    (hunset : IsUnset overrides parameter) :
    (parameter.generate = some expressionGenerator ∧
      ∃ items, Pattern.read (parameter.source.getD "") = .ok items ∧
        value.length = Pattern.drawCount items) ∨
      parameter.generate ≠ some expressionGenerator ∧ value = "" := by
  cases h with
  | overridden hfound => simp [hunset.free] at hfound
  | declared _ hown hne => exact absurd (hunset.blank _ hown) hne
  | generated _ hgenerate hdrawn =>
    obtain ⟨items, hread⟩ := Pattern.exists_read_of_generate hdrawn
    exact .inl ⟨hgenerate, items, hread, Pattern.length_of_generate hdrawn hread⟩
  | empty _ hgenerate => exact .inr ⟨hgenerate, rfl⟩

/-- **Whether a declaration comes to the empty text** does not depend on what is drawn. -/
theorem ResolvesTo.eq_empty (h : ResolvesTo source overrides parameter value)
    (hempty : ResolvesTo source overrides parameter "") : value = "" := by
  cases hempty with
  | overridden hfound => exact h.eq_of_get? hfound
  | declared _ _ hne => exact absurd rfl hne
  | generated hunset _ hdrawn =>
    rcases h.of_isUnset hunset with ⟨-, items, hread, hlength⟩ | ⟨-, hvoid⟩
    · apply String.length_eq_zero_iff.mp
      rw [hlength, ← Pattern.length_of_generate hdrawn hread]
      rfl
    · exact hvoid
  | empty hunset hgenerate =>
    rcases h.of_isUnset hunset with ⟨hgenerate', -⟩ | ⟨-, hvoid⟩
    · exact absurd hgenerate' hgenerate
    · exact hvoid

/-- A declaration that comes to anything has a value in every state of the source. -/
theorem ResolvesTo.exists_valueOf_eq_ok (h : ResolvesTo source overrides parameter value)
    (state : σ) :
    ∃ value after, valueOf source overrides parameter state = .ok (value, after) := by
  cases hvalue : valueOf source overrides parameter state with
  | ok drawn => exact ⟨drawn.1, drawn.2, rfl⟩
  | error flaw =>
    obtain ⟨hunset, hgenerate, error, hread, -⟩ := valueOf_eq_error_iff.mp hvalue
    rcases h.of_isUnset hunset with ⟨-, items, hitems, -⟩ | ⟨hgenerate', -⟩
    · simp [hread] at hitems
    · exact absurd hgenerate hgenerate'

theorem requiredValueOf_of_error (h : valueOf source overrides parameter state = .error flaw) :
    requiredValueOf source overrides parameter state = .error flaw := by
  rw [requiredValueOf, h]
  rfl

theorem requiredValueOf_of_ok (h : valueOf source overrides parameter state = .ok (value, after)) :
    requiredValueOf source overrides parameter state =
      if parameter.isRequired = true ∧ value = "" then .error (.noValue parameter.name)
      else .ok (value, after) := by
  rw [requiredValueOf, h]
  by_cases hmissing : parameter.isRequired = true ∧ value = ""
  · have htest : (parameter.isRequired && value == "") = true := by simp [hmissing]
    simp only [Bind.bind, Except.bind, htest, if_pos hmissing, if_true]
    rfl
  · have htest : (parameter.isRequired && value == "") = false := by simpa using hmissing
    simp only [Bind.bind, Except.bind, htest, if_neg hmissing]
    rfl

/-- **When a declaration is refused**: for its flaws, in every state of the source. -/
theorem requiredValueOf_eq_error_iff :
    requiredValueOf source overrides parameter state = .error flaw ↔
      FailsBy source overrides parameter flaw := by
  constructor
  · intro h
    cases hvalue : valueOf source overrides parameter state with
    | error other =>
      rw [requiredValueOf_of_error hvalue] at h
      cases h
      obtain ⟨hunset, hgenerate, error, hread, rfl⟩ := valueOf_eq_error_iff.mp hvalue
      exact .pattern hunset hgenerate hread
    | ok drawn =>
      rw [requiredValueOf_of_ok hvalue] at h
      split at h
      · next hmissing =>
        cases h
        have hresolves := resolvesTo_of_valueOf hvalue
        rw [hmissing.2] at hresolves
        exact .noValue hmissing.1 hresolves
      · cases h
  · intro h
    cases h with
    | pattern hunset hgenerate hread =>
      apply requiredValueOf_of_error
      exact valueOf_eq_error_iff.mpr ⟨hunset, hgenerate, _, hread, rfl⟩
    | noValue hrequired hempty =>
      obtain ⟨value, after, hvalue⟩ := hempty.exists_valueOf_eq_ok state
      have hvoid : value = "" := (resolvesTo_of_valueOf hvalue).eq_empty hempty
      rw [requiredValueOf_of_ok hvalue, if_pos ⟨hrequired, hvoid⟩]

/-- Nothing is wrong with a declaration that is not refused. -/
theorem not_failsBy_of_requiredValueOf
    (h : requiredValueOf source overrides parameter state = .ok (value, after)) (flaw : Flaw) :
    ¬ FailsBy source overrides parameter flaw := by
  intro hfails
  have hrefused : requiredValueOf source overrides parameter state = .error flaw :=
    requiredValueOf_eq_error_iff.mpr hfails
  rw [h] at hrefused
  cases hrefused

/-- What a declaration that is not refused comes to. -/
theorem resolvesTo_of_requiredValueOf
    (h : requiredValueOf source overrides parameter state = .ok (value, after)) :
    ResolvesTo source overrides parameter value := by
  cases hvalue : valueOf source overrides parameter state with
  | error flaw =>
    rw [requiredValueOf_of_error hvalue] at h
    cases h
  | ok drawn =>
    rw [requiredValueOf_of_ok hvalue] at h
    split at h
    · cases h
    · cases h
      exact resolvesTo_of_valueOf hvalue

/-! ## All declarations -/

/-- **The declaration that counts for a name** is the last one of it. -/
def IsLastDeclared (declared : List Parameter) (name : String) (parameter : Parameter) : Prop :=
  ∃ before after, declared = before ++ parameter :: after ∧ parameter.name = name ∧
    ∀ later ∈ after, later.name ≠ name

theorem exists_isLastDeclared (h : ∃ parameter ∈ declared, parameter.name = name) :
    ∃ parameter, IsLastDeclared declared name parameter := by
  induction declared with
  | nil => simp at h
  | cons first rest ih =>
    by_cases hrest : ∃ parameter ∈ rest, parameter.name = name
    · obtain ⟨parameter, before, after, rfl, hname, hlater⟩ := ih hrest
      exact ⟨parameter, first :: before, after, rfl, hname, hlater⟩
    · obtain ⟨parameter, hmem, hname⟩ := h
      rcases List.mem_cons.mp hmem with rfl | hmem
      · refine ⟨parameter, [], rest, rfl, hname, ?_⟩
        intro later hlater heq
        exact hrest ⟨later, hlater, heq⟩
      · exact absurd ⟨parameter, hmem, hname⟩ hrest

theorem bindDeclared_cons_of_error
    (h : requiredValueOf source overrides parameter state = .error flaw) :
    bindDeclared source overrides (parameter :: declared) values state = .error flaw := by
  rw [bindDeclared, h]
  rfl

theorem bindDeclared_cons_of_ok
    (h : requiredValueOf source overrides parameter state = .ok (value, after)) :
    bindDeclared source overrides (parameter :: declared) values state =
      bindDeclared source overrides declared (Fields.insert values parameter.name value) after := by
  rw [bindDeclared, h]
  rfl

theorem bindDeclared_cons_eq_ok_iff :
    bindDeclared source overrides (parameter :: declared) values state = .ok result ↔
      ∃ value after, requiredValueOf source overrides parameter state = .ok (value, after) ∧
        bindDeclared source overrides declared (Fields.insert values parameter.name value) after =
          .ok result := by
  cases hvalue : requiredValueOf source overrides parameter state with
  | error flaw => simp [bindDeclared_cons_of_error hvalue]
  | ok drawn =>
    obtain ⟨value, after⟩ := drawn
    simp [bindDeclared_cons_of_ok hvalue]

/-- **The first declaration that is refused** ends the binding. -/
theorem bindDeclared_eq_error_iff :
    bindDeclared source overrides declared values state = .error flaw ↔
      ∃ before parameter after, declared = before ++ parameter :: after ∧
        (∀ earlier ∈ before, ∀ flaw, ¬ FailsBy source overrides earlier flaw) ∧
        FailsBy source overrides parameter flaw := by
  -- Induction on the declarations left, from any values and any state.
  induction declared generalizing values state with
  | nil => simp [bindDeclared]
  | cons first rest ih =>
    cases hvalue : requiredValueOf source overrides first state with
    | error other =>
      have hfails := requiredValueOf_eq_error_iff.mp hvalue
      rw [bindDeclared_cons_of_error hvalue]
      constructor
      · intro h
        cases h
        exact ⟨[], first, rest, rfl, by simp, hfails⟩
      · rintro ⟨before, parameter, after, heq, hbefore, hparameter⟩
        rcases List.cons_eq_append_iff.mp heq with ⟨rfl, hcons⟩ | ⟨others, rfl, -⟩
        · cases hcons
          have hrefused : requiredValueOf source overrides first state = .error flaw :=
            requiredValueOf_eq_error_iff.mpr hparameter
          rw [hvalue] at hrefused
          rw [Except.error.inj hrefused]
        · exact absurd hfails (hbefore first List.mem_cons_self other)
    | ok drawn =>
      obtain ⟨value, next⟩ := drawn
      have hfirst := not_failsBy_of_requiredValueOf hvalue
      rw [bindDeclared_cons_of_ok hvalue, ih]
      constructor
      · rintro ⟨before, parameter, after, rfl, hbefore, hparameter⟩
        exact ⟨first :: before, parameter, after, rfl,
          List.forall_mem_cons.mpr ⟨hfirst, hbefore⟩, hparameter⟩
      · rintro ⟨before, parameter, after, heq, hbefore, hparameter⟩
        rcases List.cons_eq_append_iff.mp heq with ⟨rfl, hcons⟩ | ⟨others, rfl, rfl⟩
        · cases hcons
          exact absurd hparameter (hfirst flaw)
        · exact ⟨others, parameter, after, rfl, (List.forall_mem_cons.mp hbefore).2, hparameter⟩

/-- Nothing is wrong with declarations that are bound. -/
theorem not_failsBy_of_bindDeclared
    (h : bindDeclared source overrides declared values state = .ok result) :
    ∀ parameter ∈ declared, ∀ flaw, ¬ FailsBy source overrides parameter flaw := by
  induction declared generalizing values state with
  | nil => nofun
  | cons first rest ih =>
    obtain ⟨value, next, hvalue, hnext⟩ := bindDeclared_cons_eq_ok_iff.mp h
    exact List.forall_mem_cons.mpr ⟨not_failsBy_of_requiredValueOf hvalue, ih hnext⟩

/-- Binding leaves names that are not declared as they are. -/
theorem get?_bindDeclared_of_not_declared
    (h : bindDeclared source overrides declared values state = .ok result)
    (hname : ∀ parameter ∈ declared, parameter.name ≠ name) :
    Fields.get? result name = Fields.get? values name := by
  induction declared generalizing values state with
  | nil =>
    cases h
    rfl
  | cons first rest ih =>
    obtain ⟨hfirst, hrest⟩ := List.forall_mem_cons.mp hname
    obtain ⟨value, next, -, hnext⟩ := bindDeclared_cons_eq_ok_iff.mp h
    rw [ih hnext hrest, Fields.get?_insert, if_neg hfirst]

/-- **The last declaration of a name counts.** -/
theorem exists_get?_of_isLastDeclared
    (h : bindDeclared source overrides declared values state = .ok result)
    (hlast : IsLastDeclared declared name parameter) :
    ∃ value, Fields.get? result name = some value ∧
      ResolvesTo source overrides parameter value := by
  obtain ⟨before, after, rfl, rfl, hlater⟩ := hlast
  induction before generalizing values state with
  | nil =>
    obtain ⟨value, next, hvalue, hnext⟩ := bindDeclared_cons_eq_ok_iff.mp h
    refine ⟨value, ?_, resolvesTo_of_requiredValueOf hvalue⟩
    rw [get?_bindDeclared_of_not_declared hnext hlater, Fields.get?_insert, if_pos rfl]
  | cons first rest ih =>
    obtain ⟨value, next, -, hnext⟩ := bindDeclared_cons_eq_ok_iff.mp h
    exact ih hnext

/-! ## Binding -/

theorem bind_eq_error_iff :
    Binding.bind source templateId declared overrides state = .error failure ↔
      ∃ flaw, bindDeclared source overrides declared [] state = .error flaw ∧
        failure = .materialization Template.kind templateId flaw := by
  unfold Binding.bind
  cases hbound : bindDeclared source overrides declared [] state with
  | ok bound => simp
  | error flaw => simp [eq_comm]

theorem bind_eq_ok_iff : Binding.bind source templateId declared overrides state = .ok values ↔
    ∃ bound, bindDeclared source overrides declared [] state = .ok bound ∧
      values = Fields.insertMissing bound overrides := by
  unfold Binding.bind
  cases hbound : bindDeclared source overrides declared [] state with
  | ok bound => simp [eq_comm]
  | error flaw => simp

/-- Nothing is wrong with the declarations of parameters that are bound. -/
theorem not_failsBy_of_bind
    (h : Binding.bind source templateId declared overrides state = .ok values)
    (hmem : parameter ∈ declared) (flaw : Flaw) : ¬ FailsBy source overrides parameter flaw := by
  obtain ⟨bound, hbound, -⟩ := bind_eq_ok_iff.mp h
  exact not_failsBy_of_bindDeclared hbound parameter hmem flaw

/-- **A declared name is bound** to what its last declaration comes to. -/
theorem exists_get?_bind_of_isLastDeclared
    (h : Binding.bind source templateId declared overrides state = .ok values)
    (hlast : IsLastDeclared declared name parameter) :
    ∃ value, Fields.get? values name = some value ∧
      ResolvesTo source overrides parameter value := by
  obtain ⟨bound, hbound, rfl⟩ := bind_eq_ok_iff.mp h
  obtain ⟨value, hvalue, hresolves⟩ := exists_get?_of_isLastDeclared hbound hlast
  refine ⟨value, ?_, hresolves⟩
  rw [Fields.get?_insertMissing, hvalue, Option.some_or]

/-- A name that is not declared is bound to its override. -/
theorem get?_bind_of_not_declared
    (h : Binding.bind source templateId declared overrides state = .ok values)
    (hname : ¬ ∃ parameter ∈ declared, parameter.name = name) :
    Fields.get? values name = Fields.get? overrides name := by
  obtain ⟨bound, hbound, rfl⟩ := bind_eq_ok_iff.mp h
  have hnone : Fields.get? bound name = Fields.get? ([] : Fields String) name :=
    get?_bindDeclared_of_not_declared hbound fun parameter hmem heq =>
      hname ⟨parameter, hmem, heq⟩
  rw [Fields.get?_insertMissing, hnone, Fields.get?_nil, Option.none_or]

/-- An override is bound as it is, declared or not. -/
theorem get?_bind_of_overridden
    (h : Binding.bind source templateId declared overrides state = .ok values)
    (hname : Fields.get? overrides name = some value) : Fields.get? values name = some value := by
  by_cases hdeclared : ∃ parameter ∈ declared, parameter.name = name
  · obtain ⟨parameter, hlast⟩ := exists_isLastDeclared hdeclared
    obtain ⟨found, hfound, hresolves⟩ := exists_get?_bind_of_isLastDeclared h hlast
    obtain ⟨-, -, -, rfl, -⟩ := hlast
    rw [hfound, hresolves.eq_of_get? hname]
  · rw [get?_bind_of_not_declared h hdeclared, hname]

/-- **The names that are bound** are those that are declared and those that are overridden. -/
theorem mem_keys_bind_iff
    (h : Binding.bind source templateId declared overrides state = .ok values) :
    name ∈ Fields.keys values ↔
      (∃ parameter ∈ declared, parameter.name = name) ∨ name ∈ Fields.keys overrides := by
  by_cases hdeclared : ∃ parameter ∈ declared, parameter.name = name
  · obtain ⟨parameter, hlast⟩ := exists_isLastDeclared hdeclared
    obtain ⟨value, hvalue, -⟩ := exists_get?_bind_of_isLastDeclared h hlast
    simp [hdeclared, ← Fields.get?_isSome_iff, hvalue]
  · simp [hdeclared, ← Fields.get?_isSome_iff, get?_bind_of_not_declared h hdeclared]

/-- **What is bound, and when binding fails.** The bound names are those that are declared and
those that are overridden. An override is bound as it is, and every other name to what its last
declaration comes to. Binding fails by the first declaration that has an unreadable pattern to draw
from, or is required and comes to the empty text. -/
theorem bind_values_and_error_iff (source : RandomSource σ) (templateId : String)
    (declared : List Parameter) (overrides : Fields String) (state : σ) :
    (∀ values, Binding.bind source templateId declared overrides state = .ok values →
      (∀ name, name ∈ Fields.keys values ↔
        (∃ parameter ∈ declared, parameter.name = name) ∨ name ∈ Fields.keys overrides) ∧
      (∀ name value, Fields.get? overrides name = some value →
        Fields.get? values name = some value) ∧
      ∀ name parameter, Fields.get? overrides name = none →
        IsLastDeclared declared name parameter →
        ∃ value, Fields.get? values name = some value ∧
          ResolvesTo source overrides parameter value) ∧
    ∀ failure, Binding.bind source templateId declared overrides state = .error failure ↔
      ∃ before parameter after flaw, declared = before ++ parameter :: after ∧
        (∀ earlier ∈ before, ∀ flaw, ¬ FailsBy source overrides earlier flaw) ∧
        FailsBy source overrides parameter flaw ∧
        failure = .materialization Template.kind templateId flaw := by
  constructor
  · intro values h
    refine ⟨fun name => mem_keys_bind_iff h, fun name value => get?_bind_of_overridden h, ?_⟩
    intro name parameter _ hlast
    exact exists_get?_bind_of_isLastDeclared h hlast
  · intro failure
    rw [bind_eq_error_iff]
    constructor
    · rintro ⟨flaw, hflaw, rfl⟩
      obtain ⟨before, parameter, after, hdeclared, hbefore, hfails⟩ :=
        bindDeclared_eq_error_iff.mp hflaw
      exact ⟨before, parameter, after, flaw, hdeclared, hbefore, hfails, rfl⟩
    · rintro ⟨before, parameter, after, flaw, hdeclared, hbefore, hfails, rfl⟩
      exact ⟨flaw, bindDeclared_eq_error_iff.mpr
        ⟨before, parameter, after, hdeclared, hbefore, hfails⟩, rfl⟩

/-- Declarations of which one name stands twice, one is drawn and one is overridden. -/
def assortedParameters : List Parameter :=
  [{ name := "PORT", value := some "80" },
    { name := "TOKEN", generate := some "expression", source := some "[a]\x7b3\x7d",
      isRequired := true },
    { name := "PORT", value := some "8080" }, { name := "DISK_SIZE", value := some "30Gi" },
    { name := "NOTE" }]

/-- What the caller says of them. -/
def assortedOverrides : Fields String :=
  [("DISK_SIZE", "50Gi"), ("NAME", "web-1")]

/-- What they are bound to. -/
def assortedValues : Fields String :=
  [("DISK_SIZE", "50Gi"), ("NAME", "web-1"), ("NOTE", ""), ("PORT", "8080"), ("TOKEN", "aaa")]

theorem bind_assortedParameters :
    Binding.bind Congruential.source "web" assortedParameters assortedOverrides 7 =
        .ok assortedValues ∧
      (Fields.get? assortedOverrides "DISK_SIZE" = some "50Gi" ∧
        Fields.get? assortedValues "DISK_SIZE" = some "50Gi") ∧
      ∃ port, Fields.get? assortedOverrides "PORT" = none ∧
        IsLastDeclared assortedParameters "PORT" port ∧
        ∃ value, Fields.get? assortedValues "PORT" = some value ∧
          ResolvesTo Congruential.source assortedOverrides port value := by
  have hbound : Binding.bind Congruential.source "web" assortedParameters assortedOverrides 7 =
      .ok assortedValues := by
    decide +kernel
  obtain ⟨-, hoverridden, hfree⟩ := (bind_values_and_error_iff Congruential.source "web"
    assortedParameters assortedOverrides 7).1 assortedValues hbound
  have hlast : IsLastDeclared assortedParameters "PORT"
      { name := "PORT", value := some "8080" } :=
    ⟨assortedParameters.take 2, assortedParameters.drop 3, rfl, rfl, by decide +kernel⟩
  exact ⟨hbound, ⟨rfl, hoverridden "DISK_SIZE" "50Gi" rfl⟩, _, rfl, hlast,
    hfree "PORT" _ rfl hlast⟩

/-! ## Required parameters -/

/-- **A declaration that comes to the empty text** unless it is overridden: it has no value, and
nothing is drawn for it. -/
structure IsBlank (parameter : Parameter) : Prop where
  blank : ∀ value, parameter.value = some value → value = ""
  undrawn : parameter.generate = some expressionGenerator →
    ∃ items, Pattern.read (parameter.source.getD "") = .ok items ∧ Pattern.drawCount items = 0

theorem resolvesTo_empty_iff_isBlank (source : RandomSource σ) (state : σ)
    (hfree : Fields.get? overrides parameter.name = none) :
    ResolvesTo source overrides parameter "" ↔ IsBlank parameter := by
  constructor
  · intro h
    have hunset : IsUnset overrides parameter := by
      refine ⟨hfree, fun value hvalue => ?_⟩
      by_contra hne
      exact hne (ResolvesTo.eq_empty (.declared hfree hvalue hne) h)
    refine ⟨hunset.blank, fun hgenerate => ?_⟩
    rcases h.of_isUnset hunset with ⟨-, items, hread, hlength⟩ | ⟨hgenerate', -⟩
    · exact ⟨items, hread, hlength.symm⟩
    · exact absurd hgenerate hgenerate'
  · rintro ⟨hblank, hundrawn⟩
    by_cases hgenerate : parameter.generate = some expressionGenerator
    · obtain ⟨items, hread, hcount⟩ := hundrawn hgenerate
      obtain ⟨value, after, hdrawn⟩ := Pattern.exists_generate_eq_ok hread source state
      have hlength := Pattern.length_of_generate hdrawn hread
      have hvoid : value = "" := String.length_eq_zero_iff.mp (hlength.trans hcount)
      rw [hvoid] at hdrawn
      exact .generated ⟨hfree, hblank⟩ hgenerate hdrawn
    · exact .empty ⟨hfree, hblank⟩ hgenerate

/-- **A required name is bound to a text that is not empty** exactly when it is overridden or its
last declaration does not come to the empty text. -/
theorem required_ne_empty_iff_of_mem
    (h : Binding.bind source templateId declared overrides state = .ok values)
    (hmem : parameter ∈ declared) (hrequired : parameter.isRequired = true) :
    (∃ value, Fields.get? values parameter.name = some value ∧ value ≠ "") ↔
      (Fields.get? overrides parameter.name = none →
        ∀ last, IsLastDeclared declared parameter.name last → ¬ IsBlank last) := by
  constructor
  · rintro ⟨value, hvalue, hne⟩ hfree last hlast hblank
    obtain ⟨found, hfound, hresolves⟩ := exists_get?_bind_of_isLastDeclared h hlast
    obtain rfl : value = found := Option.some.inj (hvalue.symm.trans hfound)
    obtain ⟨-, -, -, hname, -⟩ := hlast
    rw [← hname] at hfree
    exact hne (hresolves.eq_empty ((resolvesTo_empty_iff_isBlank source state hfree).mpr hblank))
  · intro hlasts
    obtain ⟨last, hlast⟩ := exists_isLastDeclared ⟨parameter, hmem, rfl⟩
    cases hfound : Fields.get? overrides parameter.name with
    | some value =>
      refine ⟨value, get?_bind_of_overridden h hfound, ?_⟩
      -- an empty override has been refused
      rintro rfl
      exact not_failsBy_of_bind h hmem _ (.noValue hrequired (.overridden hfound))
    | none =>
      obtain ⟨value, hvalue, hresolves⟩ := exists_get?_bind_of_isLastDeclared h hlast
      refine ⟨value, hvalue, ?_⟩
      rintro rfl
      have hblank := hlasts hfound last hlast
      obtain ⟨-, -, -, hname, -⟩ := hlast
      rw [← hname] at hfound
      exact hblank ((resolvesTo_empty_iff_isBlank source state hfound).mp hresolves)

/-- **When all required names are bound to texts that are not empty**: exactly when no last
declaration of a required name comes to the empty text, unless it is overridden; so it is for
declarations of which no two have one name. -/
theorem required_ne_empty_iff
    (h : Binding.bind source templateId declared overrides state = .ok values) :
    ((∀ parameter ∈ declared, parameter.isRequired = true →
        ∃ value, Fields.get? values parameter.name = some value ∧ value ≠ "") ↔
      ∀ parameter ∈ declared, parameter.isRequired = true →
        Fields.get? overrides parameter.name = none →
        ∀ last, IsLastDeclared declared parameter.name last → ¬ IsBlank last) ∧
    ((declared.map Parameter.name).Nodup →
      ∀ parameter ∈ declared, parameter.isRequired = true →
        ∃ value, Fields.get? values parameter.name = some value ∧ value ≠ "") := by
  constructor
  · constructor
    · intro hall parameter hmem hrequired
      exact (required_ne_empty_iff_of_mem h hmem hrequired).mp (hall parameter hmem hrequired)
    · intro hlasts parameter hmem hrequired
      exact (required_ne_empty_iff_of_mem h hmem hrequired).mpr (hlasts parameter hmem hrequired)
  · intro hnodup parameter hmem hrequired
    rw [required_ne_empty_iff_of_mem h hmem hrequired]
    rintro hfree last ⟨before, after, hdeclared, hname, -⟩ hblank
    have hlast : last ∈ declared := by simp [hdeclared]
    obtain rfl : last = parameter := List.inj_on_of_nodup_map hnodup hlast hmem hname
    have hempty := (resolvesTo_empty_iff_isBlank source state hfree).mpr hblank
    exact not_failsBy_of_bind h hmem _ (.noValue hrequired hempty)

/-- A required declaration with a value, and a later one of the same name with none. -/
def repeatedToken : List Parameter :=
  [{ name := "TOKEN", value := some "secret", isRequired := true }, { name := "TOKEN" }]

/-- Required and then declared once more, a name that is overridden has a value. -/
theorem required_overriddenToken :
    Binding.bind Congruential.source "web" repeatedToken [("TOKEN", "other")] 0 =
        .ok [("TOKEN", "other")] ∧
      ∀ parameter ∈ repeatedToken, parameter.isRequired = true →
        ∃ value, Fields.get? [("TOKEN", "other")] parameter.name = some value ∧ value ≠ "" := by
  have hbound : Binding.bind Congruential.source "web" repeatedToken [("TOKEN", "other")] 0 =
      .ok [("TOKEN", "other")] := by
    decide +kernel
  refine ⟨hbound, (required_ne_empty_iff hbound).1.mpr ?_⟩
  intro parameter hmem _ hfree
  have hname : parameter.name = "TOKEN" := by
    revert parameter
    decide +kernel
  rw [hname] at hfree
  cases hfree

/-- Without an override it is bound to the empty text, although it is required. -/
theorem exists_required_bound_to_empty :
    ∃ values, Binding.bind Congruential.source "web" repeatedToken [] 0 = .ok values ∧
      ∃ parameter ∈ repeatedToken, parameter.isRequired = true ∧
        Fields.get? values parameter.name = some "" :=
  ⟨[("TOKEN", "")], by decide +kernel, _, List.mem_cons_self, rfl, rfl⟩

end VmProvisioning.Binding
