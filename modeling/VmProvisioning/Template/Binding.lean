import VmProvisioning.Template.Basic
import VmProvisioning.Template.Pattern

/-!
# Binding of parameters

Every declared parameter gets a value: the caller's, else its own, else one generated from its
pattern, else the empty text. The caller's values for other names are bound as well.

## Main definitions

* `Binding.valueOf`: the value of one parameter
* `Binding.bind`: the values of all parameters
-/

namespace VmProvisioning.Binding

/-- The generator that draws from a pattern. -/
def expressionGenerator : String :=
  "expression"

variable {σ : Type}

/-- The value of a parameter, and the state of the source after it. -/
def valueOf (source : RandomSource σ) (overrides : Fields String) (parameter : Parameter)
    (state : σ) : Except Flaw (String × σ) :=
  match Fields.get? overrides parameter.name with
  | some value => .ok (value, state)
  | none =>
    match parameter.value.filter (· ≠ "") with
    | some value => .ok (value, state)
    | none =>
      if parameter.generate = some expressionGenerator then
        (Pattern.generate source (parameter.source.getD "") state).mapError
          (Flaw.pattern parameter.name)
      else .ok ("", state)

/-- The value of a parameter, which may not be empty when it is required. -/
def requiredValueOf (source : RandomSource σ) (overrides : Fields String) (parameter : Parameter)
    (state : σ) : Except Flaw (String × σ) := do
  let (value, state) ← valueOf source overrides parameter state
  if parameter.isRequired && value == "" then throw (.noValue parameter.name)
  return (value, state)

/-- Bind parameters in the order of their declaration, on top of `values`. -/
def bindDeclared (source : RandomSource σ) (overrides : Fields String) :
    List Parameter → (values : Fields String) → (state : σ) → Except Flaw (Fields String)
  | [], values, _ => .ok values
  | parameter :: rest, values, state => do
    let (value, state) ← requiredValueOf source overrides parameter state
    bindDeclared source overrides rest (Fields.insert values parameter.name value) state

/-- **Bind the parameters of a template** under the caller's `overrides`. -/
def bind (source : RandomSource σ) (templateId : String) (declared : List Parameter)
    (overrides : Fields String) (state : σ) : Except Failure (Fields String) :=
  match bindDeclared source overrides declared [] state with
  | .ok values => .ok (Fields.insertMissing values overrides)
  | .error flaw => .error (.materialization Template.kind templateId flaw)

end VmProvisioning.Binding
