import VmProvisioning.Interaction

/-!
# Runs of interactions

An interaction whose partner may answer anything has runs: the queries with the replies to them,
and the result. The runs of a composed interaction are put together from runs of its parts.

## Main definitions

* `Interaction.Advances`: one query of an interaction with a partner that has a state
* `Interaction.Event`: a query with the reply to it
* `Interaction.Runs`: the events and the result of a run
* `Interaction.Asks`: what an interaction asks, whatever the replies are
* `Operation.exec`: an operation with a partner that has a state
* `Interaction.via`: a partner that has a partner itself

## Main results

* `runs_andThen_iff`: the runs of a sequence of two interactions
* `runs_bind_iff`, `runs_tryCatch_iff`: the runs of operations that may fail
* `Asks.exec_preserves`: what every query leaves true, an operation leaves true
* `exec_bind`, `exec_mapM`, `exec_forM`: operations one after the other with a partner that has a
  state
* `exec_bind_eq_ok`, `exec_tryCatch_eq_ok`, `exec_mapM_eq_ok`, `exec_forM_eq_ok`: what succeeded,
  succeeded in its parts
* `run_run`: an interaction whose partner has interactions of its own
-/

namespace VmProvisioning

namespace Interaction

variable {Query : Type} {Reply : Query → Type} {α β : Type}

/-! ## Laws -/

theorem andThen_done (interaction : Interaction Query Reply α) :
    interaction.andThen done = interaction := by
  induction interaction with
  | done result => rfl
  | ask query next ih =>
    rw [andThen]
    congr 1
    funext reply
    exact ih reply

theorem andThen_andThen {γ : Type} (interaction : Interaction Query Reply α)
    (next : α → Interaction Query Reply β) (last : β → Interaction Query Reply γ) :
    (interaction.andThen next).andThen last =
      interaction.andThen fun value => (next value).andThen last := by
  induction interaction with
  | done result => rfl
  | ask query continuation ih =>
    simp only [andThen]
    congr 1
    funext reply
    exact ih reply

instance : LawfulMonad (Interaction Query Reply) :=
  LawfulMonad.mk' _ andThen_done (fun _ _ => rfl) andThen_andThen

/-- A sequence is run one part after the other. -/
theorem run_andThen {m : Type → Type} [Monad m] [LawfulMonad m]
    (answer : (query : Query) → m (Reply query)) (interaction : Interaction Query Reply α)
    (next : α → Interaction Query Reply β) :
    (interaction.andThen next).run answer =
      interaction.run answer >>= fun value => (next value).run answer := by
  induction interaction with
  | done result => simp [andThen, run]
  | ask query continuation ih => simp [andThen, run, ih]

/-- The result of an interaction that is done. -/
def result? : Interaction Query Reply α → Option α
  | done result => some result
  | ask .. => none

theorem result?_eq_some_iff {interaction : Interaction Query Reply α} {result : α} :
    interaction.result? = some result ↔ interaction = .done result := by
  cases interaction with
  | done value => simp [result?]
  | ask query next => simp [result?]

/-! ## One query -/

/-- **One query of an interaction and its reply**: what is left of the interaction, and the state of
the partner. -/
inductive Advances {σ : Type} (answer : (query : Query) → StateM σ (Reply query)) :
    Interaction Query Reply α → σ → Interaction Query Reply α → σ → Prop
  | ask (query : Query) (next : Reply query → Interaction Query Reply α) (state : σ) :
    Advances answer (.ask query next) state (next ((answer query).run state).1)
      ((answer query).run state).2

namespace Advances

variable {σ : Type} {answer : (query : Query) → StateM σ (Reply query)}
  {interaction next : Interaction Query Reply α} {state changed : σ}

theorem andThen (h : Advances answer interaction state next changed)
    (last : α → Interaction Query Reply β) :
    Advances answer (interaction.andThen last) state (next.andThen last) changed := by
  cases h
  exact .ask _ _ _

/-- A run begins with the first query. -/
theorem run (h : Advances answer interaction state next changed) :
    (interaction.run answer).run state = (next.run answer).run changed := by
  cases h
  rfl

end Advances

/-! ## Runs with any partner -/

/-- A query with the reply to it. -/
abbrev Event (Query : Type) (Reply : Query → Type) :=
  (query : Query) × Reply query

/-- **A run of an interaction**: its events in order, and its result. -/
inductive Runs : Interaction Query Reply α → List (Event Query Reply) → α → Prop
  | done (result : α) : Runs (.done result) [] result
  | ask {query : Query} {next : Reply query → Interaction Query Reply α} (reply : Reply query)
      {trace : List (Event Query Reply)} {result : α} :
    Runs (next reply) trace result → Runs (.ask query next) (⟨query, reply⟩ :: trace) result

variable {trace : List (Event Query Reply)}

@[simp] theorem runs_done_iff {value result : α} :
    Runs (done value : Interaction Query Reply α) trace result ↔ trace = [] ∧ result = value := by
  constructor
  · rintro ⟨⟩
    exact ⟨rfl, rfl⟩
  · rintro ⟨rfl, rfl⟩
    exact .done _

@[simp] theorem runs_ask_iff {query : Query} {next : Reply query → Interaction Query Reply α}
    {result : α} :
    Runs (ask query next) trace result ↔
      ∃ reply rest, trace = ⟨query, reply⟩ :: rest ∧ Runs (next reply) rest result := by
  constructor
  · intro h
    cases h with
    | ask reply hrest => exact ⟨reply, _, rfl, hrest⟩
  · rintro ⟨reply, rest, rfl, hrest⟩
    exact .ask reply hrest

/-- **A run of a sequence** is a run of the first part followed by one of the second. -/
theorem runs_andThen_iff {first : Interaction Query Reply α} {next : α → Interaction Query Reply β}
    {result : β} :
    Runs (first.andThen next) trace result ↔
      ∃ before value rest, trace = before ++ rest ∧ Runs first before value ∧
        Runs (next value) rest result := by
  -- Induction on the first interaction: its first event is that of the sequence.
  induction first generalizing trace with
  | done value =>
    simp only [andThen, runs_done_iff]
    constructor
    · exact fun h => ⟨[], value, trace, rfl, ⟨rfl, rfl⟩, h⟩
    · rintro ⟨_, _, rest, rfl, ⟨rfl, rfl⟩, hrest⟩
      exact hrest
  | ask query continuation ih =>
    simp only [andThen, runs_ask_iff, ih]
    constructor
    · rintro ⟨reply, _, rfl, before, value, rest, rfl, hbefore, hrest⟩
      exact ⟨⟨query, reply⟩ :: before, value, rest, rfl, ⟨reply, before, rfl, hbefore⟩, hrest⟩
    · rintro ⟨_, value, rest, rfl, ⟨reply, before, rfl, hbefore⟩, hrest⟩
      exact ⟨reply, before ++ rest, rfl, before, value, rest, rfl, hbefore, hrest⟩

/-! ## What is asked -/

/-- **An interaction asks only some queries**, and has only some results, whatever the replies
are. -/
def Asks (IsAsked : Query → Prop) (IsResult : α → Prop) : Interaction Query Reply α → Prop
  | done result => IsResult result
  | ask query next => IsAsked query ∧ ∀ reply, (next reply).Asks IsAsked IsResult

variable {IsAsked : Query → Prop} {IsResult : α → Prop}

theorem Asks.andThen {first : Interaction Query Reply α} {next : α → Interaction Query Reply β}
    {IsLast : β → Prop} (hfirst : first.Asks IsAsked IsResult)
    (hnext : ∀ value, IsResult value → (next value).Asks IsAsked IsLast) :
    (first.andThen next).Asks IsAsked IsLast := by
  induction first with
  | done value => exact hnext value hfirst
  | ask query continuation ih => exact ⟨hfirst.1, fun reply => ih reply (hfirst.2 reply)⟩

/-- **What every query leaves true**, an interaction leaves true. -/
theorem Asks.run_preserves {σ : Type} {answer : (query : Query) → StateM σ (Reply query)}
    {interaction : Interaction Query Reply α} {Holds : σ → Prop}
    (h : interaction.Asks IsAsked IsResult)
    (hanswer : ∀ query, IsAsked query → ∀ state, Holds state →
      Holds ((answer query).run state).2) {state : σ} (hstate : Holds state) :
    Holds ((interaction.run answer).run state).2 := by
  -- Induction on the interaction, with what holds of the state as the invariant.
  induction interaction generalizing state with
  | done result => exact hstate
  | ask query next ih => exact ih _ (h.2 _) (hanswer query h.1 state hstate)

end Interaction

namespace Operation

open Interaction

variable {Query : Type} {Reply : Query → Type} {α β : Type}
  {trace : List (Event Query Reply)}

@[simp] theorem runs_pure_iff {value : α} {result : Except Failure α} :
    Runs (pure value : Operation Query Reply α).run trace result ↔
      trace = [] ∧ result = .ok value :=
  runs_done_iff

@[simp] theorem runs_throw_iff {failure : Failure} {result : Except Failure α} :
    Runs (throw failure : Operation Query Reply α).run trace result ↔
      trace = [] ∧ result = .error failure :=
  runs_done_iff

@[simp] theorem runs_ofExcept_iff {outcome result : Except Failure α} :
    Runs (ofExcept outcome : Operation Query Reply α).run trace result ↔
      trace = [] ∧ result = outcome :=
  runs_done_iff

@[simp] theorem ofExcept_ok_bind {value : α} {next : α → Operation Query Reply β} :
    ofExcept (.ok value) >>= next = next value := by
  rfl

@[simp] theorem ofExcept_error_bind {failure : Failure} {next : α → Operation Query Reply β} :
    ofExcept (.error failure) >>= next = throw failure := by
  rfl

/-- A sequence of operations goes on where the first one succeeds. -/
theorem bind_run (first : Operation Query Reply α) (next : α → Operation Query Reply β) :
    (first >>= next).run = first.run.andThen fun
      | .ok value => (next value).run
      | .error failure => .done (.error failure) := by
  show Interaction.andThen _ _ = _
  congr 1
  funext outcome
  cases outcome <;> rfl

theorem forM_cons (operation : α → Operation Query Reply PUnit) (element : α)
    (elements : List α) :
    (element :: elements).forM operation =
      (operation element >>= fun _ => elements.forM operation) := by
  rfl

/-- **A run of a sequence of operations** ends with the failure of the first one, or goes on with
its value. -/
theorem runs_bind_iff {first : Operation Query Reply α} {next : α → Operation Query Reply β}
    {result : Except Failure β} :
    Runs (first >>= next).run trace result ↔
      (∃ failure, Runs first.run trace (.error failure) ∧ result = .error failure) ∨
        ∃ before value rest, trace = before ++ rest ∧ Runs first.run before (.ok value) ∧
          Runs (next value).run rest result := by
  rw [bind_run, runs_andThen_iff]
  constructor
  · rintro ⟨before, value | value, rest, rfl, hbefore, hrest⟩
    · obtain ⟨rfl, rfl⟩ := runs_done_iff.mp hrest
      exact .inl ⟨value, by simpa using hbefore, rfl⟩
    · exact .inr ⟨before, value, rest, rfl, hbefore, hrest⟩
  · rintro (⟨failure, hfailure, rfl⟩ | ⟨before, value, rest, rfl, hbefore, hrest⟩)
    · exact ⟨trace, .error failure, [], by simp, hfailure, .done _⟩
    · exact ⟨before, .ok value, rest, rfl, hbefore, hrest⟩

/-- An operation with a remedy goes on with the remedy where it fails. -/
theorem tryCatch_run (first : Operation Query Reply α)
    (remedy : Failure → Operation Query Reply α) :
    (tryCatch first remedy).run = first.run.andThen fun
      | .ok value => .done (.ok value)
      | .error failure => (remedy failure).run := by
  show Interaction.andThen _ _ = _
  congr 1
  funext outcome
  cases outcome <;> rfl

/-- **A run of an operation with a remedy** is one that succeeds, or one that fails followed by one
of the remedy. -/
theorem runs_tryCatch_iff {first : Operation Query Reply α}
    {remedy : Failure → Operation Query Reply α} {result : Except Failure α} :
    Runs (tryCatch first remedy).run trace result ↔
      (∃ value, Runs first.run trace (.ok value) ∧ result = .ok value) ∨
        ∃ before failure rest, trace = before ++ rest ∧ Runs first.run before (.error failure) ∧
          Runs (remedy failure).run rest result := by
  rw [tryCatch_run, runs_andThen_iff]
  constructor
  · rintro ⟨before, failure | value, rest, rfl, hbefore, hrest⟩
    · exact .inr ⟨before, failure, rest, rfl, hbefore, hrest⟩
    · obtain ⟨rfl, rfl⟩ := runs_done_iff.mp hrest
      exact .inl ⟨value, by simpa using hbefore, rfl⟩
  · rintro (⟨value, hvalue, rfl⟩ | ⟨before, failure, rest, rfl, hbefore, hrest⟩)
    · exact ⟨trace, .ok value, [], by simp, hvalue, .done _⟩
    · exact ⟨before, .error failure, rest, rfl, hbefore, hrest⟩

/-! ## What is asked -/

/-- **An operation asks only some queries**, and succeeds with some results only. -/
structure Asks (IsAsked : Query → Prop) (IsResult : α → Prop)
    (operation : Operation Query Reply α) : Prop where
  run : operation.run.Asks IsAsked fun outcome => ∀ value, outcome = .ok value → IsResult value

section Asks

variable {IsAsked : Query → Prop} {IsResult : α → Prop}

theorem asks_pure {value : α} (h : IsResult value) :
    (pure value : Operation Query Reply α).Asks IsAsked IsResult where
  run := by
    rintro _ ⟨⟩
    exact h

theorem Asks.bind {first : Operation Query Reply α} {next : α → Operation Query Reply β}
    {IsLast : β → Prop} (hfirst : first.Asks IsAsked IsResult)
    (hnext : ∀ value, IsResult value → (next value).Asks IsAsked IsLast) :
    (first >>= next).Asks IsAsked IsLast where
  run := by
    rw [bind_run]
    refine hfirst.run.andThen fun outcome houtcome => ?_
    cases outcome with
    | error failure =>
      rintro _ ⟨⟩
    | ok value => exact (hnext value (houtcome value rfl)).run

theorem asks_mapM {operation : α → Operation Query Reply β} {IsLast : β → Prop}
    {elements : List α} (h : ∀ element ∈ elements, (operation element).Asks IsAsked IsLast) :
    (elements.mapM operation).Asks IsAsked fun values => ∀ value ∈ values, IsLast value := by
  induction elements with
  | nil => exact asks_pure (by simp)
  | cons element elements ih =>
    obtain ⟨helement, hrest⟩ := List.forall_mem_cons.mp h
    rw [List.mapM_cons]
    exact helement.bind fun value hvalue => (ih hrest).bind fun values hvalues =>
      asks_pure (List.forall_mem_cons.mpr ⟨hvalue, hvalues⟩)

theorem asks_forM {operation : α → Operation Query Reply PUnit} {elements : List α}
    (h : ∀ element ∈ elements, (operation element).Asks IsAsked fun _ => True) :
    (elements.forM operation).Asks IsAsked fun _ => True := by
  induction elements with
  | nil => exact asks_pure trivial
  | cons element elements ih =>
    obtain ⟨helement, hrest⟩ := List.forall_mem_cons.mp h
    exact helement.bind fun _ _ => ih hrest

end Asks

/-! ## Partners with a state -/

variable {σ : Type}

/-- **Carry out an operation** with a partner that has a state. -/
def exec (answer : (query : Query) → StateM σ (Reply query))
    (operation : Operation Query Reply α) : StateM σ (Except Failure α) :=
  Interaction.run answer operation.run

/-- **What every query leaves true**, an operation leaves true. -/
theorem Asks.exec_preserves {answer : (query : Query) → StateM σ (Reply query)}
    {operation : Operation Query Reply α} {IsAsked : Query → Prop} {IsResult : α → Prop}
    (h : operation.Asks IsAsked IsResult) (Holds : σ → Prop)
    (hanswer : ∀ query, IsAsked query → ∀ state, Holds state →
      Holds ((answer query).run state).2) {state : σ} (hstate : Holds state) :
    Holds ((operation.exec answer).run state).2 :=
  Interaction.Asks.run_preserves h.run hanswer hstate

variable (answer : (query : Query) → StateM σ (Reply query)) (state : σ)

@[simp] theorem exec_pure (value : α) :
    ((pure value : Operation Query Reply α).exec answer).run state = (.ok value, state) := by
  rfl

@[simp] theorem exec_throw (failure : Failure) :
    ((throw failure : Operation Query Reply α).exec answer).run state =
      (.error failure, state) := by
  rfl

@[simp] theorem exec_ofExcept (outcome : Except Failure α) :
    ((ofExcept outcome : Operation Query Reply α).exec answer).run state = (outcome, state) := by
  rfl

/-- A sequence of operations is carried out one after the other, up to the first failure. -/
theorem exec_bind (first : Operation Query Reply α) (next : α → Operation Query Reply β) :
    ((first >>= next).exec answer).run state =
      match (first.exec answer).run state with
      | (.ok value, changed) => ((next value).exec answer).run changed
      | (.error failure, changed) => (.error failure, changed) := by
  simp only [exec, bind_run, run_andThen, StateT.run_bind]
  rcases (Interaction.run answer first.run).run state with ⟨_ | _, changed⟩ <;> rfl

variable {answer state} in
theorem exec_bind_ok {first : Operation Query Reply α} {value : α} {changed : σ}
    (h : (first.exec answer).run state = (.ok value, changed))
    (next : α → Operation Query Reply β) :
    ((first >>= next).exec answer).run state = ((next value).exec answer).run changed := by
  rw [exec_bind, h]

variable {answer state} in
/-- A sequence of operations succeeds when both parts do. -/
theorem exec_bind_eq_ok {first : Operation Query Reply α} {next : α → Operation Query Reply β}
    {value : β} {changed : σ}
    (h : ((first >>= next).exec answer).run state = (.ok value, changed)) :
    ∃ middle between, (first.exec answer).run state = (.ok middle, between) ∧
      ((next middle).exec answer).run between = (.ok value, changed) := by
  rw [exec_bind] at h
  rcases hfirst : (first.exec answer).run state with ⟨failure | middle, between⟩
  · rw [hfirst] at h
    cases h
  · rw [hfirst] at h
    exact ⟨middle, between, rfl, h⟩

variable {answer state} in
theorem exec_ofExcept_bind_eq_ok {outcome : Except Failure α} {next : α → Operation Query Reply β}
    {value : β} {changed : σ}
    (h : ((ofExcept outcome >>= next).exec answer).run state = (.ok value, changed)) :
    ∃ middle, outcome = .ok middle ∧
      ((next middle).exec answer).run state = (.ok value, changed) := by
  obtain ⟨middle, between, hfirst, hnext⟩ := exec_bind_eq_ok h
  obtain ⟨houtcome, rfl⟩ := Prod.mk.inj hfirst
  exact ⟨middle, houtcome, hnext⟩

variable {answer state} in
theorem exec_bind_error {first : Operation Query Reply α} {failure : Failure} {changed : σ}
    (h : (first.exec answer).run state = (.error failure, changed))
    (next : α → Operation Query Reply β) :
    ((first >>= next).exec answer).run state = (.error failure, changed) := by
  rw [exec_bind, h]

/-- **An operation with a remedy succeeds** when it does itself, or the remedy does. -/
theorem exec_tryCatch_eq_ok {answer : (query : Query) → StateM σ (Reply query)} {state : σ}
    {first : Operation Query Reply α} {remedy : Failure → Operation Query Reply α} {value : α}
    {changed : σ}
    (h : ((tryCatch first remedy).exec answer).run state = (.ok value, changed)) :
    (first.exec answer).run state = (.ok value, changed) ∨
      ∃ failure between, (first.exec answer).run state = (.error failure, between) ∧
        ((remedy failure).exec answer).run between = (.ok value, changed) := by
  simp only [exec, tryCatch_run, run_andThen, StateT.run_bind] at h ⊢
  rcases hfirst : (Interaction.run answer first.run).run state with ⟨failure | found, between⟩
  · rw [hfirst] at h
    exact .inr ⟨failure, between, rfl, h⟩
  · rw [hfirst] at h
    exact .inl h

/-! ### Lists -/

section Lists

/-- **An operation on every element of a list** succeeds when each succeeds wherever the ones
before it lead. -/
theorem exec_mapM (operation : α → Operation Query Reply β) (IsResult : α → β → Prop)
    (Holds : σ → Prop) {elements : List α}
    (h : ∀ element ∈ elements, ∀ state, Holds state → ∃ value changed, IsResult element value ∧
      Holds changed ∧ ((operation element).exec answer).run state = (.ok value, changed))
    (hstate : Holds state) :
    ∃ values changed, (∀ value ∈ values, ∃ element ∈ elements, IsResult element value) ∧
      Holds changed ∧
      ((elements.mapM operation).exec answer).run state = (.ok values, changed) := by
  -- Induction on the elements left, with what holds of the state as the invariant.
  induction elements generalizing state with
  | nil => exact ⟨[], state, by simp, hstate, rfl⟩
  | cons element elements ih =>
    obtain ⟨helement, hrest⟩ := List.forall_mem_cons.mp h
    obtain ⟨value, middle, hvalue, hmiddle, hfirst⟩ := helement state hstate
    obtain ⟨values, changed, hvalues, hchanged, hothers⟩ := ih middle hrest hmiddle
    refine ⟨value :: values, changed, List.forall_mem_cons.mpr
      ⟨⟨element, List.mem_cons_self, hvalue⟩, fun other hother => ?_⟩, hchanged, ?_⟩
    · obtain ⟨origin, horigin, hresult⟩ := hvalues other hother
      exact ⟨origin, List.mem_cons_of_mem _ horigin, hresult⟩
    · rw [List.mapM_cons, exec_bind_ok hfirst, exec_bind_ok hothers]
      rfl

theorem exec_forM (operation : α → Operation Query Reply PUnit) (elements : List α)
    (h : ∀ element ∈ elements, ∀ state, ∃ changed,
      ((operation element).exec answer).run state = (.ok (), changed)) :
    ∃ changed, ((elements.forM operation).exec answer).run state = (.ok (), changed) := by
  induction elements generalizing state with
  | nil => exact ⟨state, rfl⟩
  | cons element elements ih =>
    obtain ⟨helement, hrest⟩ := List.forall_mem_cons.mp h
    obtain ⟨middle, hfirst⟩ := helement state
    obtain ⟨changed, hothers⟩ := ih middle hrest
    refine ⟨changed, ?_⟩
    rw [forM_cons, exec_bind_ok hfirst, hothers]

variable {answer state} {changed : σ} (Leads : σ → σ → Prop)

/-- **What succeeded on a list succeeded on each element**, somewhere on the way. -/
theorem exec_mapM_eq_ok {operation : α → Operation Query Reply β} {elements : List α}
    {values : List β} (hrefl : ∀ state, Leads state state)
    (htrans : ∀ {one two three}, Leads one two → Leads two three → Leads one three)
    (hleads : ∀ element ∈ elements, ∀ {state value changed},
      ((operation element).exec answer).run state = (.ok value, changed) → Leads state changed)
    (h : ((elements.mapM operation).exec answer).run state = (.ok values, changed)) :
    Leads state changed ∧ ∀ element ∈ elements, ∃ value ∈ values, ∃ before after,
      Leads state before ∧ ((operation element).exec answer).run before = (.ok value, after) := by
  -- Induction on the elements left, from wherever the ones before them lead.
  induction elements generalizing state values with
  | nil =>
    cases h
    exact ⟨hrefl _, by simp⟩
  | cons element elements ih =>
    obtain ⟨helement, hrest⟩ := List.forall_mem_cons.mp hleads
    rw [List.mapM_cons] at h
    obtain ⟨value, middle, hfirst, h⟩ := exec_bind_eq_ok h
    obtain ⟨others, last, hothers, h⟩ := exec_bind_eq_ok h
    cases h
    have hmiddle : Leads state middle := helement hfirst
    obtain ⟨hchanged, hall⟩ := ih hrest hothers
    refine ⟨htrans hmiddle hchanged, List.forall_mem_cons.mpr
      ⟨⟨value, List.mem_cons_self, state, middle, hrefl _, hfirst⟩, fun other hother => ?_⟩⟩
    obtain ⟨result, hresult, before, after, hbefore, hrun⟩ := hall other hother
    exact ⟨result, List.mem_cons_of_mem _ hresult, before, after, htrans hmiddle hbefore, hrun⟩

theorem exec_forM_eq_ok {operation : α → Operation Query Reply PUnit} {elements : List α}
    (hrefl : ∀ state, Leads state state)
    (htrans : ∀ {one two three}, Leads one two → Leads two three → Leads one three)
    (hleads : ∀ element ∈ elements, ∀ {state changed},
      ((operation element).exec answer).run state = (.ok (), changed) → Leads state changed)
    (h : ((elements.forM operation).exec answer).run state = (.ok (), changed)) :
    Leads state changed ∧ ∀ element ∈ elements, ∃ before after, Leads state before ∧
      ((operation element).exec answer).run before = (.ok (), after) ∧ Leads after changed := by
  induction elements generalizing state with
  | nil =>
    cases h
    exact ⟨hrefl _, by simp⟩
  | cons element elements ih =>
    obtain ⟨helement, hrest⟩ := List.forall_mem_cons.mp hleads
    rw [forM_cons] at h
    obtain ⟨done, middle, hfirst, hothers⟩ := exec_bind_eq_ok h
    have hmiddle : Leads state middle := helement hfirst
    obtain ⟨hchanged, hall⟩ := ih hrest hothers
    refine ⟨htrans hmiddle hchanged, List.forall_mem_cons.mpr
      ⟨⟨state, middle, hrefl _, hfirst, hchanged⟩, fun other hother => ?_⟩⟩
    obtain ⟨before, after, hbefore, hrun, hafter⟩ := hall other hother
    exact ⟨before, after, htrans hmiddle hbefore, hrun, hafter⟩

end Lists

end Operation

/-! ## Partners with interactions of their own -/

namespace Interaction

variable {Query : Type} {Reply : Query → Type} {Query' : Type} {Reply' : Query' → Type}
  {σ τ α : Type}

/-- **A partner that has a partner itself**: what it answers, its state, and that of its partner. -/
def via (answer : (query : Query) → StateT τ (Interaction Query' Reply') (Reply query))
    (last : (query : Query') → StateM σ (Reply' query)) (query : Query) :
    StateM (τ × σ) (Reply query) := fun (memory, state) =>
  let ((reply, memory), state) := (((answer query).run memory).run last).run state
  (reply, memory, state)

/-- A query that is left to the partner's partner. -/
theorem via_of_lift {answer : (query : Query) → StateT τ (Interaction Query' Reply') (Reply query)}
    {query : Query} {dialogue : Interaction Query' Reply' (Reply query)}
    (h : answer query = StateT.lift dialogue) (last : (query : Query') → StateM σ (Reply' query))
    (memory : τ) (state : σ) :
    (via answer last query).run (memory, state) =
      let (reply, changed) := (dialogue.run last).run state
      (reply, memory, changed) := by
  have hrun : (((answer query).run memory).run last).run state =
      ((((dialogue.run last).run state).1, memory), ((dialogue.run last).run state).2) := by
    rw [h]
    exact congrArg (·.run state) (run_andThen last dialogue fun reply => done (reply, memory))
  simp only [via, StateT.run] at hrun ⊢
  rw [hrun]
  rfl

/-- An interaction with a partner that has a partner itself. -/
theorem run_run (answer : (query : Query) → StateT τ (Interaction Query' Reply') (Reply query))
    (last : (query : Query') → StateM σ (Reply' query)) (interaction : Interaction Query Reply α)
    (memory : τ) (state : σ) :
    (((interaction.run answer).run memory).run last).run state =
      let (result, memory, state) := (interaction.run (via answer last)).run (memory, state)
      ((result, memory), state) := by
  induction interaction generalizing memory state with
  | done result => rfl
  | ask query next ih =>
    simp only [run, StateT.run_bind]
    show ((Interaction.run last (((answer query).run memory).andThen _)).run state) = _
    rw [run_andThen, StateT.run_bind]
    rcases hreply : (((answer query).run memory).run last).run state with ⟨⟨reply, middle⟩, between⟩
    have hvia : (via answer last query).run (memory, state) = (reply, middle, between) := by
      simp only [via, StateT.run] at hreply ⊢
      rw [hreply]
    rw [hvia]
    exact ih reply middle between

end Interaction

end VmProvisioning
