import VmProvisioning.Proofs.Interaction

/-!
# Interactions side by side

Two interactions with one partner share its state. Each waits for the reply to its query before it
goes on, and in between the partner may have answered the other one. A schedule says whose query
comes next, and so decides what both find.

## Main definitions

* `Side`, `Interaction.interleave`: two interactions by a schedule
* `Interaction.inTurn`: one interaction after the other
* `Interaction.IsSerial`: results that one interaction after the other would have given as well

## Main results

* `interleave_swap`: neither side is distinguished
* `interleave_done`, `interleave_done_right`: an interaction that is done does not disturb the other
  one
* `Advances.interleave_first`, `Advances.interleave_second`: the first query of a schedule
-/

namespace VmProvisioning

/-- One of two interactions. -/
inductive Side where
  | first
  | second
deriving DecidableEq, Repr

namespace Side

/-- The other one. -/
def other : Side → Side
  | first => second
  | second => first

@[simp] theorem other_other (side : Side) : side.other.other = side := by
  cases side <;> rfl

theorem map_other_map_other (schedule : List Side) :
    (schedule.map other).map other = schedule := by
  simp [Function.comp_def]

end Side

namespace Interaction

variable {Query : Type} {Reply : Query → Type} {σ τ α β : Type}

section Definitions

variable (answer : (query : Query) → StateM σ (Reply query))

/-- **Two interactions by a schedule**, which says whose query is answered next. They have results
when the schedule ends where both are done. -/
def interleave : List Side → Interaction Query Reply α → Interaction Query Reply β →
    StateM σ (Option (α × β))
  | [], .done result, .done other => pure (some (result, other))
  | .first :: schedule, .ask query next, second => do
    let reply ← answer query
    interleave schedule (next reply) second
  | .second :: schedule, first, .ask query next => do
    let reply ← answer query
    interleave schedule first (next reply)
  | _, _, _ => pure none

/-- One interaction after the other. -/
def inTurn (first : Interaction Query Reply α) (second : Interaction Query Reply β) :
    StateM σ (α × β) := do
  let result ← first.run answer
  let other ← second.run answer
  return (result, other)

/-- **Results that one interaction after the other gives as well**, in one of the two orders, and
with the same to be observed of the state at the end. -/
def IsSerial (observe : σ → τ) (first : Interaction Query Reply α)
    (second : Interaction Query Reply β) (state : σ) (results : α × β) (final : σ) : Prop :=
  (∃ last, (inTurn answer first second).run state = (results, last) ∧
      observe last = observe final) ∨
    ∃ last, (inTurn answer second first).run state = (results.swap, last) ∧
      observe last = observe final

end Definitions

variable {answer : (query : Query) → StateM σ (Reply query)} {first : Interaction Query Reply α}
  {second : Interaction Query Reply β} {schedule : List Side} {state final : σ} {results : α × β}

/-! ## Schedules -/

/-- **Neither side is distinguished.** -/
theorem interleave_swap (schedule : List Side) (first : Interaction Query Reply α)
    (second : Interaction Query Reply β) (state : σ) :
    (interleave answer (schedule.map Side.other) second first).run state =
      Prod.map (Option.map Prod.swap) id ((interleave answer schedule first second).run state) := by
  -- Induction on the schedule, whatever is left of the two.
  induction schedule generalizing first second state with
  | nil => cases first <;> cases second <;> rfl
  | cons side schedule ih =>
    cases side with
    | first =>
      cases first with
      | done result => cases second <;> rfl
      | ask query next => exact ih _ _ _
    | second =>
      cases second with
      | done result => cases first <;> rfl
      | ask query next => exact ih _ _ _

theorem interleave_swap_eq_some
    (h : (interleave answer schedule first second).run state = (some results, final)) :
    (interleave answer (schedule.map Side.other) second first).run state =
      (some results.swap, final) := by
  rw [interleave_swap, h]
  rfl

/-- **An interaction that is done does not disturb the other one**, which runs as if it were on its
own. -/
theorem interleave_done {result : α}
    (h : (interleave answer schedule (.done result) second).run state = (some results, final)) :
    result = results.1 ∧ (second.run answer).run state = (results.2, final) := by
  -- Only the second side can be scheduled, so the induction follows its queries.
  induction schedule generalizing second state with
  | nil =>
    cases second with
    | done other =>
      cases h
      exact ⟨rfl, rfl⟩
    | ask query next => cases h
  | cons side schedule ih =>
    cases side with
    | first => cases second <;> cases h
    | second =>
      cases second with
      | done other => cases h
      | ask query next =>
        have hrest : (interleave answer schedule (.done result)
            (next ((answer query).run state).1)).run ((answer query).run state).2 =
              (some results, final) := h
        obtain ⟨hresult, hrun⟩ := ih hrest
        exact ⟨hresult, hrun⟩

theorem interleave_done_right {other : β}
    (h : (interleave answer schedule first (.done other)).run state = (some results, final)) :
    other = results.2 ∧ (first.run answer).run state = (results.1, final) :=
  interleave_done (interleave_swap_eq_some h)

/-- Two interactions that are both done are left alone. -/
theorem interleave_done_done {result : α} {other : β}
    (h : (interleave answer schedule (.done result) (.done other)).run state =
      (some results, final)) : schedule = [] := by
  cases schedule with
  | nil => rfl
  | cons side schedule => cases side <;> cases h

/-! ## One query -/

namespace Advances

variable {next : Interaction Query Reply α} {changed : σ}

theorem interleave_first (h : Advances answer first state next changed)
    (second : Interaction Query Reply β) (schedule : List Side) :
    (interleave answer (.first :: schedule) first second).run state =
      (interleave answer schedule next second).run changed := by
  cases h
  rfl

theorem interleave_second (h : Advances answer first state next changed)
    (second : Interaction Query Reply β) (schedule : List Side) :
    (interleave answer (.second :: schedule) second first).run state =
      (interleave answer schedule second next).run changed := by
  cases h
  cases second <;> rfl

/-- Nobody is done before the first query. -/
theorem schedule_ne_nil (h : Advances answer first state next changed)
    (hinterleave : (interleave answer schedule first second).run state = (some results, final)) :
    schedule ≠ [] := by
  rintro rfl
  cases h
  cases second <;> cases hinterleave

end Advances

/-! ## Serial results -/

theorem inTurn_run {result : α} {between : σ}
    (h : (first.run answer).run state = (result, between))
    (second : Interaction Query Reply β) :
    (inTurn answer first second).run state =
      Prod.map (Prod.mk result) id ((second.run answer).run between) := by
  simp only [inTurn, StateT.run_bind, h]
  rfl

/-- Where the first interaction is over before the second one begins, the results are serial. -/
theorem isSerial_of_run {result : α} {between : σ}
    (hfirst : (first.run answer).run state = (result, between)) (hresult : result = results.1)
    (hsecond : (second.run answer).run between = (results.2, final)) (observe : σ → τ) :
    IsSerial answer observe first second state results final := by
  refine .inl ⟨final, ?_, rfl⟩
  rw [inTurn_run hfirst, hsecond, hresult]
  rfl

theorem IsSerial.swap {observe : σ → τ}
    (h : IsSerial answer observe first second state results final) :
    IsSerial answer observe second first state results.swap final := by
  rcases h with h | h
  · exact .inr (by rwa [Prod.swap_swap])
  · exact .inl h

end Interaction

end VmProvisioning
