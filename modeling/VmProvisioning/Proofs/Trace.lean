import Mathlib.Data.List.Forall2
import VmProvisioning.Proofs.Interaction

/-!
# Traces

A trace says what was asked and what came back. What an interaction does with a partner that has a
state is the same as that it runs along a trace, and that the partner answers as the trace says. So
a run can be looked at without the partner, and the partner without what was running, also where
several operations go on side by side and each has its share of the trace.

## Main definitions

* `Interaction.Replays`: a partner answers as a trace says
* `Interaction.share`: the events that are about something
* `Operation.FailsOn`: what makes an operation fail

## Main results

* `run_eq_iff`: an interaction with a partner that has a state
* `Asks.of_runs`: what is asked in a run
* `runs_forM_share`, `runs_mapM_share`: the share of every element of a list
* `FailsOn.bind`, `failsOn_mapM`, `failsOn_forM`: what makes several operations fail
-/

namespace VmProvisioning

namespace Interaction

variable {Query : Type} {Reply : Query → Type} {σ α κ : Type}

/-! ## Partners -/

/-- **A partner answers as a trace says**, from one state to another. -/
inductive Replays (answer : (query : Query) → StateM σ (Reply query)) :
    σ → List (Event Query Reply) → σ → Prop
  | nil (state : σ) : Replays answer state [] state
  | cons {query : Query} {trace : List (Event Query Reply)} {state final : σ} :
    Replays answer ((answer query).run state).2 trace final →
      Replays answer state (⟨query, ((answer query).run state).1⟩ :: trace) final

variable {answer : (query : Query) → StateM σ (Reply query)} {state final : σ}
  {trace : List (Event Query Reply)} {interaction : Interaction Query Reply α} {result : α}

theorem replays_nil_iff : Replays answer state [] final ↔ final = state := by
  constructor
  · rintro ⟨⟩
    rfl
  · rintro rfl
    exact .nil _

theorem replays_cons_iff {query : Query} {reply : Reply query} :
    Replays answer state (⟨query, reply⟩ :: trace) final ↔
      reply = ((answer query).run state).1 ∧
        Replays answer ((answer query).run state).2 trace final := by
  constructor
  · rintro ⟨⟩
    exact ⟨rfl, by assumption⟩
  · rintro ⟨rfl, h⟩
    exact .cons h

theorem replays_append_iff {before after : List (Event Query Reply)} :
    Replays answer state (before ++ after) final ↔
      ∃ middle, Replays answer state before middle ∧ Replays answer middle after final := by
  induction before generalizing state with
  | nil =>
    constructor
    · exact fun h => ⟨state, .nil _, h⟩
    · rintro ⟨middle, hbefore, hafter⟩
      exact replays_nil_iff.mp hbefore ▸ hafter
  | cons event before ih =>
    obtain ⟨query, reply⟩ := event
    simp only [List.cons_append, replays_cons_iff, ih]
    constructor
    · rintro ⟨hreply, middle, hbefore, hafter⟩
      exact ⟨middle, ⟨hreply, hbefore⟩, hafter⟩
    · rintro ⟨middle, ⟨hreply, hbefore⟩, hafter⟩
      exact ⟨hreply, middle, hbefore, hafter⟩

/-- What a partner answers in every state, it answers in a trace. -/
theorem Replays.forall_mem {IsAnswered : Event Query Reply → Prop}
    (h : Replays answer state trace final)
    (hanswer : ∀ query state, IsAnswered ⟨query, ((answer query).run state).1⟩) :
    ∀ event ∈ trace, IsAnswered event := by
  induction h with
  | nil state => simp
  | cons hrest ih => exact List.forall_mem_cons.mpr ⟨hanswer _ _, ih⟩

/-- **An interaction with a partner that has a state** runs along a trace as which the partner
answers. -/
theorem run_eq_iff :
    (interaction.run answer).run state = (result, final) ↔
      ∃ trace, Runs interaction trace result ∧ Replays answer state trace final := by
  induction interaction generalizing state with
  | done value =>
    constructor
    · rintro ⟨⟩
      exact ⟨[], .done _, .nil _⟩
    · rintro ⟨trace, hrun, hreplays⟩
      obtain ⟨rfl, rfl⟩ := runs_done_iff.mp hrun
      obtain rfl := replays_nil_iff.mp hreplays
      rfl
  | ask query next ih =>
    have hstep : ((ask query next).run answer).run state =
        ((next ((answer query).run state).1).run answer).run ((answer query).run state).2 := rfl
    rw [hstep, ih]
    constructor
    · rintro ⟨trace, hrun, hreplays⟩
      exact ⟨_, .ask _ hrun, .cons hreplays⟩
    · rintro ⟨trace, hrun, hreplays⟩
      obtain ⟨reply, rest, rfl, hrest⟩ := runs_ask_iff.mp hrun
      obtain ⟨rfl, hafter⟩ := replays_cons_iff.mp hreplays
      exact ⟨rest, hrest, hafter⟩

/-- An interaction that asks some queries asks some of more. -/
theorem Asks.mono {IsAsked IsAllowed : Query → Prop} {IsResult : α → Prop}
    (h : interaction.Asks IsAsked IsResult) (hallowed : ∀ query, IsAsked query → IsAllowed query) :
    interaction.Asks IsAllowed IsResult := by
  induction interaction with
  | done value => exact h
  | ask query next ih => exact ⟨hallowed _ h.1, fun reply => ih reply (h.2 reply)⟩

/-- **What is asked in a run** is what the interaction asks. -/
theorem Asks.of_runs {IsAsked : Query → Prop} {IsResult : α → Prop}
    (h : interaction.Asks IsAsked IsResult) (hrun : Runs interaction trace result) :
    ∀ event ∈ trace, IsAsked event.1 := by
  induction hrun with
  | done result => simp
  | ask reply hrest ih => exact List.forall_mem_cons.mpr ⟨h.1, ih (h.2 reply)⟩

/-! ## Shares -/

section Share

variable [DecidableEq κ] (about : Query → Option κ)

/-- **The share of something in a trace**: the events that are about it. -/
def share (key : κ) (trace : List (Event Query Reply)) : List (Event Query Reply) :=
  trace.filter fun event => about event.1 = some key

variable {about} {key : κ}

theorem share_append (before after : List (Event Query Reply)) :
    share about key (before ++ after) = share about key before ++ share about key after :=
  List.filter_append _ _

theorem share_eq_self (h : ∀ event ∈ trace, about event.1 = some key) :
    share about key trace = trace :=
  List.filter_eq_self.mpr fun event hevent => decide_eq_true (h event hevent)

theorem share_eq_nil (h : ∀ event ∈ trace, about event.1 ≠ some key) :
    share about key trace = [] :=
  List.filter_eq_nil_iff.mpr fun event hevent hkey => h event hevent (of_decide_eq_true hkey)

omit [DecidableEq κ] in
theorem ne_of_about {other : κ} (h : ∀ event ∈ trace, about event.1 = some other)
    (hne : other ≠ key) : ∀ event ∈ trace, about event.1 ≠ some key := by
  intro event hevent hkey
  exact hne (Option.some.inj ((h event hevent).symm.trans hkey))

end Share

end Interaction

namespace Operation

open Interaction

variable {Query : Type} {Reply : Query → Type} {α β κ : Type}
  {trace : List (Event Query Reply)}

theorem runs_bind_ok_iff {first : Operation Query Reply α} {next : α → Operation Query Reply β}
    {value : β} :
    Runs (first >>= next).run trace (.ok value) ↔
      ∃ before middle rest, trace = before ++ rest ∧ Runs first.run before (.ok middle) ∧
        Runs (next middle).run rest (.ok value) := by
  rw [runs_bind_iff]
  constructor
  · rintro (⟨failure, -, ⟨⟩⟩ | h)
    exact h
  · exact .inr

theorem Asks.mono {operation : Operation Query Reply α} {IsAsked IsAllowed : Query → Prop}
    {IsResult : α → Prop} (h : operation.Asks IsAsked IsResult)
    (hallowed : ∀ query, IsAsked query → IsAllowed query) :
    operation.Asks IsAllowed IsResult where
  run := h.run.mono hallowed

theorem Asks.of_runs {operation : Operation Query Reply α} {IsAsked : Query → Prop}
    {IsResult : α → Prop} {result : Except Failure α} (h : operation.Asks IsAsked IsResult)
    (hrun : Runs operation.run trace result) : ∀ event ∈ trace, IsAsked event.1 :=
  h.run.of_runs hrun

/-! ## The share of every element -/

section Lists

variable [DecidableEq κ] {about : Query → Option κ} {key : α → κ} {elements : List α}

/-- **The share of one key in a loop** is a run of the loop over the elements that have it. -/
theorem runs_forM_share (about : Query → Option κ) (key : α → κ)
    {operation : α → Operation Query Reply PUnit}
    (hasks : ∀ element ∈ elements,
      (operation element).Asks (fun query => about query = some (key element)) fun _ => True)
    (h : Runs (elements.forM operation).run trace (.ok ())) (wanted : κ) :
    Runs ((elements.filter fun element => key element = wanted).forM operation).run
      (share about wanted trace) (.ok ()) := by
  -- Induction on the elements: the first one has the events before those of the others.
  induction elements generalizing trace with
  | nil =>
    obtain ⟨rfl, -⟩ := runs_pure_iff.mp h
    exact .done _
  | cons element elements ih =>
    obtain ⟨helement, hrest⟩ := List.forall_mem_cons.mp hasks
    rw [forM_cons, runs_bind_ok_iff] at h
    obtain ⟨before, done, rest, rfl, hbefore, hafter⟩ := h
    have habout := helement.of_runs hbefore
    rw [share_append]
    by_cases hkey : key element = wanted
    · subst hkey
      rw [List.filter_cons_of_pos (by simp), forM_cons, share_eq_self habout]
      exact runs_bind_ok_iff.mpr ⟨_, _, _, rfl, hbefore, ih hrest hafter⟩
    · rw [List.filter_cons_of_neg (by simpa using hkey), share_eq_nil (ne_of_about habout hkey)]
      exact ih hrest hafter

variable {operation : α → Operation Query Reply β} {values : List β}

omit [DecidableEq κ] in
/-- What the operations on a list ask is about their elements. -/
theorem about_of_runs_mapM
    (hasks : ∀ element ∈ elements,
      (operation element).Asks (fun query => about query = some (key element)) fun _ => True)
    {result : Except Failure (List β)} (h : Runs (elements.mapM operation).run trace result) :
    ∀ event ∈ trace, ∃ element ∈ elements, about event.1 = some (key element) := by
  have hall : (elements.mapM operation).Asks
      (fun query => ∃ element ∈ elements, about query = some (key element))
      fun values => ∀ value ∈ values, True :=
    asks_mapM fun element helement =>
      (hasks element helement).mono fun _ hquery => ⟨element, helement, hquery⟩
  exact hall.of_runs h

/-- The share of an element behind events that are about none of them. -/
theorem runs_mapM_share_append
    (hasks : ∀ element ∈ elements,
      (operation element).Asks (fun query => about query = some (key element)) fun _ => True)
    (hnodup : (elements.map key).Nodup)
    (h : Runs (elements.mapM operation).run trace (.ok values))
    (before : List (Event Query Reply))
    (hbefore : ∀ element ∈ elements, ∀ event ∈ before, about event.1 ≠ some (key element)) :
    List.Forall₂ (fun element value =>
      Runs (operation element).run (share about (key element) (before ++ trace)) (.ok value))
      elements values := by
  -- Induction on the elements left, with the events that were about the ones before them.
  induction elements generalizing trace values before with
  | nil =>
    obtain ⟨-, hvalues⟩ := runs_pure_iff.mp h
    cases hvalues
    exact .nil
  | cons element elements ih =>
    obtain ⟨helement, hrest⟩ := List.forall_mem_cons.mp hasks
    obtain ⟨hfresh, hnodup⟩ := List.nodup_cons.mp hnodup
    obtain ⟨hclean, hcleans⟩ := List.forall_mem_cons.mp hbefore
    rw [List.mapM_cons, runs_bind_ok_iff] at h
    obtain ⟨first, value, _, rfl, hfirst, h⟩ := h
    obtain ⟨rest, others, _, rfl, hothers, hlast⟩ := runs_bind_ok_iff.mp h
    obtain ⟨rfl, hvalues⟩ := runs_pure_iff.mp hlast
    cases hvalues
    have hne (other : α) (hother : other ∈ elements) : key element ≠ key other :=
      fun heq => hfresh (heq ▸ List.mem_map_of_mem hother)
    have habout := helement.of_runs hfirst
    rw [List.append_nil]
    refine .cons ?_ ?_
    · have hrests : ∀ event ∈ rest, about event.1 ≠ some (key element) := by
        intro event hevent hkey
        obtain ⟨other, hother, hkey'⟩ := about_of_runs_mapM hrest hothers event hevent
        exact hne other hother (Option.some.inj (hkey.symm.trans hkey'))
      rw [share_append, share_append, share_eq_nil hclean, share_eq_self habout,
        share_eq_nil hrests, List.nil_append, List.append_nil]
      exact hfirst
    · rw [← List.append_assoc]
      refine ih hrest hnodup hothers _ fun other hother event hevent => ?_
      rcases List.mem_append.mp hevent with hevent | hevent
      · exact hcleans other hother event hevent
      · exact ne_of_about habout (hne other hother) event hevent

/-- **The share of an element** is a run of the operation on it, where all have their own keys. -/
theorem runs_mapM_share
    (hasks : ∀ element ∈ elements,
      (operation element).Asks (fun query => about query = some (key element)) fun _ => True)
    (hnodup : (elements.map key).Nodup)
    (h : Runs (elements.mapM operation).run trace (.ok values)) :
    List.Forall₂ (fun element value =>
      Runs (operation element).run (share about (key element) trace) (.ok value))
      elements values :=
  runs_mapM_share_append hasks hnodup h [] (by simp)

end Lists

/-! ## Failures -/

/-- **What makes an operation fail**: a run fails exactly when something bad happens in it, or when
it is stuck, as its events tell. -/
def FailsOn (IsBad : Event Query Reply → Prop) (IsStuck : List (Event Query Reply) → Prop)
    (operation : Operation Query Reply α) : Prop :=
  ∀ trace result, Runs operation.run trace result →
    ((∃ failure, result = .error failure) ↔ (∃ event ∈ trace, IsBad event) ∨ IsStuck trace)

section FailsOn

variable {IsBad : Event Query Reply → Prop} {IsStuck IsStuckFirst : List (Event Query Reply) → Prop}
  {first : Operation Query Reply α}

/-- Nothing bad happens in a run that succeeds, and it is not stuck. -/
theorem FailsOn.of_runs_ok {value : α} (h : FailsOn IsBad IsStuck first)
    (hrun : Runs first.run trace (.ok value)) :
    (∀ event ∈ trace, ¬IsBad event) ∧ ¬IsStuck trace := by
  have hsucceeds : ¬∃ failure, (.ok value : Except Failure α) = .error failure := by
    rintro ⟨failure, ⟨⟩⟩
  rw [h _ _ hrun] at hsucceeds
  obtain ⟨hclean, hstuck⟩ := not_or.mp hsucceeds
  exact ⟨fun event hevent hbad => hclean ⟨event, hevent, hbad⟩, hstuck⟩

/-- What it is to be stuck may be said in another way for the runs of an operation. -/
theorem FailsOn.congr (h : FailsOn IsBad IsStuckFirst first)
    (hstuck : ∀ trace result, Runs first.run trace result →
      (IsStuckFirst trace ↔ IsStuck trace)) : FailsOn IsBad IsStuck first := by
  intro trace result hrun
  rw [h trace result hrun, hstuck trace result hrun]

theorem failsOn_pure {value : α} :
    FailsOn IsBad (fun _ => False) (pure value : Operation Query Reply α) := by
  intro trace result h
  obtain ⟨rfl, rfl⟩ := runs_pure_iff.mp h
  simp

/-- **What makes a sequence fail**: what makes the first operation fail, and what makes the second
one fail behind the events of the first. -/
theorem FailsOn.bind {next : α → Operation Query Reply β}
    (hfirst : FailsOn IsBad IsStuckFirst first)
    (hstuck : ∀ trace, IsStuckFirst trace → IsStuck trace)
    (hnext : ∀ before value, Runs first.run before (.ok value) →
      FailsOn IsBad (fun rest => IsStuck (before ++ rest)) (next value)) :
    FailsOn IsBad IsStuck (first >>= next) := by
  intro trace result h
  rcases runs_bind_iff.mp h with ⟨failure, hfailed, rfl⟩ | ⟨before, value, rest, rfl, hdone, hrest⟩
  -- the first one has failed
  · have hreason := (hfirst _ _ hfailed).mp ⟨failure, rfl⟩
    exact ⟨fun _ => hreason.imp_right (hstuck trace), fun _ => ⟨failure, rfl⟩⟩
  -- nothing bad has happened before the second one
  · obtain ⟨hclean, -⟩ := hfirst.of_runs_ok hdone
    rw [hnext before value hdone _ _ hrest]
    refine or_congr_left ⟨?_, ?_⟩
    · rintro ⟨event, hevent, hbad⟩
      exact ⟨event, List.mem_append_right _ hevent, hbad⟩
    · rintro ⟨event, hevent, hbad⟩
      refine ⟨event, (List.mem_append.mp hevent).resolve_left fun hbefore => ?_, hbad⟩
      exact hclean event hbefore hbad

/-- What is made of the value of an operation makes it fail no more. -/
theorem FailsOn.bind_pure {value : α → β} (h : FailsOn IsBad IsStuck first) :
    FailsOn IsBad IsStuck (first >>= fun found => pure (value found)) := by
  refine h.bind (fun _ => id) fun before found hdone => failsOn_pure.congr ?_
  intro rest result hrest
  obtain ⟨rfl, -⟩ := runs_pure_iff.mp hrest
  obtain ⟨-, hstuck⟩ := h.of_runs_ok hdone
  simpa using hstuck

section Elements

variable {IsStuckAt : α → Prop} {elements : List α}

/-- **What makes the operations on a list fail**: what makes one of them fail. -/
theorem failsOn_mapM {operation : α → Operation Query Reply β}
    (h : ∀ element ∈ elements, FailsOn IsBad (fun _ => IsStuckAt element) (operation element)) :
    FailsOn IsBad (fun _ => ∃ element ∈ elements, IsStuckAt element)
      (elements.mapM operation) := by
  induction elements with
  | nil => exact failsOn_pure.congr (by simp)
  | cons element elements ih =>
    obtain ⟨helement, hrest⟩ := List.forall_mem_cons.mp h
    rw [List.mapM_cons]
    refine helement.bind (fun _ hstuck => ⟨element, List.mem_cons_self, hstuck⟩)
      fun before value hdone => ?_
    obtain ⟨-, hstuck⟩ := helement.of_runs_ok hdone
    exact (ih hrest).bind_pure.congr fun _ _ _ => by simp [hstuck]

/-- **What makes a loop fail**: what makes it fail at one of the elements. -/
theorem failsOn_forM {operation : α → Operation Query Reply PUnit}
    (h : ∀ element ∈ elements, FailsOn IsBad (fun _ => IsStuckAt element) (operation element)) :
    FailsOn IsBad (fun _ => ∃ element ∈ elements, IsStuckAt element)
      (elements.forM operation) := by
  induction elements with
  | nil => exact failsOn_pure.congr (by simp)
  | cons element elements ih =>
    obtain ⟨helement, hrest⟩ := List.forall_mem_cons.mp h
    rw [forM_cons]
    refine helement.bind (fun _ hstuck => ⟨element, List.mem_cons_self, hstuck⟩)
      fun before done hdone => ?_
    obtain ⟨-, hstuck⟩ := helement.of_runs_ok hdone
    exact (ih hrest).congr fun _ _ _ => by simp [hstuck]

end Elements

end FailsOn

end Operation

end VmProvisioning
