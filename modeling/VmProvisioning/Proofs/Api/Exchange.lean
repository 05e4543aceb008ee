import VmProvisioning.Api.Answer
import VmProvisioning.Proofs.DnsLabel
import VmProvisioning.Proofs.Interaction

/-!
# Runs of requests

An operation that sends one request has at most one event, and its result depends on the answer
alone.

## Main definitions

* `Api.IsSegment`: names that may stand in a path
* `Api.settle`: the result of an operation that sends one request

## Main results

* `any_isForbidden_objectPath`: objects whose names may stand in paths can be addressed
* `runs_exchangeOr_iff`: the runs of an operation that sends one request
* `advances_exchangeOr`, `exec_exchangeOr`, `exec_exchangeOr_eq_ok`: such an operation with a
  partner that has a state
-/

namespace VmProvisioning.Api

open Interaction

variable {α : Type} {resource : Resource} {ns name : String}

/-! ## Requests that can be sent -/

theorem isForbidden_of_isLabelChar {c : Char} (h : DnsLabel.isLabelChar c = true ∨ c = '-') :
    Request.isForbidden c = false := by
  rcases h with h | rfl
  · have hne : ∀ d, DnsLabel.isLabelChar d = false → c ≠ d := by
      rintro d hd rfl
      exact absurd h (by simp [hd])
    rw [DnsLabel.isLabelChar_iff] at h
    have hlow : ¬c.toNat ≤ 0x20 := by omega
    have hquote : ¬c.toNat = 0x60 := by omega
    have hdelete : ¬c.toNat = 0x7F := by omega
    simp [Request.isForbidden, hlow, hquote, hdelete, hne '<' (by decide), hne '>' (by decide)]
  · decide

theorem any_isForbidden_of_isLabelText (h : DnsLabel.IsLabelText name) :
    name.toList.any Request.isForbidden = false := by
  simpa using fun c hc => isForbidden_of_isLabelChar (h.chars c hc)

/-- **A name that may stand in a path.** -/
structure IsSegment (name : String) : Prop where
  ne_empty : name ≠ ""
  chars : name.toList.any Request.isForbidden = false

/-- A creation is sent to the path of its collection, whatever its object is. -/
theorem isSendable_create {object : Json} :
    (Request.create resource ns object).isSendable =
      !(resource.collectionPath ns).toList.any Request.isForbidden := by
  simp [Request.isSendable, Request.path]

theorem isSendable_list {selector : Option String} :
    (Request.list resource ns selector).isSendable =
      !(resource.collectionPath ns).toList.any Request.isForbidden := by
  simp [Request.isSendable, Request.path]

/-- **Labels may stand in paths**: a collection can be addressed in every namespace when it can be
in some. -/
theorem any_isForbidden_collectionPath
    (hresource : (resource.collectionPath "").toList.any Request.isForbidden = false)
    (hns : DnsLabel.IsLabelText ns) :
    (resource.collectionPath ns).toList.any Request.isForbidden = false := by
  have hsplit : (resource.collectionPath ns).toList.any Request.isForbidden =
      ((resource.collectionPath "").toList.any Request.isForbidden ||
        ns.toList.any Request.isForbidden) := by
    simp [Resource.collectionPath, Bool.or_assoc, Bool.or_comm, Bool.or_left_comm,
      -List.any_eq_true, -List.any_eq_false]
  rw [hsplit, hresource, any_isForbidden_of_isLabelText hns]
  rfl

section Objects

variable (hresource : (resource.collectionPath "").toList.any Request.isForbidden = false)
  (hns : DnsLabel.IsLabelText ns) (hname : IsSegment name)

include hresource hns hname

theorem any_isForbidden_objectPath :
    (resource.objectPath ns name).toList.any Request.isForbidden = false := by
  have hslash : Request.isForbidden '/' = false := by decide
  rw [Resource.objectPath, String.toList_append, String.toList_append, List.any_append,
    List.any_append, any_isForbidden_collectionPath hresource hns, hname.chars]
  simp [hslash]

theorem isSendable_get : (Request.get resource ns name).isSendable = true := by
  simp only [Request.isSendable, Request.path, any_isForbidden_objectPath hresource hns hname]
  simp [hname.ne_empty]

theorem isSendable_delete {inBackground : Bool} :
    (Request.delete resource ns name inBackground).isSendable = true := by
  simp only [Request.isSendable, Request.path, any_isForbidden_objectPath hresource hns hname]
  simp [hname.ne_empty]

end Objects

/-! ## Requests in operations -/

/-- The result of an operation that sends one request. -/
def settle (concern : Concern) (recover : Trouble → Option (Except Failure α)) :
    Except Trouble α → Except Failure α
  | .ok value => .ok value
  | .error trouble => (recover trouble).getD (.error (trouble.toFailure concern))

variable {concern : Concern} {request : Request} {read : Json → Option α}
  {recover : Trouble → Option (Except Failure α)}

/-- A request that can be sent is asked once. -/
theorem exchangeOr_eq_ask (h : request.isSendable = true) :
    (exchangeOr concern request read recover).run =
      .ask request fun answer => .done (settle concern recover (answer.read read)) := by
  simp only [exchangeOr, exchange, h, if_true]
  show Interaction.ask request _ = _
  congr 1
  funext answer
  show Interaction.andThen _ (.done _) = _
  cases answer.read read <;> rfl

/-- A request that cannot be sent is of no use. -/
theorem exchangeOr_eq_done (h : request.isSendable = false) :
    (exchangeOr concern request read recover).run =
      .done (settle concern recover (.error .unreadable)) := by
  simp only [exchangeOr, exchange, h, Bool.false_eq_true, if_false]
  rfl

theorem asks_exchangeOr {IsAsked : Request → Prop} (h : IsAsked request) :
    (exchangeOr concern request read recover).Asks IsAsked fun _ => True where
  run := by
    cases hsendable : request.isSendable with
    | true =>
      rw [exchangeOr_eq_ask hsendable]
      exact ⟨h, fun _ _ _ => trivial⟩
    | false =>
      rw [exchangeOr_eq_done hsendable]
      exact fun _ _ => trivial

/-- **The runs of an operation that sends one request.** -/
theorem runs_exchangeOr_iff {trace : List (Event Request fun _ => Answer)}
    {result : Except Failure α} :
    Runs (exchangeOr concern request read recover).run trace result ↔
      (request.isSendable = true ∧ ∃ answer : Answer, trace = [⟨request, answer⟩] ∧
        result = settle concern recover (answer.read read)) ∨
      (request.isSendable = false ∧ trace = [] ∧
        result = settle concern recover (.error .unreadable)) := by
  cases h : request.isSendable with
  | true =>
    rw [exchangeOr_eq_ask h, runs_ask_iff]
    simp only [runs_done_iff, true_and, Bool.true_eq_false, false_and, or_false]
    constructor
    · rintro ⟨answer, _, rfl, rfl, rfl⟩
      exact ⟨answer, rfl, rfl⟩
    · rintro ⟨answer, rfl, rfl⟩
      exact ⟨answer, [], rfl, rfl, rfl⟩
  | false =>
    rw [exchangeOr_eq_done h, runs_done_iff]
    simp

section State

variable {σ : Type} {answer : Request → StateM σ Answer} {state changed : σ}

/-- A request that can be sent is one query. -/
theorem advances_exchangeOr {reply : Answer} (h : request.isSendable = true)
    (hanswer : (answer request).run state = (reply, changed)) :
    Advances answer (exchangeOr concern request read recover).run state
      (.done (settle concern recover (reply.read read))) changed := by
  have hask : Advances answer (.ask request fun reply => .done (settle concern recover
      (reply.read read))) state _ _ := .ask _ _ _
  rwa [hanswer, ← exchangeOr_eq_ask h] at hask

variable (answer state) in
/-- **A request to a partner with a state** is answered once. -/
theorem exec_exchangeOr (h : request.isSendable = true) :
    ((exchangeOr concern request read recover).exec answer).run state =
      (settle concern recover (((answer request).run state).1.read read),
        ((answer request).run state).2) :=
  (advances_exchangeOr h rfl).run

/-- **A request that brought a result** could be sent, or its trouble is made up for. -/
theorem exec_exchangeOr_eq_ok {value : α}
    (h : ((exchangeOr concern request read recover).exec answer).run state = (.ok value, changed))
    (hunreadable : recover .unreadable = none) :
    request.isSendable = true ∧ changed = ((answer request).run state).2 ∧
      settle concern recover (((answer request).run state).1.read read) = .ok value := by
  cases hsendable : request.isSendable with
  | true =>
    rw [exec_exchangeOr answer state hsendable] at h
    obtain ⟨hvalue, hchanged⟩ := Prod.mk.inj h
    exact ⟨rfl, hchanged.symm, hvalue⟩
  | false =>
    rw [Operation.exec, exchangeOr_eq_done hsendable] at h
    obtain ⟨hvalue, -⟩ := Prod.mk.inj h
    simp [settle, hunreadable] at hvalue

end State

/-- Where trouble is never made up for, only an answer that can be read brings a result. -/
theorem settle_eq_ok_iff {outcome : Except Trouble α} {value : α}
    (hrecover : ∀ trouble, recover trouble ≠ some (.ok value)) :
    settle concern recover outcome = .ok value ↔ outcome = .ok value := by
  cases outcome with
  | ok found => simp [settle]
  | error trouble =>
    have hne := hrecover trouble
    cases hremedy : recover trouble with
    | none => simp [settle, hremedy]
    | some remedy =>
      rw [hremedy] at hne
      simpa [settle, hremedy] using hne

end VmProvisioning.Api

namespace VmProvisioning.DnsLabel

/-- Labels may stand in paths. -/
theorem IsLabelText.isSegment {name : String} (h : IsLabelText name) : Api.IsSegment name where
  ne_empty := h.ne_empty
  chars := Api.any_isForbidden_of_isLabelText h

end VmProvisioning.DnsLabel
