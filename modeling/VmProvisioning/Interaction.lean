import VmProvisioning.Failure

/-!
# Interactions

An operation that talks to a partner is a finite tree: it is done with a result, or it asks a
query and goes on with the reply. What the partner answers is no part of it, so the same
operation runs against a cluster, a store in memory or a script.

## Main definitions

* `Interaction`: a tree of queries and replies
* `Interaction.run`: an interaction with a partner that answers
* `Operation`: an interaction that may fail
-/

namespace VmProvisioning

/-- **An interaction** with queries `Query`, replies `Reply` and results `α`. -/
inductive Interaction (Query : Type) (Reply : Query → Type) (α : Type) where
  | done (result : α)
  | ask (query : Query) (next : Reply query → Interaction Query Reply α)

namespace Interaction

variable {Query : Type} {Reply : Query → Type} {α β : Type}

/-- Go on with another interaction where the first one is done. -/
def andThen (next : α → Interaction Query Reply β) :
    Interaction Query Reply α → Interaction Query Reply β
  | done result => next result
  | ask query continuation => ask query fun reply => (continuation reply).andThen next

instance : Monad (Interaction Query Reply) where
  pure := done
  bind interaction next := interaction.andThen next

/-- **Run an interaction** with a partner that answers every query. -/
def run {m : Type → Type} [Monad m] (answer : (query : Query) → m (Reply query)) :
    Interaction Query Reply α → m α
  | done result => pure result
  | ask query next => do
    let reply ← answer query
    (next reply).run answer

end Interaction

/-- **An operation**: an interaction that may fail. -/
abbrev Operation (Query : Type) (Reply : Query → Type) (α : Type) :=
  ExceptT Failure (Interaction Query Reply) α

/-- An outcome within an operation. -/
def Operation.ofExcept {Query : Type} {Reply : Query → Type} {α : Type}
    (outcome : Except Failure α) : Operation Query Reply α :=
  ExceptT.mk (pure outcome)

end VmProvisioning
