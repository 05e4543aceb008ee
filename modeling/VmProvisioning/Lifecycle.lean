import VmProvisioning.Datacenter
import VmProvisioning.Machine.Basic
import VmProvisioning.Template.Basic

/-!
# The life of a machine

What can be done with machines, whatever holds them: a backend answers calls. A machine is named
by its id and its namespace; an id that is not a DNS label is refused.

## Main definitions

* `Call`: an operation on a machine
* `Call.Reply`: what a backend answers to it
-/

namespace VmProvisioning

/-- **An operation on a machine.** -/
inductive Call where
  /-- Register a machine in a datacenter. The machine object of its template, if there is one, is
  the base of its own. -/
  | create (machine : Machine) (datacenter : Datacenter) (template : Template) (base : Option Json)
  /-- Start a stopped machine. -/
  | start (id ns : String)
  /-- Stop a running machine. -/
  | stop (id ns : String)
  /-- Restart a running machine. -/
  | restart (id ns : String)
  /-- Delete a machine and everything made for it. -/
  | delete (id ns : String)
  /-- The status of a machine. -/
  | status (id ns : String)
  /-- The address of a running machine. -/
  | ipAddress (id ns : String)
  /-- The address of the console of a machine. -/
  | consoleUrl (id ns : String)
  /-- Whether the backend can be reached. -/
  | check

namespace Call

/-- The result of an operation that succeeds. -/
abbrev Result : Call → Type
  | create .. | start .. | stop .. | restart .. | delete .. | check => Unit
  | status .. => MachineStatus
  | ipAddress .. | consoleUrl .. => String

/-- **What a backend answers.** -/
abbrev Reply (call : Call) : Type :=
  Except Failure call.Result

end Call

end VmProvisioning
