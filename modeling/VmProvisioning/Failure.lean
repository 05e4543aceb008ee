import VmProvisioning.Text.Quoted

/-!
# Failures

What can go wrong between a request and a running machine. A failure records its cause; the
wording is in one place.

## Main definitions

* `Invalid`: input that the caller has to change
* `Flaw`: what is wrong with a template or one of its objects
* `ApiStatus`: an error answer of the cluster
* `Failure`: the failures of every operation, with `Failure.message` and `Failure.isRetryable`
-/

namespace VmProvisioning

/-- Why an operation does not fit the state of a machine. -/
inductive ConflictReason where
  | alreadyExists
  | alreadyRunning
  | alreadyStopped
  | notRunning
  | noIpAssigned
deriving DecidableEq, Repr

/-- The wording of a reason. -/
def ConflictReason.message : ConflictReason → String
  | alreadyExists => "already exists"
  | alreadyRunning => "already running"
  | alreadyStopped => "already stopped"
  | notRunning => "not running"
  | noIpAssigned => "no IP address assigned"

/-- What a quota bounds. -/
inductive Dimension where
  | cpu
  | memory
  | storage
deriving DecidableEq, Repr

/-- The wording of a dimension. -/
def Dimension.message : Dimension → String
  | cpu => "CPU"
  | memory => "Memory"
  | storage => "Storage"

/-- Input that the caller has to change. -/
inductive Invalid where
  | emptyQuantity
  | malformedQuantity (text : String)
  | negativeQuantity (text : String)
  | machineId (id suggestion : String)
  | otherDatacenter (requested supplied : String)
  | otherNamespace (requested workload datacenter : String)
  | cpuBounds (least most : UInt32)
  | memoryBounds (least most : UInt32)
  | noRequestTimeout
  | noTemplateNamespace
  | consoleUrl (url : String)
  | stated (message : String)
deriving DecidableEq, Repr

/-- The wording of an invalid input. -/
def Invalid.message : Invalid → String
  | emptyQuantity => "empty quantity"
  | malformedQuantity text => "invalid quantity: " ++ Text.quoted text
  | negativeQuantity text => "quantity must be a non-negative number: " ++ Text.quoted text
  | machineId id suggestion =>
    "VM id " ++ Text.quoted id ++ " is not a DNS label (try " ++ Text.quoted suggestion ++ ")"
  | otherDatacenter requested supplied =>
    "request targets VDC " ++ requested ++ " but " ++ supplied ++ " was supplied"
  | otherNamespace requested workload datacenter =>
    "namespace " ++ requested ++ " is not the workload namespace " ++ workload ++ " of VDC " ++
      datacenter
  | cpuBounds least most =>
    "limit range minCpu " ++ toString least ++ " exceeds maxCpu " ++ toString most
  | memoryBounds least most =>
    "limit range minMemoryGi " ++ toString least ++ " exceeds maxMemoryGi " ++ toString most
  | noRequestTimeout => "request timeout must be non-zero"
  | noTemplateNamespace => "template namespace must not be empty"
  | consoleUrl url => "console base URL must be http(s): " ++ url
  | stated message => message

/-- Why a value cannot be generated from a pattern. -/
inductive PatternError where
  | emptyPattern
  | unterminatedClass
  | invalidRange (low high : Char)
  | emptyClass
  | danglingEscape
  | unterminatedRepeat
  | invalidRepeat (count : String)
  | repeatTooLarge (count most : Nat)
deriving DecidableEq, Repr

/-- The wording of a pattern error. -/
def PatternError.message : PatternError → String
  | emptyPattern => "empty generator expression"
  | unterminatedClass => "unterminated character class"
  | invalidRange low high => "invalid range " ++ low.toString ++ "-" ++ high.toString
  | emptyClass => "empty character class"
  | danglingEscape => "dangling escape"
  | unterminatedRepeat => "unterminated repeat count"
  | invalidRepeat count => "invalid repeat count " ++ Text.quoted count
  | repeatTooLarge count most =>
    "repeat count " ++ toString count ++ " exceeds " ++ toString most

/-- What is wrong with a template or one of its objects. -/
inductive Flaw where
  | unnamedTemplate
  | noKind
  | noApiVersion
  | noName
  | pattern (parameter : String) (error : PatternError)
  | noValue (parameter : String)
  | stated (message : String)
deriving DecidableEq, Repr

/-- The wording of a flaw. -/
def Flaw.message : Flaw → String
  | unnamedTemplate => "template has no metadata.name"
  | noKind => "object has no kind"
  | noApiVersion => "object has no apiVersion"
  | noName => "object has no metadata.name"
  | pattern parameter error => "parameter " ++ parameter ++ ": " ++ error.message
  | noValue parameter => "required parameter " ++ parameter ++ " has no value"
  | stated message => message

/-- An error answer of the cluster's API. -/
structure ApiStatus where
  status : String
  message : String
  reason : String
  code : Nat
deriving DecidableEq, Repr

/-- An error answer as a text, in short and with all its fields. -/
def ApiStatus.describe (answer : ApiStatus) : String :=
  "ApiError: " ++ answer.message ++ ": " ++ answer.reason ++ " (ErrorResponse \x7b status: " ++
    Text.quoted answer.status ++ ", message: " ++ Text.quoted answer.message ++ ", reason: " ++
    Text.quoted answer.reason ++ ", code: " ++ toString answer.code ++ " \x7d)"

/-- **The failures of every operation.** -/
inductive Failure where
  /-- There is no object of that name. -/
  | notFound (kind ns name : String)
  /-- The operation does not fit the state of the machine `target`. -/
  | conflict (reason : ConflictReason) (target : String)
  /-- A request exceeds a ceiling of the datacenter. -/
  | resourceExceeded (dimension : Dimension) (requested limit : String)
  /-- The backend cannot be reached or does not answer in time. -/
  | backendUnavailable (message : String)
  /-- A template or one of its objects is flawed. -/
  | materialization (kind name : String) (flaw : Flaw)
  /-- An object of a deployment was not accepted. -/
  | submission (kind name : String) (cause : Failure)
  /-- The caller's input is invalid. -/
  | validation (cause : Invalid)
  /-- A value does not have the form of its type. -/
  | serialization (message : String) (kind : Option String)
  /-- The cluster answered with an error of no other class. -/
  | rejected (answer : ApiStatus)
  /-- An answer of the cluster cannot be understood, or a request cannot be put to it. -/
  | unreadable
deriving DecidableEq, Repr

namespace Failure

/-- A conflict for the machine `id` in `ns`. -/
def conflictFor (reason : ConflictReason) (ns id : String) : Failure :=
  conflict reason (ns ++ "/" ++ id)

/-- The wording of a failure. -/
def message : Failure → String
  | notFound kind ns name => kind ++ " " ++ ns ++ "/" ++ name ++ " not found"
  | conflict reason target => "conflict for " ++ target ++ ": " ++ reason.message
  | resourceExceeded dimension requested limit =>
    "resource exceeded: " ++ dimension.message ++ " request " ++ requested ++ " exceeds quota " ++
      limit
  | backendUnavailable message => "backend unavailable: " ++ message
  | materialization kind name flaw =>
    "materialization error for " ++ kind ++ "/" ++ name ++ ": " ++ flaw.message
  | submission kind name cause =>
    "materialization error for " ++ kind ++ "/" ++ name ++ ": " ++ cause.message
  | validation cause => "validation error: " ++ cause.message
  | serialization message _ => "serialization error: " ++ message
  | rejected answer => "kubernetes error: " ++ answer.describe
  | unreadable => "kubernetes error: unreadable answer"

/-- Whether trying again may succeed: only for trouble with the connection and for error answers
that do not blame the request. -/
def isRetryable : Failure → Bool
  | backendUnavailable _ => true
  | rejected answer => !(400 ≤ answer.code && answer.code < 500)
  | unreadable => true
  | _ => false

/-- Whether an object was missing. -/
def isNotFound : Failure → Bool
  | notFound .. => true
  | _ => false

end Failure

end VmProvisioning
