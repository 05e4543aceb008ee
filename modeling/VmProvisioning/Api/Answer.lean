import VmProvisioning.Api.Object
import VmProvisioning.Api.Request
import VmProvisioning.Duration
import VmProvisioning.Interaction
import VmProvisioning.Json.Reader
import VmProvisioning.Json.Writer

/-!
# Answers of the cluster's API

## Main definitions

* `Api.Answer`: what comes back for a request
* `Api.Trouble`: why an answer is of no use
* `Api.Answer.read`: the value of an answer
* `Api.exchange`: send a request and read its answer
* `Api.Trouble.toFailure`: the failure of an operation on an object
-/

namespace VmProvisioning.Api

/-- The body of an answer: a JSON value, or a text that need not be one. -/
inductive Body where
  | json (value : Json)
  | text (text : String)
deriving DecidableEq

/-- The JSON value of a body. -/
def Body.json? : Body → Option Json
  | json value => some value
  | text raw => Json.read? raw

/-- The text of a body. -/
def Body.toText : Body → String
  | json value => value.write
  | text raw => raw

/-- **What comes back for a request.** -/
inductive Answer where
  /-- A status code and a body. -/
  | answered (code : Nat) (body : Body)
  /-- The connection fails. -/
  | disconnected (message : String)
  /-- Nothing comes back within the time for a request. -/
  | silent
deriving DecidableEq

/-- Why an answer is of no use. -/
inductive Trouble where
  | refused (answer : ApiStatus)
  | disconnected (message : String)
  | timedOut
  | unreadable
deriving DecidableEq, Repr

/-! ## Reading -/

/-- The status codes of refused requests with their standard phrases. -/
def phrases : List (Nat × String) :=
  [(400, "Bad Request"), (401, "Unauthorized"), (402, "Payment Required"), (403, "Forbidden"),
   (404, "Not Found"), (405, "Method Not Allowed"), (406, "Not Acceptable"),
   (407, "Proxy Authentication Required"), (408, "Request Timeout"), (409, "Conflict"),
   (410, "Gone"), (411, "Length Required"), (412, "Precondition Failed"),
   (413, "Payload Too Large"), (414, "URI Too Long"), (415, "Unsupported Media Type"),
   (416, "Range Not Satisfiable"), (417, "Expectation Failed"), (418, "I'm a teapot"),
   (421, "Misdirected Request"), (422, "Unprocessable Entity"), (423, "Locked"),
   (424, "Failed Dependency"), (425, "Too Early"), (426, "Upgrade Required"),
   (428, "Precondition Required"), (429, "Too Many Requests"),
   (431, "Request Header Fields Too Large"), (451, "Unavailable For Legal Reasons"),
   (500, "Internal Server Error"), (501, "Not Implemented"), (502, "Bad Gateway"),
   (503, "Service Unavailable"), (504, "Gateway Timeout"), (505, "HTTP Version Not Supported"),
   (506, "Variant Also Negotiates"), (507, "Insufficient Storage"), (508, "Loop Detected"),
   (510, "Not Extended"), (511, "Network Authentication Required")]

/-- A status code with its standard phrase. -/
def statusLine (code : Nat) : String :=
  let phrase := (phrases.find? fun (known, _) => known == code).map Prod.snd
  toString code ++ " " ++ phrase.getD "<unknown status code>"

/-- The error that a body describes. -/
def apiStatus? : Json → Option ApiStatus :=
  Json.record? do
    return {
      status := ← Json.required "status" Json.text?
      message := ← Json.defaulted "message" Json.text? ""
      reason := ← Json.defaulted "reason" Json.text? ""
      code := ← Json.required "code" (Json.uint? 16) }

/-- The error of a refused request: what the body describes, else the body as it is. -/
def refusal (code : Nat) (body : Body) : ApiStatus :=
  (body.json?.bind apiStatus?).getD
    ⟨statusLine code, Text.quoted body.toText, "Failed to parse error data", code⟩

/-- **The value of an answer.** -/
def Answer.read {α : Type} (read : Json → Option α) : Answer → Except Trouble α
  | answered code body =>
    if 400 ≤ code ∧ code < 600 then .error (.refused (refusal code body))
    else
      match body.json?.bind read with
      | some value => .ok value
      | none => .error .unreadable
  | disconnected message => .error (.disconnected message)
  | silent => .error .timedOut

/-! ## Asking -/

/-- An interaction with the cluster's API. -/
abbrev Dialogue (α : Type) :=
  Interaction Request (fun _ => Answer) α

/-- An operation on the cluster's API. -/
abbrev Action (α : Type) :=
  Operation Request (fun _ => Answer) α

/-- **Send a request** and read its answer. A request that cannot be sent is of no use either. -/
def exchange {α : Type} (request : Request) (read : Json → Option α) :
    Dialogue (Except Trouble α) :=
  if request.isSendable then .ask request fun answer => .done (answer.read read)
  else .done (.error .unreadable)

/-! ## Trouble -/

/-- Whether the object of a request is missing. -/
def Trouble.isNotFound : Trouble → Bool
  | refused answer => answer.code == 404
  | _ => false

/-- Whether an answer says, by its reason, that there is no such object. -/
def Trouble.isAbsence : Trouble → Bool
  | refused answer => answer.reason == "NotFound"
  | _ => false

/-- Whether the object to create is there already. -/
def Trouble.isConflict : Trouble → Bool
  | refused answer => answer.code == 409
  | _ => false

/-- What an operation is about: how it is called, how long it may take, and its object. -/
structure Concern where
  operation : String
  timeout : Duration
  kind : String
  ns : String
  name : String
deriving DecidableEq, Repr

/-- The failure of an operation that took too long. -/
def timeoutFailure (operation : String) (timeout : Duration) : Failure :=
  .backendUnavailable (operation ++ " timed out after " ++ timeout.text)

/-- The failure that a refusal is for an operation on an object. -/
def refusalFailure (kind ns name : String) (answer : ApiStatus) : Failure :=
  if answer.code = 404 then .notFound kind ns name
  else if answer.code = 503 ∨ answer.code = 504 then
    .backendUnavailable (kind ++ " " ++ ns ++ "/" ++ name ++ ": " ++ answer.message)
  else .rejected answer

/-- **The failure of an operation on an object.** -/
def Trouble.toFailure (concern : Concern) : Trouble → Failure
  | refused answer => refusalFailure concern.kind concern.ns concern.name answer
  | disconnected message => .backendUnavailable message
  | timedOut => timeoutFailure concern.operation concern.timeout
  | unreadable => .unreadable

/-- Send a request; `recover` turns trouble with a meaning of its own into a result or another
failure. -/
def exchangeOr {α : Type} (concern : Concern) (request : Request) (read : Json → Option α)
    (recover : Trouble → Option (Except Failure α)) : Action α :=
  ExceptT.mk do
    match ← exchange request read with
    | .ok value => return .ok value
    | .error trouble => return (recover trouble).getD (.error (trouble.toFailure concern))

/-- Send a request, where all trouble is a failure. -/
def exchangeFor {α : Type} (concern : Concern) (request : Request) (read : Json → Option α) :
    Action α :=
  exchangeOr concern request read fun _ => none

/-- Ask for an object that may be missing. -/
def getOptional {α : Type} (concern : Concern) (resource : Resource) (read : Json → Option α) :
    Action (Option α) :=
  exchangeOr concern (.get resource concern.ns concern.name) (fun value => (read value).map some)
    fun trouble => if trouble.isAbsence then some (.ok none) else none

end VmProvisioning.Api
