import AgentOperator.Api.Request
import AgentOperator.Shape.Placement
import AgentOperator.Shape.Reader

/-!
Answers of the API server. An answer of a client or server error is read as the error that its body
describes, whatever its own code; any other answer as what the call asked for.
-/
namespace AgentOperator.Api

structure Response where
  code : Nat
  body : String
  deriving DecidableEq, Repr

/-- What comes back: a response, or the reason why none does. -/
abbrev Delivery := Except String Response

def phrase? : Nat → Option String
  | 400 => some "Bad Request"
  | 401 => some "Unauthorized"
  | 402 => some "Payment Required"
  | 403 => some "Forbidden"
  | 404 => some "Not Found"
  | 405 => some "Method Not Allowed"
  | 406 => some "Not Acceptable"
  | 407 => some "Proxy Authentication Required"
  | 408 => some "Request Timeout"
  | 409 => some "Conflict"
  | 410 => some "Gone"
  | 411 => some "Length Required"
  | 412 => some "Precondition Failed"
  | 413 => some "Payload Too Large"
  | 414 => some "URI Too Long"
  | 415 => some "Unsupported Media Type"
  | 416 => some "Range Not Satisfiable"
  | 417 => some "Expectation Failed"
  | 418 => some "I'm a teapot"
  | 421 => some "Misdirected Request"
  | 422 => some "Unprocessable Entity"
  | 423 => some "Locked"
  | 424 => some "Failed Dependency"
  | 425 => some "Too Early"
  | 426 => some "Upgrade Required"
  | 428 => some "Precondition Required"
  | 429 => some "Too Many Requests"
  | 431 => some "Request Header Fields Too Large"
  | 451 => some "Unavailable For Legal Reasons"
  | 500 => some "Internal Server Error"
  | 501 => some "Not Implemented"
  | 502 => some "Bad Gateway"
  | 503 => some "Service Unavailable"
  | 504 => some "Gateway Timeout"
  | 505 => some "HTTP Version Not Supported"
  | 506 => some "Variant Also Negotiates"
  | 507 => some "Insufficient Storage"
  | 508 => some "Loop Detected"
  | 510 => some "Not Extended"
  | 511 => some "Network Authentication Required"
  | _ => none

def statusLine (code : Nat) : String :=
  s!"{code} " ++ (phrase? code).getD "<unknown status code>"

structure ErrorResponse where
  status : String
  message : String
  reason : String
  code : Nat
  deriving DecidableEq, Repr

namespace ErrorResponse

def shape : Shape :=
  .record "ErrorResponse" .strict [
    ("status", .needed, .text), ("message", .given, .text), ("reason", .given, .text),
    ("code", .needed, .word16)]

def ofJson (json : Json) : ErrorResponse :=
  let text (name : String) := (json.member? name Json.str?).getD ""
  { status := text "status"
    message := text "message"
    reason := text "reason"
    code := (json.member? "code" Json.nat?).getD 0 }

/-- The error of a response. A body that describes none is quoted. -/
def ofResponse (response : Response) : ErrorResponse :=
  match shape.read response.body with
  | .ok json => ofJson json
  | .error _ =>
    { status := statusLine response.code
      message := Text.quoted response.body
      reason := "Failed to parse error data"
      code := response.code }

def describe (e : ErrorResponse) : String :=
  "ErrorResponse \x7b status: " ++ Text.quoted e.status ++ ", message: " ++ Text.quoted e.message ++
    ", reason: " ++ Text.quoted e.reason ++ ", code: " ++ toString e.code ++ " \x7d"

def toStoreError (e : ErrorResponse) : StoreError :=
  if e.code = 404 then .notFound e.message
  else if e.code = 409 then
    if e.reason = "AlreadyExists" then .alreadyExists e.message else .conflict e.message
  else .request s!"ApiError: {e.message}: {e.reason} ({e.describe})"

end ErrorResponse

def unreadable (reason : String) : StoreError :=
  .request ("Error deserializing response: " ++ reason)

def parse (shape : Shape) (ofJson : Json → α) (body : String) : Except StoreError α :=
  match shape.read body with
  | .error error => .error (unreadable error.message)
  | .ok json => .ok (ofJson json)

def body : Delivery → Except StoreError String
  | .error reason => .error (.request ("ServiceError: " ++ reason))
  | .ok response =>
    if 400 ≤ response.code ∧ response.code < 600 then
      .error (ErrorResponse.ofResponse response).toStoreError
    else .ok response.body

def tokenShape : Shape :=
  .declared "TokenRequest" "authentication.k8s.io/v1" [
    ("metadata", Metadata.shape),
    ("spec", .api "TokenRequestSpec" [
      ("audiences", .texts),
      ("boundObjectRef", .apiTexts "BoundObjectReference" ["apiVersion", "kind", "name", "uid"]),
      ("expirationSeconds", .int64)]),
    ("status", .record "TokenRequestStatus" .plain [
      ("expirationTimestamp", .needed, .instant), ("token", .free, .text)])]

def tokenOf (json : Json) : Option String :=
  ((json.get? "status").filter (· ≠ .null)).map fun status =>
    (status.member? "token" Json.str?).getD ""

/-- An answer without a token, or with an empty one, is an error. -/
def token (account : Key) : Option String → Except StoreError String
  | some token =>
    if token.isEmpty then noToken else .ok token
  | none => noToken
where
  noToken : Except StoreError String :=
    .error (.request s!"token request for {account.render} returned no token")

def listShape : Shape :=
  .record "ObjectList" .extensible [
    ("metadata", .given, .api "ListMeta" [
      ("continue", .text), ("remainingItemCount", .int64), ("resourceVersion", .text),
      ("selfLink", .text)]),
    ("items", ⟨true, true⟩, .sequence Object.shape)]

def listOf (json : Json) : List Object :=
  ((json.member? "items" Json.arr?).getD []).map Object.ofJson

def statusShape : Shape :=
  let cause : Shape := .record "StatusCause" .strict [
    ("reason", .given, .text), ("message", .given, .text), ("field", .given, .text)]
  let details : Shape := .record "StatusDetails" .strict [
    ("name", .given, .text), ("group", .given, .text), ("kind", .given, .text),
    ("uid", .given, .text), ("causes", .given, .sequence cause),
    ("retryAfterSeconds", .given, .word32)]
  .record "Status" .strict [
    ("status", .free, .choice ["Success", "Failure"]), ("code", .given, .word16),
    ("message", .given, .text), ("reason", .given, .text), ("details", .free, details)]

/-- A removed object, or a status in its place, has to be readable but is not looked into. The body
is read once to tell which of the two it is. -/
def parseRemoval (body : String) : Except StoreError Unit :=
  match Json.read body with
  | .error error => .error (unreadable error.message)
  | .ok json =>
    let shape := if json.get "kind" = .str "Status" then statusShape else Object.shape
    parse shape (fun _ => ()) body

def interpret : (call : Call) → Delivery → call.Answer
  | .get _, delivery => body delivery >>= parse Object.shape Object.ofJson
  | .create _, delivery => body delivery >>= parse Object.shape Object.ofJson
  | .replace _, delivery => body delivery >>= parse Object.shape Object.ofJson
  | .replaceStatus _, delivery => body delivery >>= parse Object.shape Object.ofJson
  | .apply _ _ _, delivery => body delivery >>= parse Object.shape Object.ofJson
  | .delete _, delivery => body delivery >>= parseRemoval
  | .requestToken account _, delivery =>
    body delivery >>= parse tokenShape tokenOf >>= token account

/-- Sends a call, if it can be addressed, and reads what comes back. -/
def exchange (deliver : Request → Delivery) (call : Call) : List Request × call.Answer :=
  match request call with
  | .error error => ([], .error error)
  | .ok request => ([request], interpret call (deliver request))

def list (deliver : Request → Delivery) (selector : Selector) :
    List Request × Except StoreError (List Object) :=
  match selector.request with
  | .error error => ([], .error error)
  | .ok request => ([request], body (deliver request) >>= parse listShape listOf)

end AgentOperator.Api
