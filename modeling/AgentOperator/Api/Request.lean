import AgentOperator.Api.Target
import AgentOperator.Store.Program
import AgentOperator.Text.Encoding

/-!
Store calls as requests to the API server. What cannot be addressed is refused before anything is
sent.
-/
namespace AgentOperator.Api

inductive Method where
  | get
  | post
  | put
  | patch
  | delete
  deriving DecidableEq, Repr

def Method.name : Method → String
  | .get => "GET"
  | .post => "POST"
  | .put => "PUT"
  | .patch => "PATCH"
  | .delete => "DELETE"

structure Request where
  method : Method
  target : Target
  contentType : Option String := none
  body : Option Json := none
  deriving DecidableEq

structure Selector where
  kind : Kind
  /-- None lists all namespaces. -/
  ns : Option String := none
  labels : Option String := none
  deriving DecidableEq, Repr

def collection (kind : Kind) (ns : Option String) : String :=
  let root := if kind.group = "" then "/api/" ++ kind.version
    else "/apis/" ++ kind.group ++ "/" ++ kind.version
  let scope := match ns with
    | some ns => "/namespaces/" ++ ns
    | none => ""
  root ++ scope ++ "/" ++ kind.plural

def jsonContent : String := "application/json"

def applyContent : String := "application/apply-patch+yaml"

def refused (reason : String) : StoreError :=
  .request ("Failed to build request: failed to validate request: " ++ reason)

def target (text : String) : Except StoreError Target :=
  (Target.ofText text).mapError fun fault =>
    .request ("Failed to build request: failed to build request: " ++ fault.message)

/-- A query of names and values, the values encoded. There may be none. -/
def withQuery (path : String) (query : List (String × String)) : String :=
  path ++ "?" ++ String.join (query.map fun (name, value) =>
    "&" ++ name ++ "=" ++ Text.FormEncoded.encode value)

def item (kind : Kind) (key : Key) : Except StoreError String :=
  if key.name.isEmpty then .error (refused "A non-empty name is required")
  else .ok (collection kind key.ns ++ "/" ++ key.name)

/-- The path of an object that has to name itself. -/
def named (r : Resource) : Except StoreError String :=
  match r.object.metadata.name with
  | none => .error (.request "object has no name")
  | some name => item r.kind ⟨r.object.metadata.ns, name⟩

def longestManager : Nat := 128

def longestTtl : Nat := 9223372036854775807

def tokenRequestBody (request : TokenRequest) : Json :=
  .object [
    ("apiVersion", .str "authentication.k8s.io/v1"), ("kind", .str "TokenRequest"),
    ("metadata", .object []),
    ("spec", .object [
      ("audiences", .strs request.audiences),
      ("expirationSeconds", .nat (min request.ttl.secs longestTtl))])]

def request : Call → Except StoreError Request
  | .get slot => do return { method := .get, target := ← target (← item slot.kind slot.key) }
  | .create r => do
    return {
      method := .post
      target := ← target (withQuery (collection r.kind r.object.metadata.ns) [])
      contentType := some jsonContent
      body := some r.object.encode }
  | .replace r => do
    return {
      method := .put
      target := ← target (withQuery (← named r) [])
      contentType := some jsonContent
      body := some r.object.encode }
  | .replaceStatus r => do
    return {
      method := .put
      target := ← target (withQuery ((← named r) ++ "/status") [])
      contentType := some jsonContent
      body := some r.object.encode }
  | .delete slot => do
    return {
      method := .delete
      target := ← target (withQuery (← item slot.kind slot.key) [])
      contentType := some jsonContent
      body := some (.object [("propagationPolicy", .str "Background")]) }
  | .apply r manager force => do
    let path ← named r
    if longestManager < manager.utf8ByteSize then
      .error (refused "Failed to validate PatchParams::field_manager!")
    else return {
      method := .patch
      target := ← target (withQuery path
        ((if force then [("force", "true")] else []) ++ [("fieldManager", manager)]))
      contentType := some applyContent
      body := some r.object.encode }
  | .requestToken account token =>
    match account.ns with
    | none => .error (.request s!"service account {account.render} has no namespace")
    | some _ => do
      return {
        method := .post
        target := ← target (withQuery ((← item .serviceAccount account) ++ "/token") [])
        contentType := some jsonContent
        body := some (tokenRequestBody token) }

def Selector.request (s : Selector) : Except StoreError Request := do
  return {
    method := .get
    target := ← target (withQuery (collection s.kind s.ns)
      (s.labels.toList.map fun labels => ("labelSelector", labels))) }

end AgentOperator.Api
