import ReviewAssignment.Http.Form
import ReviewAssignment.Http.MediaType
import ReviewAssignment.Http.Message
import ReviewAssignment.Json.Records

/-!
# The routes

`endpoints` lists the paths and, for each, how it learns what the service is asked: from a field of the
query string or from the body.  `respond` turns a request into a response.  A failure of the service
leaves in an envelope with its code and message, under the status of its kind.

Any page may call the service, so every response says so, and every `OPTIONS` request is answered at
once, whatever its path.  A response from an endpoint states the length of its content, also where a
`HEAD` request leaves the content out.
-/

namespace ReviewAssignment.Http

/-! ### Bodies -/

/-- The longest body that is read, in bytes. -/
def maxBodyLength : Nat := 2097152

inductive BodyFault where
  | unannounced
  | tooLong
  | unreadable (text : List Json.Symbol) (fault : Json.Fault)
deriving DecidableEq, Repr, Inhabited

def BodyFault.message : BodyFault → String
  | .unannounced => "Expected request with `Content-Type: application/json`"
  | .tooLong => "Failed to buffer the request body: length limit exceeded"
  | .unreadable text (.malformed path due left) =>
    "Failed to parse the request body as JSON: " ++
      (Json.Fault.malformed path due left).report text
  | .unreadable text (.data path mismatch gap) =>
    "Failed to deserialize the JSON body into the target type: " ++
      (Json.Fault.data path mismatch gap).report text

def announcesJson (headers : List Header) : Bool :=
  ((header? "content-type" headers).bind MediaType.read?).any MediaType.isJson

def readBody {α : Type} (reader : Json.Reader α) (request : Request) : Except BodyFault α :=
  if !announcesJson request.headers then .error .unannounced
  else if maxBodyLength < request.body.length then .error .tooLong
  else
    let text := Text.Utf8.decodeExact request.body
    (Json.decode reader text).mapError (.unreadable text)

/-! ### Endpoints -/

/-- How an endpoint learns what the service is asked. -/
inductive Input where
  | fixed (answer : Json)
  | always (asked : ReviewAssignment.Request)
  /-- From a field of the query string; a missing field is empty. -/
  | field (name : String) (asked : String → ReviewAssignment.Request)
  | body (reader : Json.Reader ReviewAssignment.Request)

structure Endpoint where
  path : String
  input : Input

def endpoints : List Endpoint :=
  [⟨"/health", .fixed (.object [("status", .text "ok")])⟩,
   ⟨"/team/add", .body .upsertTeamBody⟩,
   ⟨"/team/get", .field "team_name" .teamByName⟩,
   ⟨"/users/setIsActive", .body .setActiveBody⟩,
   ⟨"/users/getReview", .field "user_id" .reviews⟩,
   ⟨"/pullRequest/create", .body .createBody⟩,
   ⟨"/pullRequest/merge", .body .mergeBody⟩,
   ⟨"/pullRequest/reassign", .body .reassignBody⟩,
   ⟨"/stats/reviewers", .always .reviewerLoads⟩,
   ⟨"/stats/pullRequests", .always .reviewerCounts⟩]

def endpoint? (path : String) : Option Endpoint :=
  endpoints.find? fun endpoint => endpoint.path == path

def Endpoint.methods (endpoint : Endpoint) : List String :=
  match endpoint.input with
  | .body _ => ["POST"]
  | _ => ["GET", "HEAD"]

def Endpoint.allow (endpoint : Endpoint) : Header :=
  ("allow", ",".intercalate endpoint.methods)

def envelope : ReviewAssignment.Request → Reply → Json
  | .upsertTeam _, reply => .object [("team", reply.toJson)]
  | .setActive _ _, reply => .object [("user", reply.toJson)]
  | .reviews user, reply => .object [("user_id", .text user), ("pull_requests", reply.toJson)]
  | .create _ _ _, reply | .merge _, reply => .object [("pr", reply.toJson)]
  | .reassign _ _, .reassignment outcome =>
    .object [("pr", outcome.pullRequest.toJson), ("replaced_by", .text outcome.replacedBy.id)]
  | .reviewerLoads, reply | .reviewerCounts, reply => .object [("items", reply.toJson)]
  | _, reply => reply.toJson

def consult (perform : ReviewAssignment.Request → Program Reply) (asked : ReviewAssignment.Request) :
    Program Response := do
  match ← (perform asked).attempt with
  | .ok reply => return .json 200 (envelope asked reply)
  | .error cause => return .ofFailure cause

def Endpoint.answer (endpoint : Endpoint)
    (perform : ReviewAssignment.Request → Program Reply) (request : Request) : Program Response :=
  match endpoint.input with
  | .fixed answer => return .json 200 answer
  | .always asked => consult perform asked
  | .field name asked =>
    match Form.values name (Form.decode request.query) with
    | [] => consult perform (asked "")
    | [value] => consult perform (asked value)
    | _ =>
      return .text 400 ("Failed to deserialize query string: duplicate field `" ++ name ++ "`")
  | .body reader =>
    match readBody reader request with
    | .ok asked => consult perform asked
    | .error fault => do
      .log ⟨.warn, "Rejected request body: " ++ fault.message⟩
      return .ofFailure (.invalidBody fault.message)

/-! ### Responses -/

def openHeaders : List Header :=
  [("access-control-allow-origin", "*"),
   ("vary", "origin, access-control-request-method, access-control-request-headers")]

def preflightHeaders : List Header :=
  [("access-control-allow-methods", "*"), ("access-control-allow-headers", "*")]

/-- Finishes a response without content where no endpoint is: to a path no length is stated, to any
other target it is. -/
def unrouted (path : String) (response : Response) : Response :=
  if isPath path then response else response.measured

def preflight (path : String) : Response :=
  let response := (Response.bare 200).adding (openHeaders ++ preflightHeaders)
  match endpoint? path with
  | some endpoint => (response.adding [endpoint.allow]).measured
  | none => unrouted path response

def dispatch (perform : ReviewAssignment.Request → Program Reply) (request : Request) :
    Program Response :=
  match endpoint? request.path with
  | none => return unrouted request.path (.bare 404)
  | some endpoint =>
    if endpoint.methods.contains request.method then do
      -- The length is stated before the body is left out.
      let response := (← endpoint.answer perform request).measured
      return if request.method = "HEAD" then response.withoutBody else response
    else return ((Response.bare 405).adding [endpoint.allow]).measured

/-- Answers a request, with the service behind it. -/
def respond (perform : ReviewAssignment.Request → Program Reply) (request : Request) :
    Program Response :=
  if request.method = "OPTIONS" then return preflight request.path
  else do
    let response ← dispatch perform request
    return response.adding (openHeaders ++ [("access-control-expose-headers", "*")])

end ReviewAssignment.Http
