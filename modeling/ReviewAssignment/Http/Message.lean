import ReviewAssignment.Failure
import ReviewAssignment.Json.Basic

/-!
# Requests and responses

What arrives over the wire and what leaves, after the framing is taken off: a request has a method, a
path, a query string, headers and the bytes of its body, and a response a status, headers and a text.
The names of headers are compared without regard to case.
-/

namespace ReviewAssignment.Http

/-- A header, name first. -/
abbrev Header := String × String

/-- The first header with a name, which is given in lower case. -/
def header? (name : String) (headers : List Header) : Option String :=
  (headers.find? fun header => header.1.toLower == name).map Prod.snd

structure Request where
  method : String
  path : String
  query : String
  headers : List Header
  body : List UInt8
deriving DecidableEq, Repr, Inhabited

/-! ### Targets -/

def isSchemeChar (c : Char) : Bool :=
  c.isAlphanum || "+-.~".toList.contains c

/-- Whether a character may stand in an authority, which ends where the path, the query string or the
fragment begins. -/
def isAuthorityChar (c : Char) : Bool :=
  c != '/' && c != '?' && c != '#'

def withoutOrigin (target : List Char) : List Char :=
  match target.dropWhile isSchemeChar with
  | ':' :: '/' :: '/' :: rest => rest.dropWhile isAuthorityChar
  | _ => target

/-- Cuts the target of a request into its path and its query string.  The server that the target names
does not count, nor does a fragment; an empty path is that of the root.  A target that is no path, such
as that of a request to the server as a whole, stays as it is. -/
def splitTarget (target : String) : String × String :=
  let target := (withoutOrigin target.toList).takeWhile (· != '#')
  let path := target.takeWhile (· != '?')
  (if path.isEmpty then "/" else String.ofList path,
    String.ofList ((target.dropWhile (· != '?')).drop 1))

def isPath (target : String) : Bool :=
  target.startsWith "/"

example : splitTarget "/team/get?team_name=a#top" = ("/team/get", "team_name=a") := by
  decide +kernel

example : splitTarget "http://[::1]:80?x" = ("/", "x") := by
  decide +kernel

example : (["a~+-.9://h/x", "://h/x", "a_b://h", "h:80"].map fun target => (splitTarget target).1) =
    ["/x", "/x", "a_b://h", "h:80"] := by
  decide +kernel

/-! ### Responses -/

structure Response where
  status : Nat
  headers : List Header
  body : String
deriving DecidableEq, Repr, Inhabited

namespace Response

def bare (status : Nat) : Response :=
  ⟨status, [], ""⟩

def json (status : Nat) (value : Json) : Response :=
  ⟨status, [("content-type", "application/json")], value.write⟩

def text (status : Nat) (content : String) : Response :=
  ⟨status, [("content-type", "text/plain; charset=utf-8")], content⟩

def adding (response : Response) (headers : List Header) : Response :=
  { response with headers := response.headers ++ headers }

def measured (response : Response) : Response :=
  response.adding [("content-length", toString response.body.utf8ByteSize)]

def withoutBody (response : Response) : Response :=
  { response with body := "" }

end Response

/-! ### Failures as responses -/

def statusOf : Failure → Nat
  | .validation .. => 400
  | .notFound .. => 404
  | .alreadyExists _ | .alreadyMerged _ | .reviewerNotAssigned .. | .noReviewerCandidates _
  | .conflict _ => 409
  | .deadlineExceeded _ => 504
  | .database _ | .internal _ => 500

/-- The message of a failure as the outside sees it: details of the store stay in the log. -/
def publicMessage (cause : Failure) : String :=
  if statusOf cause = 500 then "internal error" else cause.message

def errorEnvelope (cause : Failure) : Json :=
  .object [("error", .object [("code", .text cause.code), ("message", .text (publicMessage cause))])]

def Response.ofFailure (cause : Failure) : Response :=
  .json (statusOf cause) (errorEnvelope cause)

end ReviewAssignment.Http
