import ReviewAssignment.Http.Message
import ReviewAssignment.Startup.Address
import ReviewAssignment.Text.Characters

/-!
# The server

A server listens on one address until it is stopped.  An address that is listened on cannot be taken a
second time.

The head of a request is its first line and its headers, up to an empty line; the header
`content-length` says how many bytes of body follow it.  A response is written the same way, always with
that header.
-/

namespace ReviewAssignment.Http

/-! ### Listening -/

open Startup (Address)

inductive ListenFault where
  | taken (address : Address)
deriving DecidableEq, Repr, Inhabited

def ListenFault.message : ListenFault → String
  | .taken address =>
    "Failed to bind to " ++ address.write ++ ": Address already in use (os error 98)"

/-- Listens on an address besides those that are in use, and gives all that are in use then. -/
def listen (inUse : List Address) (address : Address) : Except ListenFault (List Address) :=
  if address ∈ inUse then .error (.taken address) else .ok (address :: inUse)

/-- Nobody listens on an address twice. -/
theorem listen_again {inUse bound : List Address} {address : Address}
    (h : listen inUse address = .ok bound) : listen bound address = .error (.taken address) := by
  unfold listen at h
  split at h
  · simp at h
  · cases h
    simp [listen]

/-! ### Messages as text -/

def trimmedLine (line : List Char) : String :=
  let isSpace := fun c => c == ' ' || c == '\t' || c == '\r' || c == '\n'
  String.ofList ((line.dropWhile isSpace).reverse.dropWhile isSpace).reverse

def readHeader (line : String) : Header :=
  let name := line.toList.takeWhile (· != ':')
  (trimmedLine name, trimmedLine (line.toList.drop (name.length + 1)))

/-- Reads the head of a request: its first line, of three words, and the lines of its headers. -/
def readHead? (line : String) (headers : List String) : Option Request :=
  match (trimmedLine line.toList).splitOn " " with
  | [method, target, _] =>
    let (path, query) := splitTarget target
    some ⟨method, path, query, headers.map readHeader, []⟩
  | _ => none

def contentLength (request : Request) : Nat :=
  Decimal.value (((header? "content-length" request.headers).getD "").toList.filter Decimal.isDigit)

def phrase : Nat → String
  | 200 => "OK"
  | 400 => "Bad Request"
  | 404 => "Not Found"
  | 405 => "Method Not Allowed"
  | 409 => "Conflict"
  | 504 => "Gateway Timeout"
  | _ => "Internal Server Error"

def Response.statusLine (response : Response) : String :=
  "HTTP/1.1 " ++ toString response.status ++ " " ++ phrase response.status

def Response.write (response : Response) : String :=
  let response :=
    if (header? "content-length" response.headers).isSome then response else response.measured
  response.statusLine ++ "\r\n" ++
    String.join (response.headers.map fun header => header.1 ++ ": " ++ header.2 ++ "\r\n") ++
    "\r\n" ++ response.body

end ReviewAssignment.Http
