import ReviewAssignment.Json.Basic
import ReviewAssignment.Json.Fault

/-!
# Reading JSON

A reader takes a value of a certain shape off the front of a list of tokens, or says what is wrong.
It reads from left to right and stops at the first fault, so a wrong value hides everything after it.

A record is read from an object, whose fields come in any order and may be mixed with unknown ones, or
from an array of all its fields in the order of their declaration.  Either way the value read has the
declared fields in the declared order.  The value of an unknown field is skipped: it has to be JSON
and nothing more.
-/

namespace ReviewAssignment.Json

abbrev Reader (α : Type) := List Token → Except Fault (α × List Token)

def inside (step : Step) {α : Type} (result : Except Fault α) : Except Fault α :=
  result.mapError (Fault.within step)

namespace Reader

def text : Reader Json
  | .text (some content) :: rest => .ok (.text content, rest)
  | tokens => .error (unexpected tokens "a string")

def flag : Reader Json
  | .flag value :: rest => .ok (.flag value, rest)
  | tokens => .error (unexpected tokens "a boolean")

/-! ### Skipping -/

inductive Nest where
  | array
  | object
deriving DecidableEq, Repr, Inhabited

mutual

/-- Skips a value inside open containers, and then the rest of these. -/
def skipValue (nests : List Nest) : List Token → Except Fault (List Token)
  | .null :: rest | .flag _ :: rest | .number _ :: rest | .text _ :: rest => skipRest nests rest
  | .openBracket :: .closeBracket :: rest => skipRest nests rest
  | [.openBracket] => .error (Due.itemEnd.fault [])
  | .openBracket :: rest => skipValue (.array :: nests) rest
  | .openBrace :: .closeBrace :: rest => skipRest nests rest
  | .openBrace :: rest => skipMember nests rest
  | tokens => .error ((Due.value false).fault tokens)

def skipMember (nests : List Nest) : List Token → Except Fault (List Token)
  | .text _ :: .colon :: rest => skipValue (.object :: nests) rest
  | .text _ :: rest => .error (Due.colon.fault rest)
  | tokens => .error (Due.skippedName.fault tokens)

/-- Skips the rest of the open containers after a value in the innermost. -/
def skipRest : List Nest → List Token → Except Fault (List Token)
  | [], rest => .ok rest
  | .array :: nests, .comma :: rest => skipValue (.array :: nests) rest
  | .array :: nests, .closeBracket :: rest => skipRest nests rest
  | .array :: _, tokens => .error (Due.itemEnd.fault tokens)
  | .object :: nests, .comma :: rest => skipMember nests rest
  | .object :: nests, .closeBrace :: rest => skipRest nests rest
  | .object :: _, tokens => .error (Due.memberEnd.fault tokens)

end

def skip (tokens : List Token) : Except Fault (List Token) :=
  skipValue [] tokens

/-! ### Arrays -/

def item {α : Type} (read : Reader α) (index : Nat) (tokens : List Token) :
    Except Fault (α × List Token) :=
  inside (.item index) <|
    match tokens with
    | .closeBracket :: _ => .error (Due.item.fault tokens)
    | _ => read tokens

def noItem {α : Type} (index : Nat) (tokens : List Token) : Except Fault α :=
  inside (.item index) (.error (Due.itemEnd.fault tokens))

/-- Reads the items from the given one on, the bracket or comma before the first being read.  There are
no more items than tokens. -/
def items (read : Reader Json) : Nat → Nat → Reader (List Json)
  | 0, index, tokens => noItem index tokens
  | fuel + 1, index, tokens => do
    let (value, rest) ← item read index tokens
    match rest with
    | .comma :: rest =>
      let (values, rest) ← items read fuel (index + 1) rest
      return (value :: values, rest)
    | .closeBracket :: rest => return ([value], rest)
    | rest => noItem (index + 1) rest

def sequence (read : Reader Json) : Reader Json
  | .openBracket :: .closeBracket :: rest => .ok (.array [], rest)
  | [.openBracket] => noItem 0 []
  | .openBracket :: rest => do
    let (values, rest) ← items read rest.length 0 rest
    return (.array values, rest)
  | tokens => .error (unexpected tokens "a sequence")

/-! ### Records -/

structure Field where
  name : String
  read : Reader Json

def arity (name : String) (count : Nat) : String :=
  "struct " ++ name ++ " with " ++ toString count ++ if count = 1 then " element" else " elements"

/-- Reads the fields from the given one on, out of an array.  A comma stands before each but the
first. -/
def elements (expected : String) : Nat → List Field → Reader (List (String × Json))
  | _, [], .closeBracket :: rest => .ok ([], rest)
  | _, [], tokens => .error (Due.arrayEnd.fault tokens)
  | index, _ :: _, .closeBracket :: rest =>
    .error (.data [] (.tooShort index expected) (.near rest.length))
  | 0, _ :: _, [] => noItem 0 []
  | 0, field :: fields, tokens => do
    let (value, rest) ← item field.read 0 tokens
    let (values, rest) ← elements expected 1 fields rest
    return ((field.name, value) :: values, rest)
  | index + 1, field :: fields, .comma :: rest => do
    let (value, rest) ← item field.read (index + 1) rest
    let (values, rest) ← elements expected (index + 2) fields rest
    return ((field.name, value) :: values, rest)
  | index + 1, _ :: _, tokens => noItem (index + 1) tokens

/-- The fields that were read, in the order of their declaration, when a number of tokens are left after
the record. -/
def declared (left : Nat) (found : List (String × Json)) :
    List Field → Except Fault (List (String × Json))
  | [] => .ok []
  | field :: fields =>
    match List.lookup field.name found with
    | some value => do return (field.name, value) :: (← declared left found fields)
    | none => .error (.data [] (.missing field.name) (.near left))

/-- The gap at which a name is refused: after the object, if it ends there, and else before what
follows. -/
def afterName : List Token → Gap
  | .closeBrace :: rest => .near rest.length
  | tokens => .far tokens.length

def valueOf {α : Type} (name : String) (read : List Token → Except Fault α) (tokens : List Token) :
    Except Fault α :=
  inside (.field name) <|
    match tokens with
    | .colon :: rest => read rest
    | _ => .error (Due.colon.fault tokens)

/-- Reads a member of an object after its name: a declared one is added to those found, and may not be
among them; any other is skipped. -/
def member (fields : List Field) (name : String) (found : List (String × Json)) :
    Reader (List (String × Json)) := fun tokens =>
  match fields.find? fun field => field.name == name with
  | some field =>
    if (List.lookup name found).isSome then
      .error (.data [] (.repeated name) (afterName tokens))
    else do
      let (value, rest) ← valueOf name field.read tokens
      return ((name, value) :: found, rest)
  | none => do return (found, ← valueOf name skip tokens)

/-- Reads the members of an object from a name on, with those found before.  There are no more members
than tokens. -/
def members (fields : List Field) :
    Nat → Due → List (String × Json) → Reader (List (String × Json))
  | fuel + 1, _, found, .text (some name) :: rest => do
    let (found, rest) ← member fields name found rest
    match rest with
    | .comma :: rest => members fields fuel .name found rest
    | .closeBrace :: rest => return (found, rest)
    | rest => .error (Due.memberEnd.fault rest)
  | _, due, _, tokens => .error (due.fault tokens)

def record (name : String) (fields : List Field) : Reader Json
  | .openBrace :: .closeBrace :: rest => do
    return (.object (← declared rest.length [] fields), rest)
  | .openBrace :: rest => do
    let (found, rest) ← members fields rest.length .firstName [] rest
    return (.object (← declared rest.length found fields), rest)
  | .openBracket :: rest => do
    let (values, rest) ← elements (arity name fields.length) 0 fields rest
    return (.object values, rest)
  | tokens => .error (unexpected tokens ("struct " ++ name))

/-! ### Words -/

def variant (known : List String) (word : String) (left : Nat) : Except Fault String :=
  if known.contains word then .ok word
  else .error (.data [] (.unknownVariant word known) (.near left))

/-- Reads one of a number of words, written as a string or as an object whose only field has the word
for its name and `null` for its value. -/
def word (known : List String) : Reader String
  | .text (some content) :: rest => do return (← variant known content rest.length, rest)
  | .openBrace :: .text (some content) :: rest => do
    let content ← variant known content rest.length
    match rest with
    | .colon :: .null :: .closeBrace :: rest => return (content, rest)
    | .colon :: .null :: rest => .error (Due.memberEnd.fault rest)
    | .colon :: rest => .error (unexpected rest "unit")
    | rest => .error (Due.colon.fault rest)
  | .openBrace :: rest => .error (Due.firstName.fault rest)
  | tokens => .error ((Due.value true).fault tokens)

end Reader

def decode {α : Type} (reader : Reader α) (text : List Symbol) : Except Fault α :=
  match reader (scan text) with
  | .ok (value, []) => .ok value
  | .ok (_, rest) => .error (Due.nothing.fault rest)
  | .error fault => .error fault

def Reader.into {α : Type} (reader : Reader Json) (build : Json → Option α) : Reader α :=
  fun tokens =>
    match reader tokens with
    | .ok (value, rest) =>
      match build value with
      | some built => .ok (built, rest)
      | none => .error ((Due.value true).fault tokens)
    | .error fault => .error fault

end ReviewAssignment.Json
