/-!
# Media types

The value of a content type header: a type and a subtype, in either case, perhaps with parameters.  The
part of the subtype after its last plus is the suffix, unless the plus is its first character.  The
parameters are only checked, by a machine that reads them a character at a time.
-/

namespace ReviewAssignment.Http

structure MediaType where
  type : List Char
  subtype : List Char
  suffix : Option (List Char)
deriving DecidableEq, Repr, Inhabited

namespace MediaType

def isTokenChar (c : Char) : Bool :=
  c.isAlphanum || "!#$%&'*+-.^_`|~".toList.contains c

def isQuotable (c : Char) : Bool :=
  32 ≤ c.toNat && c.toNat < 127

inductive Place where
  | gap
  | name
  | valueStart
  | value
  | quotedStart
  | quoted
  | quotedEnd
deriving DecidableEq, Repr, Inhabited

/-- Reads a character of the parameters.  A quoted value is not empty, so a quotation mark right after
the opening one belongs to it. -/
def Place.step : Place → Char → Option Place
  | .gap, c => if c = ' ' then some .gap else if isTokenChar c then some .name else none
  | .name, c => if c = '=' then some .valueStart else if isTokenChar c then some .name else none
  | .valueStart, c =>
    if c = '"' then some .quotedStart else if isTokenChar c then some .value else none
  | .value, c => if c = ';' then some .gap else if isTokenChar c then some .value else none
  | .quotedStart, c => if isQuotable c then some .quoted else none
  | .quoted, c => if c = '"' then some .quotedEnd else if isQuotable c then some .quoted else none
  | .quotedEnd, c => if c = ';' then some .gap else if c = ' ' then some .quotedEnd else none

def Place.isEnd : Place → Bool
  | .gap | .valueStart | .value | .quotedEnd => true
  | .name | .quotedStart | .quoted => false

/-- Whether the text after the first semicolon is a list of parameters. -/
def parametersOk (text : List Char) : Bool :=
  (text.foldlM Place.step .gap).any Place.isEnd

def cutSuffix (subtype : List Char) : List Char × Option (List Char) :=
  let suffix := (subtype.reverse.takeWhile (· != '+')).reverse
  let before := subtype.take (subtype.length - suffix.length - 1)
  if before.isEmpty then (subtype, none) else (before, some suffix)

def read? (text : String) : Option MediaType :=
  let text := text.toList
  let type := text.takeWhile isTokenChar
  match text.dropWhile isTokenChar with
  | '/' :: rest =>
    let subtype := rest.takeWhile isTokenChar
    let parameters := rest.dropWhile isTokenChar
    let parts := cutSuffix (subtype.map Char.toLower)
    let admitted :=
      match parameters with
      | [] => true
      | ';' :: parameters => !subtype.isEmpty && parametersOk parameters
      | _ => false
    if !type.isEmpty && admitted then some ⟨type.map Char.toLower, parts.1, parts.2⟩ else none
  | _ => none

/-- Whether a media type announces JSON, by its subtype or by its suffix. -/
def isJson (mediaType : MediaType) : Bool :=
  mediaType.type == "application".toList &&
    (mediaType.subtype == "json".toList || mediaType.suffix == some "json".toList)

example : read? "Application/Problem+JSON; charset=\"utf 8\" ;v=1" =
    some ⟨"application".toList, "problem".toList, some "json".toList⟩ := by
  decide +kernel

example : (["application/json+x", "text/json", "application/jsonp", "application/json "].map fun text =>
    (read? text).any isJson) = [true, false, false, false] := by
  decide +kernel

end MediaType

end ReviewAssignment.Http
