import ReviewAssignment.Json.Due
import ReviewAssignment.Text.Quoted

/-!
# Faults of a JSON text

A text is refused because it is no JSON, or because a value in it is not what is wanted there.  Either
way the fault says in which value this is so; a record may be written as an array of its fields, so a
place in a record may also be an index.

A fault is found among the tokens, and says only how many of them are left.  `Fault.report` goes back to
the text, to say what is wrong in it and at which line and column.
-/

namespace ReviewAssignment.Json

inductive Step where
  | field (name : String)
  | item (index : Nat)
deriving DecidableEq, Repr, Inhabited

inductive Mismatch where
  | wrongKind (got expected : String)
  | missing (field : String)
  | repeated (field : String)
  | tooShort (length : Nat) (expected : String)
  | unknownVariant (word : String) (known : List String)
deriving DecidableEq, Repr, Inhabited

/-- Where a fault is seen when so many tokens are left: right behind the last token that was read, or
behind the white space after it. -/
inductive Gap where
  | near (left : Nat)
  | far (left : Nat)
deriving DecidableEq, Repr, Inhabited

inductive Fault where
  /-- The text is no JSON: it does not go on with what is due when a number of tokens are left. -/
  | malformed (path : List Step) (due : Due) (left : Nat)
  | data (path : List Step) (mismatch : Mismatch) (gap : Gap)
deriving DecidableEq, Repr, Inhabited

/-! ### Words -/

def backquoted (word : String) : String :=
  "`" ++ word ++ "`"

def Mismatch.message : Mismatch → String
  | .wrongKind got expected => "invalid type: " ++ got ++ ", expected " ++ expected
  | .missing field => "missing field " ++ backquoted field
  | .repeated field => "duplicate field " ++ backquoted field
  | .tooShort length expected =>
    "invalid length " ++ toString length ++ ", expected " ++ expected
  | .unknownVariant word known =>
    "unknown variant " ++ backquoted word ++ ", expected " ++
      " or ".intercalate (known.map backquoted)

def Step.write : Step → String
  | .field name => "." ++ name
  | .item index => "[" ++ toString index ++ "]"

/-- The steps from the whole text to a value; no point stands before the first of them. -/
def writePath : List Step → String
  | [] => ""
  | .field name :: rest => name ++ String.join (rest.map Step.write)
  | .item index :: rest => String.join ((.item index :: rest).map Step.write)

def located (path : List Step) (message : String) : String :=
  if path.isEmpty then message else writePath path ++ ": " ++ message

def Gap.rest (gap : Gap) (text : List Symbol) : List Symbol :=
  match gap with
  | .near left => dropTokens ((scan text).length - left) text
  | .far left => dropSpace (dropTokens ((scan text).length - left) text)

def Fault.report (text : List Symbol) : Fault → String
  | .malformed path due left =>
    let rest := (Gap.far left).rest text
    let defect := due.defect rest
    words path defect.flaw.message (textSize text - textSize rest + defect.bytes)
  | .data path mismatch gap =>
    words path mismatch.message (textSize text - textSize (gap.rest text))
where
  words (path : List Step) (message : String) (bytes : Nat) : String :=
    located path message ++ " at " ++ (Position.start.forward bytes text).write

/-! ### Finding a fault -/

def Fault.within (step : Step) : Fault → Fault
  | .malformed path due left => .malformed (step :: path) due left
  | .data path mismatch gap => .data (step :: path) mismatch gap

def Due.fault (due : Due) (tokens : List Token) : Fault :=
  .malformed [] due tokens.length

example : ((Due.itemEnd.fault [.broken]).within (.item 2)).report ("[true,\n \"é\" x".toList.map some) =
    "[2]: expected `,` or `]` at line 2 column 7" := by
  decide +kernel

example : Fault.report ("[true,\n \"é\" x".toList.map some)
      (.data [.item 1] (.missing "id") (.near 1)) =
    "[1]: missing field `id` at line 2 column 5" := by
  decide +kernel

/-- The value that begins with a token, in the words of a message; nothing if no acceptable value
begins there.  Of an array or an object only the bracket is looked at. -/
def Token.kind? : Token → Option String
  | .null => some "null"
  | .flag value => some ("boolean " ++ backquoted (if value then "true" else "false"))
  | .number numeral => numeral.describe?
  | .text content => content.map fun text => "string " ++ Text.quote text
  | .openBracket => some "sequence"
  | .openBrace => some "map"
  | .closeBrace | .closeBracket | .colon | .comma | .broken => none

/-- The fault of finding another value than the expected one.  A value is read before it is refused, but
of an array or an object not even the bracket is. -/
def unexpected (tokens : List Token) (expected : String) : Fault :=
  match tokens with
  | [] => (Due.value true).fault []
  | token :: rest =>
    match token.kind? with
    | none => (Due.value true).fault (token :: rest)
    | some got =>
      let gap : Gap :=
        if token = .openBracket ∨ token = .openBrace then .far (rest.length + 1)
        else .near rest.length
      .data [] (.wrongKind got expected) gap

end ReviewAssignment.Json
