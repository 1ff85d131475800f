import ReviewAssignment.Text.Characters

/-!
# JSON values and their compact form

The values that the service writes: numbers are natural, and an object keeps its fields in the order
in which they were given.  `Json.write` gives the compact text, without white space.  In a string, the
quotation mark, the backslash and the characters below U+0020 are escaped, the latter with two-letter
escapes where there are any; all else stands as it is.
-/

namespace ReviewAssignment

inductive Json where
  | null
  | flag (value : Bool)
  | number (value : Nat)
  | text (value : String)
  | array (items : List Json)
  | object (fields : List (String × Json))
deriving Repr, Inhabited

namespace Json

def escapeChar (c : Char) : List Char :=
  if c = '"' then ['\\', '"']
  else if c = '\\' then ['\\', '\\']
  else if c = '\x08' then ['\\', 'b']
  else if c = '\x0c' then ['\\', 'f']
  else if c = '\n' then ['\\', 'n']
  else if c = '\r' then ['\\', 'r']
  else if c = '\t' then ['\\', 't']
  else if c.toNat < 32 then
    ['\\', 'u', '0', '0', Text.hexDigit (c.toNat / 16), Text.hexDigit (c.toNat % 16)]
  else [c]

def quoted (text : String) : List Char :=
  '"' :: text.toList.flatMap escapeChar ++ ['"']

mutual

def chars : Json → List Char
  | .null => ['n', 'u', 'l', 'l']
  | .flag true => ['t', 'r', 'u', 'e']
  | .flag false => ['f', 'a', 'l', 's', 'e']
  | .number value => Nat.toDigits 10 value
  | .text value => quoted value
  | .array [] => ['[', ']']
  | .array (item :: rest) => '[' :: chars item ++ itemChars rest
  | .object [] => ['\x7b', '\x7d']
  | .object ((name, value) :: rest) => '\x7b' :: quoted name ++ ':' :: chars value ++ fieldChars rest

/-- The characters of the items after the first, up to the closing bracket. -/
def itemChars : List Json → List Char
  | [] => [']']
  | item :: rest => ',' :: chars item ++ itemChars rest

/-- The characters of the fields after the first, up to the closing brace. -/
def fieldChars : List (String × Json) → List Char
  | [] => ['\x7d']
  | (name, value) :: rest => ',' :: quoted name ++ ':' :: chars value ++ fieldChars rest

end

def write (value : Json) : String :=
  String.ofList value.chars

def textOrNull : Option String → Json
  | some value => .text value
  | none => .null

example : write (.object [("id", .text "a\"\n\x01é"), ("items", .array [.number 10, .flag true])]) =
    "\x7b\"id\":\"a\\\"\\n\\u0001é\",\"items\":[10,true]\x7d" := by
  decide +kernel

end Json

end ReviewAssignment
