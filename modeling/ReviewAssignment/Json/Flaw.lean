import ReviewAssignment.Json.Token

/-!
# Flaws of a text that is no JSON

`Flaw` lists what may be wrong with a text, in the words of a message.  A value that does not follow the
grammar is read once more, symbol by symbol, to find its first flaw: `valueDefect` says what the flaw
is and how much had been read when it showed.  A value that is only skipped is not held to all the
rules, and some flaws show a byte earlier or under another name in it.
-/

namespace ReviewAssignment.Json

inductive Flaw where
  | unfinishedValue
  | unfinishedString
  | unfinishedArray
  | unfinishedObject
  | noValue
  | noWord
  | noName
  | noColon
  | noCommaInArray
  | noCommaInObject
  | commaAtEnd
  | surplus
  | badNumeral
  | numeralOutOfRange
  | badEscape
  /-- The escape of the lower half of a surrogate pair stands alone, or another unit where the lower
  half should. -/
  | loneSurrogate
  /-- No escape follows that of the upper half of a surrogate pair. -/
  | unpairedSurrogate
  | controlCharacter
  | illFormed
deriving DecidableEq, Repr, Inhabited

def Flaw.message : Flaw → String
  | .unfinishedValue => "EOF while parsing a value"
  | .unfinishedString => "EOF while parsing a string"
  | .unfinishedArray => "EOF while parsing a list"
  | .unfinishedObject => "EOF while parsing an object"
  | .noValue => "expected value"
  | .noWord => "expected ident"
  | .noName => "key must be a string"
  | .noColon => "expected `:`"
  | .noCommaInArray => "expected `,` or `]`"
  | .noCommaInObject => "expected `,` or `\x7d`"
  | .commaAtEnd => "trailing comma"
  | .surplus => "trailing characters"
  | .badNumeral => "invalid number"
  | .numeralOutOfRange => "number out of range"
  | .badEscape => "invalid escape"
  | .loneSurrogate => "lone leading surrogate in hex escape"
  | .unpairedSurrogate => "unexpected end of hex escape"
  | .controlCharacter =>
    "control character (\\u0000-\\u001F) found while parsing a string"
  | .illFormed => "invalid unicode code point"

/-- A flaw of a text, and how many bytes of it were read when the flaw showed. -/
structure Defect where
  flaw : Flaw
  bytes : Nat
deriving DecidableEq, Repr, Inhabited

/-! ### Words -/

def wordDefect (bytes : Nat) : List Char → List Symbol → Defect
  | c :: word, some d :: rest =>
    if c = d then wordDefect (bytes + 1) word rest else ⟨.noWord, bytes + 1⟩
  | _, [] => ⟨.unfinishedValue, bytes⟩
  | _, _ :: _ => ⟨.noWord, bytes + 1⟩

/-! ### Numerals -/

def maxExponent : Nat := Nat.pow 2 31 - 1

/-- How many digits of an exponent are read, if digits with the given value were read before. -/
def exponentLength (value : Nat) : List Char → Nat
  | [] => 0
  | c :: rest =>
    let next := 10 * value + (Decimal.digitValue? c).getD 0
    if maxExponent < next then 1 else 1 + exponentLength next rest

def digitDefect (wanted : Bool) (bytes : Nat) (text : List Symbol) : Defect :=
  if wanted && text.isEmpty then ⟨.unfinishedValue, bytes⟩ else ⟨.badNumeral, bytes + 1⟩

/-- What is wrong with a numeral from its exponent on.  If its digits are all there, it is too
large. -/
def exponentDefect (wanted : Bool) (bytes : Nat) : List Symbol → Defect
  | some 'e' :: rest | some 'E' :: rest =>
    let (negative, unsigned) := scanSign rest
    let bytes := bytes + 1 + (rest.length - unsigned.length)
    let (digits, rest) := spanDigits unsigned
    if digits.isEmpty then digitDefect wanted bytes rest
    else ⟨.numeralOutOfRange, bytes + if negative then digits.length else exponentLength 0 digits⟩
  | _ => ⟨.numeralOutOfRange, bytes⟩

def fractionDefect (wanted : Bool) (bytes : Nat) : List Symbol → Defect
  | some '.' :: rest =>
    let (digits, rest) := spanDigits rest
    if digits.isEmpty then digitDefect wanted (bytes + 1) rest
    else exponentDefect wanted (bytes + 1 + digits.length) rest
  | rest => exponentDefect wanted bytes rest

def numeralDefect (wanted : Bool) (bytes : Nat) (text : List Symbol) : Defect :=
  let (whole, rest) := spanDigits text
  if whole.isEmpty then digitDefect wanted bytes rest
  else if whole.head? = some '0' ∧ whole.length ≠ 1 then ⟨.badNumeral, bytes + 2⟩
  else fractionDefect wanted (bytes + whole.length) rest

/-! ### Strings -/

def isUpperHalf (unit : Nat) : Bool :=
  0xD800 ≤ unit && unit < 0xDC00

def isLowerHalf (unit : Nat) : Bool :=
  0xDC00 ≤ unit && unit < 0xE000

/-- What is wrong with a string after its opening quotation mark and some bytes.  `half` tells that the
last of these were the upper half of a surrogate pair, which is not looked for in a string that is
skipped.  If nothing else is wrong up to the closing quotation mark, the string is ill-formed. -/
def textDefect (wanted half : Bool) (bytes : Nat) : List Symbol → Defect
  | some '\\' :: some 'u' :: some a :: some b :: some c :: some d :: rest =>
    match unit? a b c d with
    | some unit =>
      if wanted && half != isLowerHalf unit then ⟨.loneSurrogate, bytes + 6⟩
      else textDefect wanted (wanted && isUpperHalf unit) (bytes + 6) rest
    | none => ⟨.badEscape, bytes + 6⟩
  | some '\\' :: some 'u' :: rest =>
    if textSize rest < 4 then ⟨.unfinishedString, bytes + 2 + textSize rest⟩
    else ⟨.badEscape, bytes + 6⟩
  | [some '\\'] => ⟨.unfinishedString, bytes + 1⟩
  | some '\\' :: letter :: rest =>
    if half then ⟨.unpairedSurrogate, bytes + 2⟩
    else if (letter.bind escaped?).isSome then textDefect wanted false (bytes + 2) rest
    else ⟨.badEscape, bytes + 2⟩
  | [] => ⟨.unfinishedString, bytes⟩
  | symbol :: rest =>
    if half then ⟨.unpairedSurrogate, bytes + 1⟩
    else if symbol = some '"' then ⟨.illFormed, bytes + 1⟩
    else if symbol.any fun c => c.toNat < 32 then
      ⟨.controlCharacter, if wanted then bytes + 1 else bytes⟩
    else textDefect wanted false (bytes + symbol.size) rest

/-! ### Values -/

def valueDefect (wanted : Bool) : List Symbol → Defect
  | [] => ⟨.unfinishedValue, 0⟩
  | some 'n' :: rest => wordDefect 1 ['u', 'l', 'l'] rest
  | some 't' :: rest => wordDefect 1 ['r', 'u', 'e'] rest
  | some 'f' :: rest => wordDefect 1 ['a', 'l', 's', 'e'] rest
  | some '"' :: rest => textDefect wanted false 1 rest
  | some '-' :: rest => numeralDefect wanted 1 rest
  | some c :: rest =>
    if Decimal.isDigit c then numeralDefect wanted 0 (some c :: rest) else ⟨.noValue, 1⟩
  | none :: _ => ⟨.noValue, 1⟩

example : (["", "nul", "nu1", "-", "01", "1.", "1e+", "1e999", "1e99999999999", "é"].map fun text =>
      valueDefect true (text.toList.map some)) =
    [⟨.unfinishedValue, 0⟩, ⟨.unfinishedValue, 3⟩, ⟨.noWord, 3⟩, ⟨.unfinishedValue, 1⟩,
      ⟨.badNumeral, 2⟩, ⟨.unfinishedValue, 2⟩, ⟨.unfinishedValue, 3⟩, ⟨.numeralOutOfRange, 5⟩,
      ⟨.numeralOutOfRange, 12⟩, ⟨.noValue, 1⟩] := by
  decide +kernel

example : (["\"a", "\"é\n\"", "\"\\x\"", "\"\\u12", "\"\\udc00\"", "\"\\ud800\"",
      "\"\\ud800\\n\"", "\"\\ud800\\u0041\""].map fun text =>
      valueDefect true (text.toList.map some)) =
    [⟨.unfinishedString, 2⟩, ⟨.controlCharacter, 4⟩, ⟨.badEscape, 3⟩, ⟨.unfinishedString, 5⟩,
      ⟨.loneSurrogate, 7⟩, ⟨.unpairedSurrogate, 8⟩, ⟨.unpairedSurrogate, 9⟩,
      ⟨.loneSurrogate, 13⟩] := by
  decide +kernel

example : valueDefect false [some '"', none, some '\n'] = ⟨.controlCharacter, 2⟩ := by
  decide +kernel

end ReviewAssignment.Json
