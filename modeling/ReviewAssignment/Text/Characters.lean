/-!
# Digits and white space

The digits of a number, decimal at a fixed width and hexadecimal, and the number that digits stand for.
Texts of decimal digits of one width compare as their numbers do, which is why fixed-width dates sort by
time.

A text is blank when it holds nothing but characters of the Unicode property `White_Space`; the
empty text is blank.  Identifiers are refused when they are blank, and are otherwise kept exactly as
they were given, surrounding white space included.
-/

namespace ReviewAssignment.Decimal

def digit (n : Nat) : Char :=
  Char.ofNat (48 + n % 10)

/-- The last digits of a number, as many as the width, with leading zeros. -/
def padded : Nat → Nat → List Char
  | 0, _ => []
  | width + 1, n => padded width (n / 10) ++ [digit n]

def atLeast (width n : Nat) : List Char :=
  if n < Nat.pow 10 width then padded width n else Nat.toDigits 10 n

def digitValue? (c : Char) : Option Nat :=
  if '0' ≤ c ∧ c ≤ '9' then some (c.toNat - 48) else none

def isDigit (c : Char) : Bool :=
  (digitValue? c).isSome

/-- The number that a run of digits stands for; other characters count as zero. -/
def value (digits : List Char) : Nat :=
  digits.foldl (fun n c => 10 * n + (digitValue? c).getD 0) 0

end ReviewAssignment.Decimal

namespace ReviewAssignment.Text

/-! ### Hexadecimal digits -/

def hexDigit (n : Nat) : Char :=
  Char.ofNat (if n % 16 < 10 then 48 + n % 16 else 87 + n % 16)

def hexValue? (c : Char) : Option Nat :=
  if '0' ≤ c ∧ c ≤ '9' then some (c.toNat - 48)
  else if 'a' ≤ c ∧ c ≤ 'f' then some (c.toNat - 87)
  else if 'A' ≤ c ∧ c ≤ 'F' then some (c.toNat - 55)
  else none

/-- Reading a digit gives back its number. -/
theorem hexValue?_hexDigit : ∀ n < 16, hexValue? (hexDigit n) = some n := by
  decide

/-! ### Blank text -/

/-- The characters with the Unicode property `White_Space`, as closed ranges of code points in
ascending order. -/
def whiteSpaceRanges : List (Nat × Nat) :=
  [(0x09, 0x0D), (0x20, 0x20), (0x85, 0x85), (0xA0, 0xA0), (0x1680, 0x1680), (0x2000, 0x200A),
   (0x2028, 0x2029), (0x202F, 0x202F), (0x205F, 0x205F), (0x3000, 0x3000)]

def isWhiteSpace (c : Char) : Bool :=
  whiteSpaceRanges.any fun range => range.1 ≤ c.toNat && c.toNat ≤ range.2

def isBlank (text : String) : Bool :=
  text.toList.all isWhiteSpace

theorem isBlank_empty : isBlank "" = true := by
  simp [isBlank]

end ReviewAssignment.Text
