import ReviewAssignment.Decimal.Shortest
import ReviewAssignment.Text.Characters

/-!
# Numerals

A numeral is kept as it was written: sign, whole digits, fraction, exponent.  What it stands for
matters only where a message shows it.  A numeral without fraction and exponent that fits a 64-bit
integer is an integer, and any other a double-precision number, of which the leading digits that fit
64 bits count; beyond the largest such number it is not acceptable at all.
-/

namespace ReviewAssignment.Json

structure Numeral where
  negative : Bool
  whole : List Char
  fraction : Option (List Char)
  exponent : Option (Bool × List Char)
deriving DecidableEq, Repr, Inhabited

namespace Numeral

def maxSignificand : Nat := Nat.pow 2 64 - 1

/-- Appends digits to a significand as long as it fits 64 bits; the digits left over are given
too. -/
def extend (significand : Nat) : List Char → Nat × List Char
  | [] => (significand, [])
  | c :: rest =>
    let next := 10 * significand + (Decimal.digitValue? c).getD 0
    if next ≤ maxSignificand then extend next rest else (significand, c :: rest)

/-- The leading digits that fit 64 bits and the power of ten that they are multiplied by. -/
def parts (numeral : Numeral) : Nat × Int :=
  let (whole, dropped) := extend 0 numeral.whole
  let fraction := numeral.fraction.getD []
  let (significand, unused) := extend whole fraction
  let exponent : Int :=
    match numeral.exponent with
    | some (negative, digits) => if negative then -Decimal.value digits else Decimal.value digits
    | none => 0
  (significand, dropped.length - (fraction.length - unused.length : Nat) + exponent)

/-- The whole number, if the numeral has no fraction and no exponent and fits a signed or unsigned
64-bit integer.  Minus zero does not. -/
def integer? (numeral : Numeral) : Option Int :=
  if numeral.fraction.isNone ∧ numeral.exponent.isNone then
    let n := Decimal.value numeral.whole
    if numeral.negative then if 0 < n ∧ n ≤ Nat.pow 2 63 then some (-n) else none
    else if n ≤ maxSignificand then some n else none
  else none

/-- The power of ten of a number whose first digit stands before the point, with its sign. -/
def writeExponent (exponent : Int) : List Char :=
  'e' :: (if exponent < 0 then '-' else '+') :: Nat.toDigits 10 exponent.natAbs

/-- Digits with a decimal point, positional where at most 16 digits stand before the point and at
most four zeros follow it, and with an exponent otherwise. -/
def writeDecimal (s : Decimal.Shortest) : List Char :=
  let digits := Nat.toDigits 10 s.digits
  let whole : Int := digits.length + s.power
  let scientific := writeExponent (whole - 1)
  if 0 ≤ s.power ∧ whole ≤ 16 then digits ++ List.replicate s.power.toNat '0' ++ ['.', '0']
  else if 0 < whole ∧ whole ≤ 16 then
    digits.take whole.toNat ++ '.' :: digits.drop whole.toNat
  else if -5 < whole ∧ whole ≤ 0 then
    '0' :: '.' :: List.replicate (-whole).toNat '0' ++ digits
  else if digits.length = 1 then digits ++ scientific
  else digits.take 1 ++ '.' :: digits.drop 1 ++ scientific

def writeReal? (numeral : Numeral) : Option (List Char) := do
  let (significand, power) := numeral.parts
  let number ← Decimal.Binary64.ofParts significand power
  let sign := if numeral.negative then ['-'] else []
  if number.mantissa = 0 then return sign ++ ['0', '.', '0']
  return sign ++ writeDecimal (.ofBinary64 number)

def describe? (numeral : Numeral) : Option String :=
  match numeral.integer? with
  | some n => some ("integer `" ++ toString n ++ "`")
  | none => numeral.writeReal?.map fun text => "floating point `" ++ String.ofList text ++ "`"

example : describe? ⟨true, ['7'], none, none⟩ = some "integer `-7`" := by decide +kernel

example : describe? ⟨false, ['0'], some ['5'], none⟩ = some "floating point `0.5`" := by
  decide +kernel

example : describe? ⟨false, ['1'], none, some (false, ['1', '6'])⟩ =
    some "floating point `1e+16`" := by
  decide +kernel

end Numeral

end ReviewAssignment.Json
