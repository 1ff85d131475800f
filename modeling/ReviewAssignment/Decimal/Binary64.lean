/-!
# Double-precision arithmetic, exactly

A finite non-negative number of the 64-bit binary format is a mantissa below `2 ^ 53` times a power of
two.  Every operation computes a ratio of natural numbers exactly and rounds it once, to the nearest
such number and to the even mantissa half-way; a ratio beyond the largest number has no result.
-/

namespace ReviewAssignment.Decimal

structure Binary64 where
  mantissa : Nat
  exponent : Int
deriving DecidableEq, Repr, Inhabited

namespace Binary64

/-- The smallest exponent; all numbers are multiples of two to it. -/
def minExponent : Int := -1074

def maxExponent : Int := 971

/-- A quotient rounded to the nearest integer, half-way to the even one. -/
def roundQuotient (num den : Nat) : Nat :=
  let quotient := num / den
  let twice := 2 * (num % den)
  if den < twice ∨ den = twice ∧ quotient % 2 = 1 then quotient + 1 else quotient

/-- The quotient of a ratio by a power of two, as a ratio. -/
def scaled (num den : Nat) (exponent : Int) : Nat × Nat :=
  if 0 ≤ exponent then (num, den * Nat.pow 2 exponent.toNat)
  else (num * Nat.pow 2 (-exponent).toNat, den)

/-- The exponent at which the mantissa of a ratio has 53 bits, or the smallest one. -/
def exponentOf (num den : Nat) : Int :=
  let guess : Int := (Nat.log2 num : Int) - Nat.log2 den - 53
  let (n, d) := scaled num den guess
  max minExponent (if Nat.pow 2 53 ≤ n / d then guess + 1 else guess)

def ofRatio (num den : Nat) : Option Binary64 :=
  if num = 0 then some ⟨0, minExponent⟩
  else
    let exponent := exponentOf num den
    let (n, d) := scaled num den exponent
    let mantissa := roundQuotient n d
    let result : Binary64 :=
      if mantissa = Nat.pow 2 53 then ⟨Nat.pow 2 52, exponent + 1⟩ else ⟨mantissa, exponent⟩
    if result.exponent ≤ maxExponent then some result else none

def ofNat (n : Nat) : Option Binary64 :=
  ofRatio n 1

def mul (a b : Binary64) : Option Binary64 :=
  let (num, den) := scaled (a.mantissa * b.mantissa) 1 (-(a.exponent + b.exponent))
  ofRatio num den

def div (a b : Binary64) : Option Binary64 :=
  let (num, den) := scaled a.mantissa b.mantissa (b.exponent - a.exponent)
  ofRatio num den

def maxPower : Nat := 308

/-- Divides by a power of ten, the largest power at a time. -/
def divPower (a : Binary64) (power : Nat) : Option Binary64 :=
  if power ≤ maxPower then do a.div (← ofNat (Nat.pow 10 power))
  else if a.mantissa = 0 then some a
  else do (← a.div (← ofNat (Nat.pow 10 maxPower))).divPower (power - maxPower)
termination_by power
decreasing_by simp only [maxPower] at *; omega

/-- A natural number times a power of ten, computed with one rounding for the number, one for the
power and one for the product or quotient. -/
def ofParts (significand : Nat) (power : Int) : Option Binary64 := do
  let number ← ofNat significand
  if power < 0 then number.divPower (-power).toNat
  else if power.toNat ≤ maxPower then number.mul (← ofNat (Nat.pow 10 power.toNat))
  else if significand = 0 then some number
  else none

example : ofParts 15 (-1) = some ⟨3 * Nat.pow 2 51, -52⟩ := by decide +kernel

end Binary64

end ReviewAssignment.Decimal
