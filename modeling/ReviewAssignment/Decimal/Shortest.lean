import ReviewAssignment.Decimal.Binary64

/-!
# Shortest decimals

The shortest decimal of a double-precision number is the one with the fewest digits among those that
are nearer to this number than to any other of the format, and the nearest of these.  Numbers between
the two half-way points to the neighbours read back as the number; the half-way points themselves do
when the mantissa is even.
-/

namespace ReviewAssignment.Decimal

structure Shortest where
  digits : Nat
  power : Int
deriving DecidableEq, Repr, Inhabited

namespace Shortest

/-- The number and its two half-way points, each as a numerator over one denominator. -/
structure Span where
  value : Nat
  low : Nat
  high : Nat
  den : Nat
  /-- Whether the half-way points belong to the number. -/
  closed : Bool

/-- The span of a positive number.  Below a power of two the neighbour is half as far away. -/
def span (a : Binary64) : Span :=
  let below := if a.mantissa = Nat.pow 2 52 ∧ Binary64.minExponent < a.exponent then 1 else 2
  let power := a.exponent - 2
  let (factor, den) := if 0 ≤ power then (Nat.pow 2 power.toNat, 1)
    else (1, Nat.pow 2 (-power).toNat)
  { value := 4 * a.mantissa * factor
    low := (4 * a.mantissa - below) * factor
    high := (4 * a.mantissa + 2) * factor
    den := den
    closed := a.mantissa % 2 = 0 }

/-- How many digits stand before the decimal point; for a number below one tenth, minus the number
of zeros that follow the point. -/
def wholeDigits (num den : Nat) : Int :=
  let guess : Int := ((Nat.toDigits 10 num).length : Int) - (Nat.toDigits 10 den).length
  let (n, d) := if 0 ≤ guess then (num, den * Nat.pow 10 guess.toNat)
    else (num * Nat.pow 10 (-guess).toNat, den)
  if n < d then guess else guess + 1

/-- Whether a multiple of a power of ten, `n / d` of it in units of the span, lies in the span. -/
def Span.holds (s : Span) (multiple unitNum unitDen : Nat) : Bool :=
  let point := multiple * unitNum * s.den
  if s.closed then s.low * unitDen ≤ point && point ≤ s.high * unitDen
  else s.low * unitDen < point && point < s.high * unitDen

/-- The multiple of `10 ^ power` next to the number that lies in its span, if there is one: the
nearer of two, half-way the even one. -/
def onGrid (s : Span) (power : Int) : Option Nat :=
  let (unitNum, unitDen) := if 0 ≤ power then (Nat.pow 10 power.toNat, 1)
    else (1, Nat.pow 10 (-power).toNat)
  let num := s.value * unitDen
  let den := s.den * unitNum
  let lower := num / den
  let nearest := Binary64.roundQuotient num den
  let other := if nearest = lower then lower + 1 else lower
  if s.holds nearest unitNum unitDen then some nearest
  else if s.holds other unitNum unitDen then some other
  else none

def trimmed (s : Shortest) : Shortest :=
  if s.digits ≠ 0 ∧ s.digits % 10 = 0 then trimmed ⟨s.digits / 10, s.power + 1⟩ else s
termination_by s.digits

/-- The shortest decimal of a positive number; 17 digits always suffice. -/
def ofBinary64 (a : Binary64) : Shortest :=
  let s := span a
  let whole := wholeDigits s.value s.den
  let found := (List.range 17).findSome? fun (count : Nat) =>
    let power : Int := whole - (count + 1)
    (onGrid s power).map fun digits => (⟨digits, power⟩ : Shortest)
  trimmed (found.getD ⟨0, 0⟩)

end Shortest

end ReviewAssignment.Decimal
