import ReviewAssignment.Text.Characters
import ReviewAssignment.Time.Calendar

/-!
# Instants and their written form

An instant is a whole second and the nanoseconds into it.  It is written after RFC 3339 in universal
time with the fewest of 0, 3, 6 or 9 fraction digits that hold it exactly.  The store keeps instants
as text with the offset `+00:00`; answers show the zone as `Z`.  In the years 0 to 9999 all texts of
one form have their parts at fixed places, so the store's order of texts is the order of instants.
-/

namespace ReviewAssignment.Time

/-- A moment in universal time. -/
structure Instant where
  /-- Whole seconds since the start of 1970. -/
  second : Int
  /-- Nanoseconds into the second; a billion and more lie inside a leap second. -/
  nano : Nat
deriving DecidableEq, Repr, Inhabited

protected def Instant.lt (a b : Instant) : Prop :=
  a.second < b.second ∨ a.second = b.second ∧ a.nano < b.nano

instance : LT Instant := ⟨Instant.lt⟩

theorem Instant.lt_iff {a b : Instant} :
    a < b ↔ a.second < b.second ∨ a.second = b.second ∧ a.nano < b.nano :=
  Iff.rfl

def Instant.ofMillis (millis : Nat) : Instant :=
  ⟨millis / 1000, millis % 1000 * 1000000⟩

namespace Instant

/-- A year has four digits; outside the years 0 to 9999 a sign stands before them. -/
def writeYear (year : Int) : List Char :=
  if 0 ≤ year ∧ year ≤ 9999 then Decimal.padded 4 year.toNat
  else (if year < 0 then '-' else '+') :: Decimal.atLeast 4 year.natAbs

/-- The fraction of a second, with the fewest of 0, 3, 6 or 9 digits. -/
def writeFraction (nano : Nat) : List Char :=
  if nano = 0 then []
  else if nano % 1000000 = 0 then '.' :: Decimal.padded 3 (nano / 1000000)
  else if nano % 1000 = 0 then '.' :: Decimal.padded 6 (nano / 1000)
  else '.' :: Decimal.padded 9 nano

def write (zone : String) (instant : Instant) : String :=
  let day := instant.second / 86400
  let ofDay := (instant.second % 86400).toNat
  let leap := instant.nano / 1000000000
  let date := Date.ofDay (day + epochDay)
  String.ofList <|
    writeYear date.year ++ '-' :: Decimal.padded 2 date.month ++ '-' :: Decimal.padded 2 date.day ++
    'T' :: Decimal.padded 2 (ofDay / 3600) ++ ':' :: Decimal.padded 2 (ofDay / 60 % 60) ++
    ':' :: Decimal.padded 2 (ofDay % 60 + leap) ++ writeFraction (instant.nano % 1000000000) ++
    zone.toList

/-- The form that answers show. -/
def shown (instant : Instant) : String :=
  instant.write "Z"

/-- The form that the store keeps and sorts by. -/
def stored (instant : Instant) : String :=
  instant.write "+00:00"

end Instant

end ReviewAssignment.Time
