import Mathlib.Algebra.Group.Nat.Defs
import Mathlib.Data.Char
import Mathlib.Data.List.Lex
import ReviewAssignment.Time.Instant

/-!
# The order of stored moments

The store sorts moments by the text it keeps them as.  The text has the parts of the date and of the time
of day at fixed places, greatest first, and after them as many groups of fraction digits as the moment
needs, and the zone.  That the order of the texts is the order of the moments
(`Time.Instant.stored_lt_stored_iff`) takes three things:

* digits at a fixed width are ordered as their numbers are, and what follows them decides only between
  equal numbers (`Decimal.padded_append_lt_iff`);
* a later day has a later date (`Time.Date.before_ofDay`);
* a text that ends early goes on with the zone, and its sign comes before the point and before all digits,
  as a fraction that is left out is smaller than every other one (`Time.Instant.groups_lt_groups`).

The clock and the calendar leave no room for other moments than those that are
`Time.Instant.WellFormed`.
-/

namespace ReviewAssignment

/-! ### Digits -/

namespace Decimal

variable {m n : Nat}

theorem digit_lt_digit_iff : digit m < digit n ↔ m % 10 < n % 10 := by
  have hDigits : ∀ a b : Fin 10, Char.ofNat (48 + a) < Char.ofNat (48 + b) ↔ a < b := by decide
  exact hDigits ⟨m % 10, Nat.mod_lt _ (by decide)⟩ ⟨n % 10, Nat.mod_lt _ (by decide)⟩

theorem digit_inj : digit m = digit n ↔ m % 10 = n % 10 := by
  have hDigits : ∀ a b : Fin 10, Char.ofNat (48 + a) = Char.ofNat (48 + b) ↔ a = b := by decide
  have hSame := hDigits ⟨m % 10, Nat.mod_lt _ (by decide)⟩ ⟨n % 10, Nat.mod_lt _ (by decide)⟩
  rw [Fin.mk.injEq] at hSame
  exact hSame

/-- **Digits at one width are ordered as their numbers**, whatever follows; and what follows decides if
the numbers are the same. -/
theorem padded_append_lt_iff {width : Nat} (hM : m < 10 ^ width) (hN : n < 10 ^ width)
    {early late : List Char} :
    padded width m ++ early < padded width n ++ late ↔ m < n ∨ m = n ∧ early < late := by
  induction width generalizing m n early late with
  | zero =>
    have hBoth : m = n := by omega
    simp [padded, hBoth]
  | succ width ih =>
    rw [Nat.pow_succ] at hM hN
    rw [padded, padded, List.append_assoc, List.append_assoc, List.singleton_append,
      List.singleton_append, ih (by omega) (by omega), List.cons_lt_cons_iff, digit_lt_digit_iff,
      digit_inj]
    constructor
    · rintro (hLt | ⟨hSame, hLt | ⟨hDigit, hRest⟩⟩)
      · exact .inl (by omega)
      · exact .inl (by omega)
      · exact .inr ⟨by omega, hRest⟩
    · rintro (hLt | ⟨rfl, hRest⟩)
      · by_cases hSame : m / 10 = n / 10
        · exact .inr ⟨hSame, .inl (by omega)⟩
        · exact .inl (by omega)
      · exact .inr ⟨rfl, .inr ⟨rfl, hRest⟩⟩

theorem padded_append_cons_lt_iff {width : Nat} (hM : m < 10 ^ width) (hN : n < 10 ^ width) (c : Char)
    {early late : List Char} :
    padded width m ++ c :: early < padded width n ++ c :: late ↔ m < n ∨ m = n ∧ early < late := by
  rw [padded_append_lt_iff hM hN, List.cons_lt_cons_iff]
  simp

theorem plus_lt_digit (n : Nat) : '+' < digit n := by
  have hDigits : ∀ a : Fin 10, '+' < Char.ofNat (48 + a) := by decide
  exact hDigits ⟨n % 10, Nat.mod_lt _ (by decide)⟩

/-- Only the last digits count. -/
theorem padded_mod (width n : Nat) : padded width (n % 10 ^ width) = padded width n := by
  induction width generalizing n with
  | zero => rfl
  | succ width ih =>
    have hDigit : digit (n % 10 ^ (width + 1)) = digit n := by
      rw [digit_inj, Nat.pow_succ, Nat.mod_mul_left_mod]
    have hDiv : n % 10 ^ (width + 1) / 10 = n / 10 % 10 ^ width := by
      rw [Nat.pow_succ, Nat.mul_comm, Nat.mod_mul_right_div_self]
    rw [padded, padded, hDigit, hDiv, ih]

/-- Digits side by side. -/
theorem padded_add (before width n : Nat) :
    padded (before + width) n = padded before (n / 10 ^ width) ++ padded width n := by
  induction width generalizing n with
  | zero => simp [padded]
  | succ width ih =>
    rw [← Nat.add_assoc, padded, ih, padded, Nat.div_div_eq_div_mul, Nat.pow_succ, Nat.mul_comm 10,
      List.append_assoc]

/-- A sign comes before all digits. -/
theorem plus_lt_padded_append (width n : Nat) (early late : List Char) :
    '+' :: early < padded (width + 1) n ++ late := by
  have hFirst : padded (width + 1) n = digit (n / 10 ^ width) :: padded width n := by
    rw [Nat.add_comm, padded_add]
    rfl
  rw [hFirst, List.cons_append]
  exact List.cons_lt_cons_iff.2 (.inl (plus_lt_digit _))

end Decimal

namespace Time

/-! ### Dates -/

theorem daysBefore_le {year other : Int} (h : year ≤ other) : daysBefore year ≤ daysBefore other := by
  simp only [daysBefore]
  omega

/-- A later day is in the same year or in a later one. -/
theorem yearOf_le {day later : Int} (h : day ≤ later) : yearOf day ≤ yearOf later := by
  by_contra hLess
  have hNext : daysBefore (yearOf later + 1) ≤ daysBefore (yearOf day) := daysBefore_le (by omega)
  have hDay := (daysBefore_yearOf day).1
  have hLater := (daysBefore_yearOf later).2
  omega

/-- An earlier date: by the year, then by the month, and then by the day. -/
def Date.Before (date other : Date) : Prop :=
  date.year < other.year ∨ date.year = other.year ∧
    (date.month < other.month ∨ date.month = other.month ∧ date.day < other.day)

/-- Within a year, which is counted from March here. -/
theorem Date.before_ofDayOfYear (year : Int) {dayOfYear later : Nat} (h : dayOfYear < later) :
    (Date.ofDayOfYear year dayOfYear).Before (Date.ofDayOfYear year later) := by
  simp only [Before, ofDayOfYear, daysBeforeMonth]
  split <;> split <;> omega

/-- From one year to another. -/
theorem Date.before_ofDayOfYear_of_lt {year other : Int} (h : year < other) {dayOfYear later : Nat}
    (hDay : dayOfYear < 366) :
    (Date.ofDayOfYear year dayOfYear).Before (Date.ofDayOfYear other later) := by
  simp only [Before, ofDayOfYear]
  split <;> split <;> omega

/-- **A later day has a later date.** -/
theorem Date.before_ofDay {day later : Int} (h : day < later) :
    (Date.ofDay day).Before (Date.ofDay later) := by
  have hDay := daysBefore_yearOf day
  have hLater := daysBefore_yearOf later
  have hLength := daysBefore_add_one_le (yearOf day)
  rw [ofDay, ofDay]
  rcases Int.lt_or_eq_of_le (yearOf_le (Int.le_of_lt h)) with hYear | hYear
  · exact before_ofDayOfYear_of_lt hYear (by omega)
  · rw [← hYear] at hLater ⊢
    exact before_ofDayOfYear _ (by omega)

theorem Date.month_day_ofDay (day : Int) :
    (Date.ofDay day).month < 100 ∧ (Date.ofDay day).day < 100 := by
  have hDay := daysBefore_yearOf day
  have hLength := daysBefore_add_one_le (yearOf day)
  simp only [ofDay, ofDayOfYear, daysBeforeMonth]
  split <;> omega

namespace Instant

variable {moment other : Instant}

/-! ### Fractions -/

/-- What stands after the point: groups of three digits, as long as the rest of the fraction is not zero,
and then the zone. -/
def groups (zone : List Char) : Nat → Nat → List Char
  | 0, _ => zone
  | count + 1, rest =>
    if rest = 0 then zone
    else Decimal.padded 3 (rest / 1000 ^ count) ++ groups zone count (rest % 1000 ^ count)

theorem groups_zero (zone : List Char) (count : Nat) : groups zone count 0 = zone := by
  cases count <;> rfl

/-- A fraction and the zone after it, group by group. -/
theorem writeFraction_append (zone : List Char) (nano : Nat) :
    writeFraction nano ++ zone = if nano = 0 then zone else '.' :: groups zone 3 nano := by
  by_cases hZero : nano = 0
  · simp [writeFraction, hZero]
  -- The groups of the fraction are groups of its digits.
  have hMiddle : Decimal.padded 3 (nano % 1000000 / 1000) = Decimal.padded 3 (nano / 1000) := by
    rw [← Decimal.padded_mod 3 (nano / 1000)]
    congr 1
    omega
  have hLast : nano % 1000000 % 1000 = nano % 1000 := by omega
  have hSix : Decimal.padded 6 (nano / 1000) =
      Decimal.padded 3 (nano / 1000000) ++ Decimal.padded 3 (nano / 1000) := by
    rw [Decimal.padded_add 3 3, Nat.div_div_eq_div_mul]
    rfl
  have hNine : Decimal.padded 9 nano =
      Decimal.padded 6 (nano / 1000) ++ Decimal.padded 3 (nano % 1000) := by
    rw [Decimal.padded_add 6 3, ← Decimal.padded_mod 3 nano]
    rfl
  have hSquare : 1000 ^ 2 = 1000000 := rfl
  rw [writeFraction, if_neg hZero, if_neg hZero, groups, if_neg hZero, hSquare]
  by_cases hMillions : nano % 1000000 = 0
  · rw [if_pos hMillions, hMillions, groups_zero]
    rfl
  rw [if_neg hMillions, groups, if_neg hMillions, Nat.pow_one, hMiddle, hLast]
  by_cases hThousands : nano % 1000 = 0
  · rw [if_pos hThousands, hThousands, groups_zero, hSix, List.cons_append, List.append_assoc]
  · have hGroup : groups zone 1 (nano % 1000) = Decimal.padded 3 (nano % 1000) ++ zone := by
      rw [groups, if_neg hThousands, groups, Nat.pow_zero, Nat.div_one]
    rw [if_neg hThousands, hGroup, hNine, hSix, List.cons_append, List.append_assoc, List.append_assoc]

/-- **Greater fractions have greater texts**, however many groups they need: the sign of the zone, which
follows the last group, comes before all digits. -/
theorem groups_lt_groups (zone : List Char) {count rest more : Nat} (h : rest < more)
    (hMore : more < 1000 ^ count) :
    groups ('+' :: zone) count rest < groups ('+' :: zone) count more := by
  induction count generalizing rest more with
  | zero => omega
  | succ count ih =>
    have hPositive : more ≠ 0 := by omega
    rw [groups, groups, if_neg hPositive]
    rw [Nat.pow_succ] at hMore
    have hGroup : more / 1000 ^ count < 10 ^ 3 := Nat.div_lt_of_lt_mul hMore
    by_cases hZero : rest = 0
    · rw [if_pos hZero]
      exact Decimal.plus_lt_padded_append 2 _ _ _
    · have hLe : rest / 1000 ^ count ≤ more / 1000 ^ count := Nat.div_le_div_right (Nat.le_of_lt h)
      rw [if_neg hZero, Decimal.padded_append_lt_iff (Nat.lt_of_le_of_lt hLe hGroup) hGroup]
      rcases Nat.lt_or_eq_of_le hLe with hLess | hSame
      · exact .inl hLess
      · refine .inr ⟨hSame, ih ?_ (Nat.mod_lt _ (Nat.pow_pos (by decide)))⟩
        have hRest := Nat.div_add_mod rest (1000 ^ count)
        have hRestMore := Nat.div_add_mod more (1000 ^ count)
        rw [hSame] at hRest
        omega

theorem writeFraction_append_lt (zone : List Char) {nano more : Nat} (h : nano < more)
    (hMore : more < 1000000000) :
    writeFraction nano ++ '+' :: zone < writeFraction more ++ '+' :: zone := by
  have hPositive : more ≠ 0 := by omega
  rw [writeFraction_append, writeFraction_append, if_neg hPositive]
  split
  · exact List.cons_lt_cons_iff.2 (.inl (by decide))
  · exact List.cons_lt_cons_iff.2 (.inr ⟨rfl, groups_lt_groups zone h hMore⟩)

/-! ### Moments -/

/-- **The moments that there are**: of the nanoseconds into a second, those from the billionth on are inside
a leap second, and a leap second is the last one of its minute. -/
structure WellFormed (moment : Instant) : Prop where
  nano : moment.nano < 2000000000
  leap : 1000000000 ≤ moment.nano → moment.second % 60 = 59

instance (moment : Instant) : Decidable moment.WellFormed :=
  decidable_of_iff (moment.nano < 2000000000 ∧
      (1000000000 ≤ moment.nano → moment.second % 60 = 59))
    ⟨fun h => ⟨h.1, h.2⟩, fun h => ⟨h.nano, h.leap⟩⟩

def date (moment : Instant) : Date :=
  Date.ofDay (moment.second / 86400 + epochDay)

def ofDay (moment : Instant) : Nat :=
  (moment.second % 86400).toNat

def HasFourDigitYear (moment : Instant) : Prop :=
  0 ≤ moment.date.year ∧ moment.date.year ≤ 9999

instance (moment : Instant) : Decidable moment.HasFourDigitYear :=
  inferInstanceAs (Decidable (_ ∧ _))

theorem toList_stored (h : moment.HasFourDigitYear) :
    moment.stored.toList =
      Decimal.padded 4 moment.date.year.toNat ++ '-' :: (Decimal.padded 2 moment.date.month ++
      '-' :: (Decimal.padded 2 moment.date.day ++ 'T' :: (Decimal.padded 2 (moment.ofDay / 3600) ++
      ':' :: (Decimal.padded 2 (moment.ofDay / 60 % 60) ++
      ':' :: (Decimal.padded 2 (moment.ofDay % 60 + moment.nano / 1000000000) ++
        (writeFraction (moment.nano % 1000000000) ++ '+' :: ['0', '0', ':', '0', '0'])))))) := by
  have hYear : writeYear moment.date.year = Decimal.padded 4 moment.date.year.toNat := if_pos h
  rw [← hYear, stored, write, String.toList_ofList]
  simp only [List.append_assoc, List.cons_append]
  rfl

/-- A later second of a day shows in the hour, in the minute or in the second, also if the earlier one is a
leap second. -/
theorem clock_lt {second later leap : Nat} (other : Nat) (h : second < later)
    (hLeap : leap = 0 ∨ leap = 1 ∧ second % 60 = 59) :
    second / 3600 < later / 3600 ∨ second / 3600 = later / 3600 ∧
      (second / 60 % 60 < later / 60 % 60 ∨ second / 60 % 60 = later / 60 % 60 ∧
        second % 60 + leap < later % 60 + other) := by
  omega

/-- A later moment of a day shows in the hour, in the minute, in the second or in the fraction. -/
theorem timeOfDay_lt (zone : List Char) (hMoment : moment.WellFormed) (hOther : other.WellFormed)
    (hDay : moment.second / 86400 = other.second / 86400) (h : moment < other) :
    moment.ofDay / 3600 < other.ofDay / 3600 ∨ moment.ofDay / 3600 = other.ofDay / 3600 ∧
      (moment.ofDay / 60 % 60 < other.ofDay / 60 % 60 ∨
        moment.ofDay / 60 % 60 = other.ofDay / 60 % 60 ∧
        (moment.ofDay % 60 + moment.nano / 1000000000 < other.ofDay % 60 + other.nano / 1000000000 ∨
          moment.ofDay % 60 + moment.nano / 1000000000 = other.ofDay % 60 + other.nano / 1000000000 ∧
          writeFraction (moment.nano % 1000000000) ++ '+' :: zone <
            writeFraction (other.nano % 1000000000) ++ '+' :: zone)) := by
  obtain ⟨hNano, hLeap⟩ := hMoment
  have hOtherNano := hOther.nano
  rcases lt_iff.1 h with hSeconds | ⟨hSame, hNanos⟩
  · have hLater : moment.ofDay < other.ofDay := by
      rw [ofDay, ofDay]
      omega
    have hLeapSecond : moment.nano / 1000000000 = 0 ∨
        moment.nano / 1000000000 = 1 ∧ moment.ofDay % 60 = 59 := by
      rw [ofDay]
      omega
    refine (clock_lt (other.nano / 1000000000) hLater hLeapSecond).imp_right fun hHour => ?_
    exact ⟨hHour.1, hHour.2.imp_right fun hMinute => ⟨hMinute.1, .inl hMinute.2⟩⟩
  · have hClock : moment.ofDay = other.ofDay := by
      rw [ofDay, ofDay, hSame]
    rw [hClock]
    refine .inr ⟨rfl, .inr ⟨rfl, ?_⟩⟩
    by_cases hLeaps : moment.nano / 1000000000 = other.nano / 1000000000
    · refine .inr ⟨by rw [hLeaps], writeFraction_append_lt zone ?_ (Nat.mod_lt _ (by decide))⟩
      omega
    · exact .inl (by omega)

/-- Later moments have later texts. -/
theorem stored_lt_stored (hMoment : moment.WellFormed) (hOther : other.WellFormed)
    (hYear : moment.HasFourDigitYear) (hOtherYear : other.HasFourDigitYear) (h : moment < other) :
    moment.stored < other.stored := by
  obtain ⟨hMonth, hDay⟩ := Date.month_day_ofDay (moment.second / 86400 + epochDay)
  obtain ⟨hOtherMonth, hOtherDay⟩ := Date.month_day_ofDay (other.second / 86400 + epochDay)
  have hNano := hMoment.nano
  have hOtherNano := hOther.nano
  have hClock : moment.ofDay < 86400 ∧ other.ofDay < 86400 := by
    rw [ofDay, ofDay]
    omega
  rw [String.lt_iff, toList_stored hYear, toList_stored hOtherYear]
  rw [HasFourDigitYear] at hYear hOtherYear
  rw [Decimal.padded_append_cons_lt_iff (by omega) (by omega),
    Decimal.padded_append_cons_lt_iff hMonth hOtherMonth,
    Decimal.padded_append_cons_lt_iff hDay hOtherDay,
    Decimal.padded_append_cons_lt_iff (by omega) (by omega),
    Decimal.padded_append_cons_lt_iff (by omega) (by omega),
    Decimal.padded_append_lt_iff (by omega) (by omega)]
  have hDays : moment.second / 86400 ≤ other.second / 86400 := by
    rw [lt_iff] at h
    omega
  rcases Int.lt_or_eq_of_le hDays with hEarlier | hSameDay
  · have hBefore : moment.date.Before other.date := Date.before_ofDay (by omega)
    rcases hBefore with hYears | ⟨hSameYear, hMonths⟩
    · exact .inl (by omega)
    · exact .inr ⟨by rw [hSameYear], hMonths.imp_right fun hDates => ⟨hDates.1, .inl hDates.2⟩⟩
  · have hDate : moment.date = other.date := by
      rw [date, date, hSameDay]
    rw [hDate]
    exact .inr ⟨rfl, .inr ⟨rfl, .inr ⟨rfl, timeOfDay_lt _ hMoment hOther hSameDay h⟩⟩⟩

theorem lt_trichotomy (moment other : Instant) : moment < other ∨ moment = other ∨ other < moment := by
  rw [lt_iff, lt_iff, Instant.mk.injEq]
  omega

/-- **Texts are ordered as the moments they stand for.** -/
theorem stored_lt_stored_iff (hMoment : moment.WellFormed) (hOther : other.WellFormed)
    (hYear : moment.HasFourDigitYear) (hOtherYear : other.HasFourDigitYear) :
    moment.stored < other.stored ↔ moment < other := by
  refine ⟨fun hTexts => ?_, stored_lt_stored hMoment hOther hYear hOtherYear⟩
  rcases lt_trichotomy moment other with hLess | rfl | hGreater
  · exact hLess
  · exact absurd hTexts (String.lt_irrefl _)
  · exact absurd (stored_lt_stored hOther hMoment hOtherYear hYear hGreater) (String.lt_asymm hTexts)

/-- Different moments have different texts. -/
theorem stored_inj (hMoment : moment.WellFormed) (hOther : other.WellFormed)
    (hYear : moment.HasFourDigitYear) (hOtherYear : other.HasFourDigitYear) :
    moment.stored = other.stored ↔ moment = other := by
  refine ⟨fun hSame => ?_, congrArg stored⟩
  rcases lt_trichotomy moment other with hLess | hEq | hGreater
  · have hTexts := stored_lt_stored hMoment hOther hYear hOtherYear hLess
    rw [hSame] at hTexts
    exact absurd hTexts (String.lt_irrefl _)
  · exact hEq
  · have hTexts := stored_lt_stored hOther hMoment hOtherYear hYear hGreater
    rw [hSame] at hTexts
    exact absurd hTexts (String.lt_irrefl _)

end Instant

end Time

end ReviewAssignment
