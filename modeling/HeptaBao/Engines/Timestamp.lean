import HeptaBao.Engines.Types

namespace Calendar

open Wire List

structure Date where
  year : Nat
  month : Nat
  day : Nat
deriving DecidableEq

def leap (year : Nat) : Bool := year % 4 = 0 ∧ (year % 100 ≠ 0 ∨ year % 400 = 0)

def daysIn (leap : Bool) (month : Nat) : Nat :=
  if month = 2 then 28 + leap.toNat else if month ∈ [4, 6, 9, 11] then 30 else 31

-- The proleptic Gregorian calendar, one day after the other.
def Date.tomorrow (date : Date) : Date :=
  if date.day < daysIn (leap date.year) date.month then ⟨date.year, date.month, date.day + 1⟩
  else if date.month < 12 then ⟨date.year, date.month + 1, 1⟩
  else ⟨date.year + 1, 1, 1⟩

def dayAfter (days : Nat) : Date := Date.tomorrow^[days] ⟨1970, 1, 1⟩

structure Date.Valid (date : Date) : Prop where
  month : 1 ≤ date.month ∧ date.month ≤ 12
  day : 1 ≤ date.day ∧ date.day ≤ daysIn (leap date.year) date.month

theorem day_after_succ (days : Nat) : dayAfter (days + 1) = (dayAfter days).tomorrow :=
  Function.iterate_succ_apply' _ _ _

theorem days_in_positive (leap : Bool) (month : Nat) : 1 ≤ daysIn leap month ∧ daysIn leap month ≤ 31 := by
  have flag : leap.toNat ≤ 1 := Bool.toNat_le leap
  unfold daysIn
  split
  · omega
  · split <;> omega

theorem day_after_valid (days : Nat) : (dayAfter days).Valid := by
  induction days with
  | zero => exact ⟨by decide, by decide⟩
  | succ days ih =>
    rw [day_after_succ, Date.tomorrow]
    split
    · exact ⟨ih.month, Nat.succ_pos _, by assumption⟩
    · split
      · exact ⟨⟨Nat.succ_pos _, by assumption⟩, le_rfl, (days_in_positive _ _).1⟩
      · exact ⟨by simp, le_rfl, (days_in_positive _ _).1⟩

def digits : Nat → Nat → Bytes
  | 0, _ => []
  | width + 1, value => digits width (value / 10) ++ [UInt8.ofNat (48 + value % 10)]

-- Numbers of fixed widths, each with the byte behind it.
def render (fields : List (Nat × Nat × UInt8)) : Bytes :=
  fields.flatMap fun (width, value, next) => digits width value ++ [next]

def rfc3339 (date : Date) (hour minute second : Nat) : Bytes :=
  render [(4, date.year, 45), (2, date.month, 45), (2, date.day, 84), (2, hour, 58), (2, minute, 58), (2, second, 90)]

theorem append_less (front : Bytes) {a b : Bytes} (less : a < b) : front ++ a < front ++ b := by
  induction front with
  | nil => exact less
  | cons _ _ ih => exact cons_lt_cons_iff.mpr (.inr ⟨rfl, ih⟩)

theorem less_append {a b : Bytes} (size : a.length = b.length) (less : a < b) (x y : Bytes) : a ++ x < b ++ y := by
  induction a generalizing b with
  | nil =>
    cases b with
    | nil => exact absurd less (List.not_lt_nil _)
    | cons => cases size
  | cons first a ih =>
    cases b with
    | nil => cases size
    | cons second b =>
      rcases cons_lt_cons_iff.mp less with smaller | ⟨same, later⟩
      · exact cons_lt_cons_iff.mpr (.inl smaller)
      · exact cons_lt_cons_iff.mpr (.inr ⟨same, ih (Nat.succ.inj size) later⟩)

theorem digits_length (width value : Nat) : (digits width value).length = width := by
  induction width generalizing value with
  | zero => rfl
  | succ _ ih => simp [digits, ih]

theorem digits_less {width a b : Nat} (less : a < b) (bounded : b < 10 ^ width) : digits width a < digits width b := by
  induction width generalizing a b with
  | zero => omega
  | succ width ih =>
    rw [digits, digits]
    by_cases same : a / 10 = b / 10
    · rw [same]
      refine append_less _ (cons_lt_cons_iff.mpr (.inl ?_))
      rw [UInt8.lt_iff_toNat_lt, UInt8.toNat_ofNat_of_lt' (show _ < 256 by omega), UInt8.toNat_ofNat_of_lt' (show _ < 256 by omega)]
      omega
    · exact less_append (by rw [digits_length, digits_length]) (ih (by omega) (by rw [pow_succ] at bounded; omega)) _ _

theorem field_less {width a b : Nat} (less : a < b) (bounded : b < 10 ^ width) (next : UInt8)
    (x y : List (Nat × Nat × UInt8)) :
    render ((width, a, next) :: x) < render ((width, b, next) :: y) := by
  simp only [render, flatMap_cons, append_assoc]
  exact less_append (by rw [digits_length, digits_length]) (digits_less less bounded) _ _

theorem later_less (field : Nat × Nat × UInt8) {x y : List (Nat × Nat × UInt8)} (less : render x < render y) :
    render (field :: x) < render (field :: y) := append_less _ less

theorem tomorrow_less {date : Date} (bounded : date.tomorrow.year < 10000) (x y : List (Nat × Nat × UInt8)) :
    render ((4, date.year, 45) :: (2, date.month, 45) :: (2, date.day, 84) :: x) <
      render ((4, date.tomorrow.year, 45) :: (2, date.tomorrow.month, 45) :: (2, date.tomorrow.day, 84) :: y) := by
  have size := (days_in_positive (leap date.year) date.month).2
  unfold Date.tomorrow at bounded ⊢
  split
  · exact later_less _ (later_less _ (field_less (Nat.lt_succ_self _) (by omega) _ _ _))
  · split
    · exact later_less _ (field_less (Nat.lt_succ_self _) (by omega) _ _ _)
    · rename_i full last
      rw [if_neg full, if_neg last] at bounded
      exact field_less (Nat.lt_succ_self _) bounded _ _ _

end Calendar

namespace HeptaBao.Engines

open Wire Wire.Json Durable Calendar List

-- The date of a day of a year that begins in March.
def marchMonth (doy : Nat) : Nat := if (5 * doy + 2) / 153 < 10 then (5 * doy + 2) / 153 + 3 else (5 * doy + 2) / 153 - 9

def marchDay (doy : Nat) : Nat := doy - (153 * ((5 * doy + 2) / 153) + 2) / 5 + 1

def marchDate (year doy : Nat) : Date := ⟨year + if marchMonth doy ≤ 2 then 1 else 0, marchMonth doy, marchDay doy⟩

def yearsBefore (yoe : Nat) : Nat := 365 * yoe + yoe / 4 - yoe / 100

def withoutLeapDays (doe : Nat) : Nat := doe - doe / 1460 + doe / 36524 - doe / 146096

-- What timestamp computes from the days since the start of era zero.
def civil (z : Nat) : Date :=
  let doe := z - z / 146097 * 146097
  let yoe := withoutLeapDays doe / 365
  marchDate (yoe + z / 146097 * 400) (doe - yearsBefore yoe)

-- A year from March on ends with the February of the next one.
def yearLength (year : Nat) : Nat := 365 + (leap (year + 1)).toNat

theorem without_leap_days_mono {a b : Nat} (less : a ≤ b) (bounded : b < 146097) :
    withoutLeapDays a ≤ withoutLeapDays b := by
  induction b, less using Nat.le_induction with
  | base => exact le_rfl
  | succ b _ ih =>
    refine (ih (by omega)).trans ?_
    unfold withoutLeapDays
    omega

theorem years_bounds : ∀ yoe < 400, yearsBefore yoe + yearLength yoe ≤ 146097 ∧
    365 * yoe ≤ withoutLeapDays (yearsBefore yoe) ∧
    withoutLeapDays (yearsBefore yoe + (yearLength yoe - 1)) < 365 * (yoe + 1) := by decide +kernel

theorem years_succ : ∀ yoe < 399, yearsBefore (yoe + 1) = yearsBefore yoe + yearLength yoe := by decide +kernel

theorem civil_march {era yoe doy : Nat} (small : yoe < 400) (within : doy < yearLength yoe) :
    civil (146097 * era + (yearsBefore yoe + doy)) = marchDate (400 * era + yoe) doy := by
  obtain ⟨inside, low, high⟩ := years_bounds yoe small
  have first := without_leap_days_mono (Nat.le_add_right (yearsBefore yoe) doy) (by omega)
  have last := without_leap_days_mono (show yearsBefore yoe + doy ≤ yearsBefore yoe + (yearLength yoe - 1) by omega) (by omega)
  have inEra : (146097 * era + (yearsBefore yoe + doy)) / 146097 = era := by omega
  have rest : 146097 * era + (yearsBefore yoe + doy) - era * 146097 = yearsBefore yoe + doy := by omega
  have years : withoutLeapDays (yearsBefore yoe + doy) / 365 = yoe := by omega
  simp only [civil, inEra, rest, years]
  rw [Nat.add_sub_cancel_left, Nat.mul_comm era, Nat.add_comm yoe]

theorem march_days : ∀ doy < 365, ∀ leap : Bool, doy + 1 < 365 + leap.toNat →
    if marchDay doy < daysIn leap (marchMonth doy) then marchMonth (doy + 1) = marchMonth doy ∧
      marchDay (doy + 1) = marchDay doy + 1
    else marchDay (doy + 1) = 1 ∧ if marchMonth doy < 12 then marchMonth (doy + 1) = marchMonth doy + 1 ∧
      marchMonth doy ≠ 2
      else marchMonth (doy + 1) = 1 := by decide +kernel

theorem march_last (leap : Bool) : marchMonth (364 + leap.toNat) = 2 ∧ marchDay (364 + leap.toNat) = daysIn leap 2 := by
  cases leap <;> decide

theorem march_days_in (year doy : Nat) :
    daysIn (leap (marchDate year doy).year) (marchDate year doy).month = daysIn (leap (year + 1)) (marchMonth doy) := by
  by_cases february : marchMonth doy = 2
  · simp [marchDate, february]
  · simp [marchDate, daysIn, february]

theorem march_tomorrow {year doy : Nat} (within : doy + 1 < yearLength year) : (marchDate year doy).tomorrow =
    marchDate year (doy + 1) := by
  have flag : (leap (year + 1)).toNat ≤ 1 := Bool.toNat_le _
  have next := march_days doy (by unfold yearLength at within; omega) (leap (year + 1)) within
  rw [Date.tomorrow, march_days_in]
  change (if marchDay doy < _ then _ else if marchMonth doy < 12 then _ else _) = _
  split at next
  · rename_i more
    rw [if_pos more]
    simp [marchDate, next]
  · rename_i full
    rw [if_neg full]
    split at next
    · rename_i month
      rw [if_pos month]
      have same : marchMonth doy + 1 ≤ 2 ↔ marchMonth doy ≤ 2 := by omega
      simp only [marchDate, next, same]
    · rename_i december
      rw [if_neg december]
      have late : ¬ marchMonth doy ≤ 2 := by omega
      simp [marchDate, next, late]

theorem march_new_year (year : Nat) : (marchDate year (yearLength year - 1)).tomorrow = marchDate (year + 1) 0 := by
  obtain ⟨february, last⟩ := march_last (leap (year + 1))
  have here : yearLength year - 1 = 364 + (leap (year + 1)).toNat := by unfold yearLength; omega
  rw [Date.tomorrow, march_days_in, here, february]
  simp only [marchDate, february, last, lt_irrefl, if_false]
  rfl

-- Every day lies in one year of one era.
def Placed (days era yoe doy : Nat) : Prop :=
  yoe < 400 ∧ doy < yearLength yoe ∧ days + 719468 = 146097 * era + (yearsBefore yoe + doy) ∧ dayAfter days = marchDate (400 * era + yoe) doy

theorem year_length_era (era yoe : Nat) : yearLength (400 * era + yoe) = yearLength yoe := by
  have same : leap (400 * era + yoe + 1) = leap (yoe + 1) := by
    unfold leap
    rw [decide_eq_decide]
    omega
  rw [yearLength, same, yearLength]

theorem day_placed (days : Nat) : ∃ era yoe doy, Placed days era yoe doy := by
  induction days with
  | zero => exact ⟨4, 369, 306, by decide, by decide, by decide, by decide⟩
  | succ days ih =>
    obtain ⟨era, yoe, doy, small, within, counted, date⟩ := ih
    have length := year_length_era era yoe
    by_cases more : doy + 1 < yearLength yoe
    · refine ⟨era, yoe, doy + 1, small, more, by omega, ?_⟩
      rw [day_after_succ, date, march_tomorrow (by rwa [length])]
    · have last : doy = yearLength (400 * era + yoe) - 1 := by omega
      have positive : ∀ year, 0 < yearLength year := fun _ => by unfold yearLength; omega
      by_cases inEra : yoe < 399
      · refine ⟨era, yoe + 1, 0, by omega, positive _, by rw [years_succ yoe inEra]; omega, ?_⟩
        rw [day_after_succ, date, last, march_new_year, Nat.add_assoc]
      · obtain rfl : yoe = 399 := by omega
        have whole : yearsBefore 399 + yearLength 399 = 146097 := by decide
        have none : yearsBefore 0 = 0 := rfl
        refine ⟨era + 1, 0, 0, by decide, positive _, by omega, ?_⟩
        rw [day_after_succ, date, last, march_new_year]
        congr 1

theorem civil_day_after (days : Nat) : civil (days + 719468) = dayAfter days := by
  obtain ⟨era, yoe, doy, small, within, counted, date⟩ := day_placed days
  rw [counted, civil_march small within, date]

theorem year_four_digits {days : Nat} (bounded : days ≤ 2932896) : (dayAfter days).year < 10000 := by
  obtain ⟨era, yoe, doy, small, _, counted, date⟩ := day_placed days
  simp only [date, marchDate, marchMonth]
  have last : yoe = 399 → yearsBefore yoe = 145731 := fun same => by rw [same]; decide
  split <;> split <;> omega

theorem decimal_digit {value : Nat} (small : value < 10) : decimal value = [UInt8.ofNat (48 + value)] := by
  have all : ∀ digit < 10, decimal digit = [UInt8.ofNat (48 + digit)] := by decide
  exact all value small

theorem decimal_more {value : Nat} (large : 10 ≤ value) :
    decimal value = decimal (value / 10) ++ [UInt8.ofNat (48 + value % 10)] := by
  rw [← decimal_digit (Nat.mod_lt value (by decide))]
  have joined := Nat.toDigits_append_toDigits (b := 10) (n := value / 10) (d := value % 10) (by decide) (by omega) (by omega)
  rw [Nat.div_add_mod] at joined
  rw [decimal, decimal, decimal, ← map_append, joined]

theorem padded_digits {width value : Nat} (positive : 0 < width) (bounded : value < 10 ^ width) :
    padded width value = digits width value := by
  induction width, positive using Nat.le_induction generalizing value with
  | base =>
    rw [padded, decimal_digit (by omega)]
    simp [digits, Nat.mod_eq_of_lt (show value < 10 by omega)]
  | succ width some ih =>
    rw [digits, ← ih (by rw [pow_succ] at bounded; omega)]
    by_cases small : value < 10
    · rw [padded, padded, decimal_digit small, Nat.div_eq_of_lt small, Nat.mod_eq_of_lt small, decimal_digit (by decide)]
      obtain ⟨rest, rfl⟩ := Nat.exists_eq_add_of_le' some
      simp [replicate_succ']
    · rw [padded, padded, decimal_more (by omega)]
      simp

variable {seconds : Nat}

theorem timestamp_renders (bounded : seconds ≤ 253402300799) : timestamp seconds =
    rfc3339 (dayAfter (seconds / 86400)) (seconds % 86400 / 3600) (seconds % 86400 / 60 % 60) (seconds % 60) := by
  have valid := day_after_valid (seconds / 86400)
  have size := (days_in_positive (leap (dayAfter (seconds / 86400)).year) (dayAfter (seconds / 86400)).month).2
  have day := valid.day
  have month := valid.month
  have computed : timestamp seconds = padded 4 (civil (seconds / 86400 + 719468)).year ++ [45] ++
      padded 2 (civil (seconds / 86400 + 719468)).month ++ [45] ++ padded 2 (civil (seconds / 86400 + 719468)).day ++ [84] ++
        padded 2 (seconds % 86400 / 3600) ++ [58] ++ padded 2 (seconds % 86400 / 60 % 60) ++ [58] ++ padded 2 (seconds % 86400 % 60) ++ [90] := by
    unfold timestamp
    rw [Nat.min_eq_left bounded]
    rfl
  rw [computed, civil_day_after, padded_digits (by decide) (year_four_digits (by omega)), padded_digits (by decide) (by omega),
    padded_digits (by decide) (by omega), padded_digits (by decide) (by omega), padded_digits (by decide) (by omega),
    padded_digits (by decide) (by omega), Nat.mod_mod_of_dvd _ (by decide)]
  simp [rfc3339, render]

theorem timestamp_next (bounded : seconds + 1 ≤ 253402300799) : timestamp seconds < timestamp (seconds + 1) := by
  rw [timestamp_renders (by omega), timestamp_renders bounded, rfc3339, rfc3339]
  by_cases midnight : (seconds + 1) % 86400 = 0
  · have next : (seconds + 1) / 86400 = seconds / 86400 + 1 := by omega
    have year := year_four_digits (show (seconds + 1) / 86400 ≤ 2932896 by omega)
    rw [next, day_after_succ] at year ⊢
    exact tomorrow_less year _ _
  · rw [show (seconds + 1) / 86400 = seconds / 86400 by omega, show (seconds + 1) % 86400 = seconds % 86400 + 1 by omega]
    refine later_less _ (later_less _ (later_less _ ?_))
    by_cases second : seconds % 60 < 59
    · rw [show (seconds % 86400 + 1) / 3600 = seconds % 86400 / 3600 by omega,
        show (seconds % 86400 + 1) / 60 % 60 = seconds % 86400 / 60 % 60 by omega]
      exact later_less _ (later_less _ (field_less (by omega) (by omega) _ _ _))
    · by_cases minute : seconds % 86400 / 60 % 60 < 59
      · rw [show (seconds % 86400 + 1) / 3600 = seconds % 86400 / 3600 by omega]
        exact later_less _ (field_less (by omega) (by omega) _ _ _)
      · exact field_less (by omega) (by omega) _ _ _

/-- Timestamps are those of the Gregorian calendar. -/
theorem timestamp_gregorian : (∀ seconds ≤ 253402300799, (dayAfter (seconds / 86400)).Valid ∧ timestamp seconds =
      rfc3339 (dayAfter (seconds / 86400)) (seconds % 86400 / 3600) (seconds % 86400 / 60 % 60) (seconds % 60)) ∧
      ∀ earlier later, earlier < later → later ≤ 253402300799 → timestamp earlier < timestamp later := by
  refine ⟨fun seconds bounded => ⟨day_after_valid _, timestamp_renders bounded⟩, fun earlier later less => ?_⟩
  induction later, less using Nat.le_induction with
  | base => exact timestamp_next
  | succ later _ ih => exact fun bounded => List.lt_trans (ih (by omega)) (timestamp_next bounded)

end HeptaBao.Engines
