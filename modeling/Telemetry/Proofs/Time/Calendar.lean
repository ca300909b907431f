import Mathlib.Data.Int.Notation
import Mathlib.Tactic.Lemma
import Telemetry.Time.Instant

namespace Telemetry.Time.Date

def yearStart (y : ℤ) : ℤ :=
  365 * y + y / 4 - y / 100

def yearOf (d : ℤ) : ℤ :=
  (d - d / 1460 + d / 36524 - d / 146096) / 365

structure InYear (y r : ℤ) : Prop where
  year_nonneg : 0 ≤ y
  year_lt : y < 400
  day_nonneg : 0 ≤ r
  day_le : r ≤ 365
  leap_of_last : r = 365 → isLeapYear (y + 1) = true

lemma inYear_of_parts {c q s t : ℤ} (hc : 0 ≤ c ∧ c ≤ 3) (hq : 0 ≤ q ∧ q ≤ 24)
    (hs : 0 ≤ s ∧ s ≤ 1460) (hlast : q = 24 → s ≤ 1459)
    (ht : t = if s = 1460 then 3 else s / 365) :
    yearOf (36524 * c + 1461 * q + s) = 100 * c + 4 * q + t ∧
      yearStart (100 * c + 4 * q + t) = 36524 * c + 1461 * q + 365 * t ∧
      InYear (100 * c + 4 * q + t) (s - 365 * t) := by
  -- Centuries and spans of four years are cut off before the years; the last year of a span of four
  -- takes the day that is left over.
  have ht3 : 0 ≤ t ∧ t ≤ 3 := by split at ht <;> omega
  have hday : 0 ≤ s - 365 * t ∧ s - 365 * t ≤ 365 ∧ (s - 365 * t = 365 → s = 1460) := by
    split at ht <;> omega
  refine ⟨?_, ?_, ?_, ?_, hday.1, hday.2.1, ?_⟩
  · have hcycles : (36524 * c + 1461 * q + s) / 1460 = 25 * c + q + (24 * c + q + s) / 1460 := by
      omega
    have hcenturies : (36524 * c + 1461 * q + s) / 36524 = c := by omega
    have hera : (36524 * c + 1461 * q + s) / 146096 = 0 := by omega
    rw [yearOf, hcycles, hcenturies, hera]
    split at ht <;> omega
  · rw [yearStart]
    omega
  · omega
  · omega
  · intro h
    have hs' := hday.2.2 h
    have hyear : 100 * c + 4 * q + t + 1 = 100 * c + 4 * (q + 1) := by omega
    have hfour : (100 * c + 4 * (q + 1)) % 4 = 0 := by omega
    have hcentury : (100 * c + 4 * (q + 1)) % 100 ≠ 0 := by omega
    simp only [isLeapYear, hyear, hfour, beq_self_eq_true, bne_iff_ne.mpr hcentury, Bool.true_or,
      Bool.and_self]

lemma inYear_yearOf {d : ℤ} (hd : 0 ≤ d) (hlt : d < 146097) :
    InYear (yearOf d) (d - yearStart (yearOf d)) := by
  obtain h | rfl : d < 146096 ∨ d = 146096 := by omega
  · obtain ⟨c, hc⟩ : ∃ c, c = d / 36524 := ⟨_, rfl⟩
    obtain ⟨q, hq⟩ : ∃ q, q = d % 36524 / 1461 := ⟨_, rfl⟩
    obtain ⟨s, hs⟩ : ∃ s, s = d % 36524 % 1461 := ⟨_, rfl⟩
    obtain ⟨t, ht⟩ : ∃ t, t = if s = 1460 then 3 else s / 365 := ⟨_, rfl⟩
    have hparts : d = 36524 * c + 1461 * q + s := by omega
    obtain ⟨hyear, hstart, hin⟩ :=
      inYear_of_parts (c := c) (q := q) (s := s) (by omega) (by omega) (by omega) (by omega) ht
    have hrest : 36524 * c + 1461 * q + s - (36524 * c + 1461 * q + 365 * t) = s - 365 * t := by
      omega
    rwa [hparts, hyear, hstart, hrest]
  · exact ⟨by decide, by decide, by decide, by decide, fun _ => by decide⟩

def ofYearDay (y r : ℤ) : Date :=
  let m := (5 * r + 2) / 153
  let month := if m < 10 then m + 3 else m - 9
  ⟨if month ≤ 2 then y + 1 else y, month.toNat, (r - (153 * m + 2) / 5 + 1).toNat⟩

lemma ofDays_eq (n : ℤ) : ofDays n =
    ofYearDay (yearOf ((n + epochShift) % 146097) + (n + epochShift) / 146097 * 400)
      ((n + epochShift) % 146097 - yearStart (yearOf ((n + epochShift) % 146097))) :=
  rfl

lemma valid_ofYearDay {y r : ℤ} (hr : 0 ≤ r) (hle : r ≤ 365)
    (hleap : r = 365 → isLeapYear (y + 1) = true) : (ofYearDay y r).Valid := by
  obtain ⟨m, hm⟩ : ∃ m, (5 * r + 2) / 153 = m := ⟨_, rfl⟩
  simp only [ofYearDay, Valid, daysInMonth, hm]
  by_cases hlast : m = 11
  · subst hlast
    by_cases h365 : r = 365
    · simp [h365, hleap h365]
    · have hday : r - 337 + 1 ≤ 28 := by omega
      simp
      split <;> omega
  · obtain ⟨k, hk⟩ : ∃ k, (if m < 10 then m + 3 else m - 9) = k := ⟨_, rfl⟩
    have hmonth : m < 10 ∧ k = m + 3 ∨ m = 10 ∧ k = 1 := by split at hk <;> omega
    rw [hk, if_neg (by omega)]
    refine ⟨by omega, by omega, by omega, ?_⟩
    split
    next hshort =>
      have hm' : m = 1 ∨ m = 3 ∨ m = 6 ∨ m = 8 := by omega
      omega
    next => omega

lemma toDays_ofYearDay {y r : ℤ} (hr : 0 ≤ r) (hle : r ≤ 365) : (ofYearDay y r).toDays =
    y / 400 * 146097 + yearStart (y % 400) + r - epochShift := by
  obtain ⟨m, hm⟩ : ∃ m, (5 * r + 2) / 153 = m := ⟨_, rfl⟩
  simp only [ofYearDay, toDays, hm, yearStart]
  by_cases hten : m < 10
  · have hmonth : ¬ (m + 3).toNat ≤ 2 := by omega
    have hmonth' : ¬ m + 3 ≤ 2 := by omega
    simp only [if_pos hten, if_neg hmonth, if_neg hmonth']
    omega
  · have hmonth : (m - 9).toNat ≤ 2 := by omega
    have hmonth' : m - 9 ≤ 2 := by omega
    simp only [if_neg hten, if_pos hmonth, if_pos hmonth']
    omega

lemma year_ofYearDay {y r : ℤ} (hr : 0 ≤ r) (hle : r ≤ 365) :
    (ofYearDay y r).year = if 306 ≤ r then y + 1 else y := by
  simp only [ofYearDay]
  split <;> split <;> split <;> omega

lemma exists_ofDays (n : ℤ) : ∃ y r, InYear y r ∧
    n + epochShift = (n + epochShift) / 146097 * 146097 + yearStart y + r ∧
    ofDays n = ofYearDay (y + (n + epochShift) / 146097 * 400) r := by
  have hin := inYear_yearOf (d := (n + epochShift) % 146097) (by omega) (by omega)
  exact ⟨_, _, hin, by omega, ofDays_eq n⟩

lemma isLeapYear_add_era (y k : ℤ) : isLeapYear (y + k * 400) = isLeapYear y := by
  have hfour : (y + k * 400) % 4 = y % 4 := by omega
  have hcentury : (y + k * 400) % 100 = y % 100 := by omega
  have hera : (y + k * 400) % 400 = y % 400 := by omega
  rw [isLeapYear, isLeapYear, hfour, hcentury, hera]

lemma valid_ofDays (n : ℤ) : (ofDays n).Valid := by
  obtain ⟨y, r, hin, -, hdate⟩ := exists_ofDays n
  rw [hdate]
  refine valid_ofYearDay hin.day_nonneg hin.day_le fun h => ?_
  rw [Int.add_right_comm, isLeapYear_add_era]
  exact hin.leap_of_last h

lemma toDays_ofDays (n : ℤ) : (ofDays n).toDays = n := by
  obtain ⟨y, r, hin, hsum, hdate⟩ := exists_ofDays n
  have hnonneg := hin.year_nonneg
  have hlt := hin.year_lt
  rw [hdate, toDays_ofYearDay hin.day_nonneg hin.day_le]
  have hera : (y + (n + epochShift) / 146097 * 400) / 400 = (n + epochShift) / 146097 := by omega
  have hyear : (y + (n + epochShift) / 146097 * 400) % 400 = y := by omega
  rw [hera, hyear]
  omega

lemma year_ofDays {n : ℤ} (hmin : -96465292 ≤ n) (hmax : n ≤ 95026236) :
    firstYear ≤ (ofDays n).year ∧ (ofDays n).year ≤ lastYear := by
  obtain ⟨y, r, hin, hsum, hdate⟩ := exists_ofDays n
  have hnonneg := hin.year_nonneg
  have hlt := hin.year_lt
  have hr := hin.day_nonneg
  have hle := hin.day_le
  rw [hdate, year_ofYearDay hr hle]
  obtain ⟨k, hk⟩ : ∃ k, (n + epochShift) / 146097 = k := ⟨_, rfl⟩
  simp only [epochShift, yearStart, firstYear, lastYear] at hk hsum ⊢
  rw [hk] at hsum ⊢
  -- Only the first and the last era hold days outside the range, and the days at the ends of the
  -- range are in the years 256 and 142 of these.
  have hfirst : -655 ≤ k ∨ k = -656 ∧ (257 ≤ y ∨ y = 256 ∧ 306 ≤ r) := by omega
  have hlast : k ≤ 654 ∨ k = 655 ∧ (y ≤ 141 ∨ y = 142 ∧ r < 306) := by omega
  split <;> omega

end Telemetry.Time.Date
