import Mathlib.Algebra.Ring.Nat
import Mathlib.Data.List.Induction
import Mathlib.Data.List.TakeWhile
import Mathlib.Data.Nat.Notation
import Telemetry.Proofs.Time.Calendar
import Telemetry.Time.Rfc3339

/-! The text that is written for an instant is read back as that instant, but for leap seconds in
the middle of a minute. -/

namespace Telemetry.Time

open Text

section Padded

variable {w n : ℕ}

lemma isDigit_of_mem_padded {c : Char} (hc : c ∈ padded w n) : isDigit c = true := by
  rcases List.mem_append.mp hc with h | h
  · rw [List.eq_of_mem_replicate h]
    rfl
  · exact Nat.isDigit_of_mem_toDigits (by decide) (by decide) h

lemma number_padded (w n : ℕ) : number (padded w n) = n := by
  have hnumber : ∀ cs, number cs = Nat.ofDigitChars 10 cs 0 :=
    fun cs => Nat.ofDigitChars_eq_foldl.symm
  rw [hnumber, padded, Nat.ofDigitChars_append, Nat.ofDigitChars_replicate_zero, Nat.mul_zero,
    Nat.ofDigitChars_ten_toDigits]

lemma length_padded (hw : 0 < w) (hn : n < 10 ^ w) : (padded w n).length = w := by
  have hlength := (Nat.length_toDigits_le_iff (by decide) hw).mpr hn
  rw [padded, List.length_append, List.length_replicate]
  omega

lemma exists_padded (w n : ℕ) : ∃ c cs, padded w n = c :: cs ∧ isDigit c = true := by
  have hne : padded w n ≠ [] :=
    fun h => Nat.toDigits_ne_nil (List.append_eq_nil_iff.mp h).2
  obtain ⟨c, cs, hcs⟩ := List.exists_cons_of_ne_nil hne
  exact ⟨c, cs, hcs, isDigit_of_mem_padded (hcs ▸ List.mem_cons_self)⟩

lemma isBlank_of_isDigit {c : Char} (hc : isDigit c = true) : isBlank c = false := by
  simp only [isDigit, Bool.and_eq_true, decide_eq_true_eq] at hc
  have hmin : 48 ≤ c.toNat := hc.1
  have hmax : c.toNat ≤ 57 := hc.2
  simp only [isBlank, Bool.or_eq_false_iff, Bool.and_eq_false_iff, decide_eq_false_iff_not,
    beq_eq_false_iff_ne]
  omega

lemma trimStart_cons {c : Char} (hc : isBlank c = false) (cs : List Char) :
    trimStart (c :: cs) = c :: cs :=
  List.dropWhile_cons_of_neg (Bool.not_eq_true _ ▸ hc)

lemma trimStart_padded (w n : ℕ) (rest : List Char) :
    trimStart (padded w n ++ rest) = padded w n ++ rest := by
  obtain ⟨c, cs, hcs, hc⟩ := exists_padded w n
  rw [hcs, List.cons_append, trimStart_cons (isBlank_of_isDigit hc)]

lemma takeWhile_padded (w n : ℕ) {rest : List Char} (hrest : ∀ c ∈ rest.head?, isDigit c = false) :
    (padded w n ++ rest).takeWhile isDigit = padded w n := by
  rw [List.takeWhile_append_of_pos fun c hc => isDigit_of_mem_padded hc]
  cases rest with
  | nil => simp
  | cons c rest => simp [hrest c rfl]

lemma isEmpty_padded (w n : ℕ) : (padded w n).isEmpty = false := by
  obtain ⟨c, cs, hcs, -⟩ := exists_padded w n
  rw [hcs]
  rfl

lemma isDigit_head? {c : Char} (hc : isDigit c = false) (cs : List Char) :
    ∀ d ∈ (c :: cs).head?, isDigit d = false :=
  fun _ hd => Option.some.inj hd ▸ hc

lemma field_padded (hw : 0 < w) (hn : n < 10 ^ w) (rest : List Char) :
    field w (padded w n ++ rest) = some (n, rest) := by
  -- No more digits are taken than were written, also where another digit follows.
  have htake : ((padded w n ++ rest).take w).takeWhile isDigit = padded w n := by
    rw [List.take_left' (length_padded hw hn)]
    exact List.takeWhile_eq_self_iff.mpr fun c hc => isDigit_of_mem_padded hc
  simp only [field, trimStart_padded, htake, isEmpty_padded, number_padded, List.drop_left]
  rfl

lemma separator_cons {c : Char} (hc : isBlank c = false) (cs : List Char) :
    separator c (c :: cs) = some cs := by
  rw [separator, trimStart_cons hc]
  exact if_pos rfl

lemma field_separator {c : Char} (hc : isBlank c = false) (hn : n < 10 ^ 2) (rest : List Char) :
    (separator c (c :: (padded 2 n ++ rest))).bind (field 2) = some (n, rest) := by
  rw [separator_cons hc]
  exact field_padded (by decide) hn rest

lemma fractionField_padded {k : ℕ} (hw : 0 < w) (hw9 : w ≤ 9) (hn : n < 10 ^ w)
    {rest : List Char} (hrest : ∀ c ∈ rest.head?, isDigit c = false) (hk : k = n * 10 ^ (9 - w)) :
    fractionField ('.' :: (padded w n ++ rest)) = some (k, rest) := by
  have hlength := length_padded hw hn
  have hkept : (padded w n).take 9 = padded w n := List.take_of_length_le (by omega)
  simp only [fractionField, takeWhile_padded w n hrest, isEmpty_padded, hkept, number_padded,
    hlength, List.drop_left' hlength, hk]
  rfl

end Padded

lemma fractionField_fractionChars {n : ℕ} (hn : n < 10 ^ 9) (cs : List Char) :
    fractionField (fractionChars n ++ 'Z' :: cs) = some (n, 'Z' :: cs) := by
  have hend : ∀ c ∈ ('Z' :: cs).head?, isDigit c = false := isDigit_head? (by decide) cs
  simp only [fractionChars]
  split
  next hzero => rw [hzero]; rfl
  next =>
    split
    next => exact fractionField_padded (by decide) (by decide) (by omega) hend (by omega)
    next =>
      split
      next => exact fractionField_padded (by decide) (by decide) (by omega) hend (by omega)
      next => exact fractionField_padded (by decide) (by decide) hn hend (by omega)

lemma yearField_yearChars (y : ℤ) (cs : List Char) :
    yearField (yearChars y ++ '-' :: cs) = some (y, '-' :: cs) := by
  rw [yearChars]
  split
  next hy =>
    obtain ⟨c, ds, hds, hc⟩ := exists_padded 4 y.toNat
    have hsign : c ≠ '-' ∧ c ≠ '+' :=
      ⟨fun h => absurd hc (h ▸ by decide), fun h => absurd hc (h ▸ by decide)⟩
    have hfield := field_padded (by decide) (show y.toNat < 10 ^ 4 by omega) ('-' :: cs)
    rw [yearField, trimStart_padded]
    rw [hds, List.cons_append] at hfield ⊢
    split
    next h => exact absurd (List.cons.inj h).1 hsign.1
    next h => exact absurd (List.cons.inj h).1 hsign.2
    next =>
      have hyear : (y.toNat : ℤ) = y := Int.toNat_of_nonneg hy.1
      simp only [hfield, Option.map_some, hyear]
  next hy =>
    have hdigits := takeWhile_padded 4 y.natAbs (isDigit_head? (c := '-') (by decide) cs)
    by_cases hneg : y < 0
    · have habs : -(y.natAbs : ℤ) = y := by omega
      rw [if_pos hneg, List.cons_append, yearField, trimStart_cons (by decide)]
      simp only [hdigits, isEmpty_padded, number_padded, Bool.false_eq_true, if_false,
        Option.map_some, List.drop_left, habs]
    · have habs : (y.natAbs : ℤ) = y := by omega
      rw [if_neg hneg, List.cons_append, yearField, trimStart_cons (by decide)]
      simp only [hdigits, isEmpty_padded, number_padded, Bool.false_eq_true, if_false,
        Option.map_some, List.drop_left, habs]

namespace Instant

variable (t : Instant)

def total : ℤ := t.nanos / nanosPerSecond

def date : Date := .ofDays (t.total / 86400)

def clock : ℕ := (t.total % 86400).toNat

def writtenSecond : ℕ := t.clock % 60 + if t.leap then 1 else 0

/-- A leap second ends a minute, as those of UTC do. -/
def Regular : Prop := t.leap = true → t.nanos / nanosPerSecond % 60 = 59

instance : Decidable t.Regular := inferInstanceAs (Decidable (_ → _))

/-- What `t` is read back as. Behind any second but the last of a minute, a leap second looks like
the second that follows. -/
def readBack : Instant :=
  if h : t.Regular then t
  else
    ⟨t.nanos + nanosPerSecond, false, by
      have := t.earliest_le
      simp only [nanosPerSecond]
      omega, by
      have := t.le_latest
      simp only [Regular, Classical.not_imp, latest, nanosPerSecond] at *
      omega⟩

variable {t} in
lemma readBack_of_regular (h : t.Regular) : t.readBack = t := dif_pos h

variable {t} in
lemma readBack_of_not_regular (h : ¬ t.Regular) :
    t.readBack.leap = false ∧ t.readBack.nanos = t.nanos + nanosPerSecond := by
  rw [readBack, dif_neg h]
  exact ⟨rfl, rfl⟩

lemma regular_of_ofMillis? {t : Instant} {millis : Int} (h : ofMillis? millis = some t) :
    t.Regular := by
  rw [ofMillis?, ofNanos?] at h
  split at h
  next =>
    obtain rfl := Option.some.inj h
    exact nofun
  next => cases h

lemma regular_readBack : t.readBack.Regular := by
  by_cases h : t.Regular
  · rwa [readBack_of_regular h]
  · rw [Regular, (readBack_of_not_regular h).1]
    exact nofun

/-- In the middle of a minute, 34 minutes past noon. -/
def leapingNoon : Instant := ⟨45270500000000, true, by decide, by decide⟩

lemma localChars_eq : t.localChars = yearChars t.date.year ++ '-' :: (padded 2 t.date.month ++
    '-' :: (padded 2 t.date.day ++ 'T' :: (padded 2 (t.clock / 3600) ++
    ':' :: (padded 2 (t.clock / 60 % 60) ++ ':' :: (padded 2 t.writtenSecond ++
      fractionChars (t.nanos % nanosPerSecond).toNat))))) := by
  simp only [localChars, date, clock, writtenSecond, total, List.append_assoc, List.cons_append]

lemma clock_lt : t.clock < 86400 := by
  rw [clock]
  omega

lemma localChars_readBack : t.readBack.localChars = t.localChars := by
  -- Within the minute the clock has only moved on by one second.
  by_cases h : t.Regular
  · rw [readBack_of_regular h]
  obtain ⟨hsettled, hnanos⟩ := readBack_of_not_regular h
  obtain ⟨hleap, hsecond⟩ := Classical.not_imp.mp h
  have htotal : t.readBack.total = t.total + 1 := by
    rw [total, total, hnanos]
    simp only [nanosPerSecond]
    omega
  have hminute : t.total % 60 ≠ 59 := hsecond
  have hclock : t.readBack.clock = t.clock + 1 ∧ t.clock % 60 ≠ 59 := by
    rw [clock, clock, htotal]
    omega
  have hdate : t.readBack.date = t.date := by
    rw [date, date, htotal]
    congr 1
    omega
  have hwritten : t.readBack.writtenSecond = t.writtenSecond := by
    rw [writtenSecond, writtenSecond, hsettled, hleap, hclock.1]
    simp only [Bool.false_eq_true, if_false, if_true]
    omega
  have hfraction : t.readBack.nanos % nanosPerSecond = t.nanos % nanosPerSecond := by
    rw [hnanos, Int.add_emod_right]
  have hhour : (t.clock + 1) / 3600 = t.clock / 3600 := by omega
  have hminutes : (t.clock + 1) / 60 = t.clock / 60 := by omega
  rw [localChars_eq, localChars_eq, hdate, hwritten, hfraction, hclock.1, hhour, hminutes]

lemma Regular.writtenSecond_eq {t : Instant} (h : t.Regular) :
    t.leap = true ∧ t.writtenSecond = 60 ∧ t.clock % 60 = 59 ∨
      t.leap = false ∧ t.writtenSecond = t.clock % 60 ∧ t.writtenSecond < 60 := by
  rw [writtenSecond]
  cases hleap : t.leap with
  | false => exact .inr ⟨rfl, rfl, Nat.mod_lt _ (by decide)⟩
  | true =>
    have hlast := h hleap
    rw [clock, total]
    exact .inl ⟨rfl, by simp only [if_true]; omega, by omega⟩

lemma year_date : firstYear ≤ t.date.year ∧ t.date.year ≤ lastYear := by
  have hmin := t.earliest_le
  have hmax := t.le_latest
  apply Date.year_ofDays
  · simp only [total, earliest, nanosPerSecond] at *
    omega
  · simp only [total, latest, nanosPerSecond] at *
    omega

variable {t} in
lemma ofLocal?_of_eq {date : Date} {hour minute second nanos : ℕ}
    (hfields : date.Valid ∧ firstYear ≤ date.year ∧ date.year ≤ lastYear ∧ hour < 24 ∧
      minute < 60 ∧ second ≤ 60)
    (hleap : (second == 60) = t.leap)
    (hnanos : (date.toDays * 86400 + hour * 3600 + minute * 60 +
      (if second == 60 then 59 else second : ℕ) - 0) * nanosPerSecond + nanos = t.nanos) :
    ofLocal? date hour minute second nanos 0 = some t := by
  obtain ⟨whole, leap, hmin, hmax⟩ := t
  subst hleap hnanos
  exact (if_pos hfields).trans (dif_pos ⟨hmin, hmax⟩)

variable {t} in
lemma Regular.ofLocal?_date (h : t.Regular) : ofLocal? t.date (t.clock / 3600)
    (t.clock / 60 % 60) t.writtenSecond (t.nanos % nanosPerSecond).toNat 0 = some t := by
  have hclock := t.clock_lt
  have hdays : t.date.toDays = t.total / 86400 := Date.toDays_ofDays _
  have hyear := t.year_date
  have hsum : t.total / 86400 * 86400 + t.clock = t.total := by
    rw [clock]
    omega
  have hnanos : t.total * nanosPerSecond + (t.nanos % nanosPerSecond).toNat = t.nanos := by
    rw [total, nanosPerSecond]
    omega
  apply ofLocal?_of_eq
  · refine ⟨Date.valid_ofDays _, hyear.1, hyear.2, by omega, by omega, ?_⟩
    obtain ⟨-, hs, -⟩ | ⟨-, -, hs⟩ := h.writtenSecond_eq <;> omega
  · obtain ⟨hleap, hs, -⟩ | ⟨hleap, -, hs⟩ := h.writtenSecond_eq
    · rw [hleap, hs]
      rfl
    · rw [hleap, beq_eq_false_iff_ne]
      omega
  · have hsecond : (if t.writtenSecond == 60 then 59 else t.writtenSecond) = t.clock % 60 := by
      simp only [beq_iff_eq]
      obtain ⟨-, hs, hlast⟩ | ⟨-, heq, hlt⟩ := h.writtenSecond_eq <;> split <;> omega
    have htotal : t.date.toDays * 86400 + (t.clock / 3600 : ℕ) * 3600 +
        (t.clock / 60 % 60 : ℕ) * 60 + (t.clock % 60 : ℕ) - 0 = t.total := by
      omega
    rw [hsecond, htotal, hnanos]

lemma Regular.ofText?_text {t : Instant} (h : t.Regular) : ofText? t.text = some t := by
  have hclock := t.clock_lt
  have hdate : 1 ≤ t.date.month ∧ t.date.month ≤ 12 ∧ 1 ≤ t.date.day ∧
      t.date.day ≤ daysInMonth t.date.year t.date.month := Date.valid_ofDays _
  have hday : daysInMonth t.date.year t.date.month ≤ 31 := by
    simp only [daysInMonth]
    split <;> split <;> omega
  have hsecond : t.writtenSecond ≤ 60 := by
    obtain ⟨-, hs, -⟩ | ⟨-, -, hs⟩ := h.writtenSecond_eq <;> omega
  have hnanos : (t.nanos % nanosPerSecond).toNat < 10 ^ 9 := by
    rw [nanosPerSecond]
    omega
  have hzone : offsetField ['Z'] = some (0, []) := by decide
  rw [ofText?, text, String.toList_ofList, localChars_eq]
  simp only [List.append_assoc, List.cons_append]
  rw [ofChars?, yearField_yearChars]
  simp only [Option.bind_eq_bind, Option.bind_some]
  rw [field_separator (by decide) (by omega), Option.bind_some,
    field_separator (by decide) (by omega), Option.bind_some]
  simp only [or_true, true_or, if_true]
  rw [field_padded (by decide) (by omega), Option.bind_some,
    field_separator (by decide) (by omega), Option.bind_some,
    field_separator (by decide) (by omega), Option.bind_some,
    fractionField_fractionChars hnanos, Option.bind_some, trimStart_cons (by decide), hzone,
    Option.bind_some]
  exact h.ofLocal?_date

theorem ofText?_text : ofText? t.text = some t.readBack := by
  have htext : t.readBack.text = t.text := by rw [text, text, localChars_readBack]
  rw [← htext]
  exact t.regular_readBack.ofText?_text

lemma ofJson?_toJson : ofJson? t.toJson = some t.readBack :=
  (Option.bind_some ..).trans t.ofText?_text

section Reading

variable {t : Instant}

lemma regular_of_ofLocal? {date : Date} {hour minute second nanos : ℕ} {offset : ℤ}
    (hnanos : nanos < 10 ^ 9) (hoffset : offset % 60 = 0)
    (h : ofLocal? date hour minute second nanos offset = some t) : t.Regular := by
  unfold ofLocal? at h
  dsimp only at h
  obtain ⟨-, h⟩ := Option.ite_none_right_eq_some.mp h
  obtain ⟨_, h⟩ := Option.dite_none_right_eq_some.mp h
  obtain rfl := Option.some.inj h
  intro hleap
  have hleap : (second == 60) = true := hleap
  simp only [hleap, if_true, nanosPerSecond]
  omega

lemma number_lt {digits : List Char} (h : ∀ c ∈ digits, isDigit c = true) :
    number digits < 10 ^ digits.length := by
  induction digits using List.reverseRecOn with
  | nil => decide
  | append_singleton digits c ih =>
    have hc : c.toNat ≤ 57 := by
      have hdigit := h c (by simp)
      simp only [isDigit, Bool.and_eq_true, decide_eq_true_eq] at hdigit
      exact hdigit.2
    have hdigits := ih fun d hd => h d (List.mem_append_left _ hd)
    simp only [number] at hdigits ⊢
    rw [List.foldl_append, List.length_append, List.length_singleton, Nat.pow_succ]
    simp only [List.foldl_cons, List.foldl_nil]
    omega

lemma fractionField_lt {cs rest : List Char} {n : ℕ} (h : fractionField cs = some (n, rest)) :
    n < 10 ^ 9 := by
  unfold fractionField at h
  split at h
  next cs =>
    obtain ⟨-, h⟩ := Option.ite_none_left_eq_some.mp h
    obtain ⟨rfl, -⟩ := Prod.mk.inj (Option.some.inj h)
    have hdigits : ∀ c ∈ (cs.takeWhile isDigit).take 9, isDigit c = true :=
      fun c hc => List.mem_takeWhile_imp (List.mem_of_mem_take hc)
    have hkept := number_lt hdigits
    have hlength : ((cs.takeWhile isDigit).take 9).length ≤ 9 := List.length_take_le ..
    calc _ < 10 ^ ((cs.takeWhile isDigit).take 9).length *
          10 ^ (9 - ((cs.takeWhile isDigit).take 9).length) :=
          Nat.mul_lt_mul_of_pos_right hkept (Nat.pow_pos (by decide))
      _ = 10 ^ 9 := by rw [← Nat.pow_add, Nat.add_sub_cancel' hlength]
  next =>
    obtain ⟨rfl, -⟩ := Prod.mk.inj (Option.some.inj h)
    decide

lemma offsetField_emod {cs rest : List Char} {offset : ℤ}
    (h : offsetField cs = some (offset, rest)) : offset % 60 = 0 := by
  unfold offsetField at h
  split at h
  · cases h
  split at h
  · obtain ⟨rfl, -⟩ := Prod.mk.inj (Option.some.inj h)
    rfl
  split at h
  · obtain ⟨rfl, -⟩ := Prod.mk.inj (Option.some.inj h)
    rfl
  obtain ⟨-, h⟩ := Option.ite_none_right_eq_some.mp h
  obtain ⟨⟨hours, _⟩, -, h⟩ := Option.bind_eq_some_iff.mp h
  obtain ⟨⟨minutes, _⟩, -, h⟩ := Option.bind_eq_some_iff.mp h
  obtain ⟨-, h⟩ := Option.ite_none_right_eq_some.mp h
  obtain ⟨rfl, -⟩ := Prod.mk.inj (Option.some.inj h)
  split <;> omega

lemma regular_of_ofText? {s : String} (h : ofText? s = some t) : t.Regular := by
  simp only [ofText?, ofChars?, Option.bind_eq_bind, Option.bind_eq_some_iff] at h
  obtain ⟨_, -, _, -, _, -, h⟩ := h
  split at h
  next =>
    split at h
    next =>
      simp only [Option.bind_some, Option.bind_eq_some_iff] at h
      obtain ⟨_, -, _, -, _, -, ⟨nanos, _⟩, hnanos, ⟨offset, _⟩, hoffset, h⟩ := h
      obtain ⟨-, h⟩ := Option.ite_none_right_eq_some.mp h
      exact regular_of_ofLocal? (fractionField_lt hnanos) (offsetField_emod hoffset) h
    next => cases h
  next => cases h

end Reading

end Instant

end Telemetry.Time
