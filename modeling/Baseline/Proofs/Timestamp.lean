import Mathlib.Algebra.Group.Nat.Defs
import Baseline.Proofs.Text.Digits
import Baseline.Timestamp

/-!
# Timestamps, read back

A moment of the calendar (`Timestamp.Valid`) is read back from what is written
(`parse_write`).  Every number in it is padded with zeros to its width, and what
stands behind it is no digit or comes where no more digits are read
(`readNumber_padded`).
-/

namespace Baseline.Timestamp

open Text

/-- A moment of the calendar. -/
structure Valid (t : Timestamp) : Prop where
  year : firstYear ≤ t.year ∧ t.year ≤ lastYear
  month : 1 ≤ t.month ∧ t.month ≤ 12
  day : 1 ≤ t.day ∧ t.day ≤ daysIn t.year t.month
  hour : t.hour < 24
  minute : t.minute < 60
  second : t.second ≤ 60
  nanosecond : t.nanosecond < Nat.pow 10 9

instance (t : Timestamp) : Decidable t.Valid :=
  decidable_of_iff
    ((firstYear ≤ t.year ∧ t.year ≤ lastYear) ∧ (1 ≤ t.month ∧ t.month ≤ 12) ∧
      (1 ≤ t.day ∧ t.day ≤ daysIn t.year t.month) ∧ t.hour < 24 ∧ t.minute < 60 ∧
      t.second ≤ 60 ∧ t.nanosecond < Nat.pow 10 9)
    ⟨fun ⟨y, m, d, h, n, s, f⟩ => ⟨y, m, d, h, n, s, f⟩,
      fun ⟨y, m, d, h, n, s, f⟩ => ⟨y, m, d, h, n, s, f⟩⟩

theorem daysIn_le (year : Int) (month : Nat) : daysIn year month ≤ 31 := by
  unfold daysIn
  split
  · split <;> omega
  · split <;> omega

/-! ### Padded numbers -/

theorem isDigit_of_mem_padded {width n : Nat} {c : Char} (h : c ∈ padded width n) :
    c.isDigit = true := by
  rcases List.mem_append.mp h with h | h
  · rw [List.eq_of_mem_replicate h]
    decide
  · exact isDigit_of_mem_toDigits h

theorem numberOf_padded (width n : Nat) : numberOf (padded width n) = n := by
  rw [numberOf, padded, foldl_zeros, foldl_toDigits]

/-- **A number that fits takes its width.** -/
theorem length_padded {width n : Nat} (hwidth : 0 < width) (h : n < 10 ^ width) :
    (padded width n).length = width := by
  have hdigits : (Nat.toDigits 10 n).length ≤ width :=
    (Nat.length_toDigits_le_iff (by decide) hwidth).mpr h
  rw [padded, List.length_append, List.length_replicate]
  omega

theorem padded_ne_nil (width n : Nat) : padded width n ≠ [] := by
  intro h
  exact Nat.toDigits_ne_nil (List.append_eq_nil_iff.mp h).2

theorem isBlank_of_isDigit {c : Char} (h : c.isDigit = true) : isBlank c = false := by
  have hvalue : 48 ≤ c.toNat ∧ c.toNat ≤ 57 := Char.isDigit_iff_toNat.mp h
  simp only [isBlank, blankRanges, List.any_cons, List.any_nil, Bool.or_false, Bool.or_eq_false_iff,
    Bool.and_eq_false_iff, decide_eq_false_iff_not]
  omega

/-! ### Reading numbers -/

/-- **Digits are taken to their end**, or to the limit. -/
theorem takeDigits_append {ds rest : List Char} (hd : ∀ c ∈ ds, c.isDigit = true) {limit : Nat}
    (hlimit : ds.length ≤ limit)
    (hr : ds.length = limit ∨ ∀ c, rest.head? = some c → c.isDigit = false) :
    takeDigits limit (ds ++ rest) = (ds, rest) := by
  induction ds generalizing limit with
  | nil =>
    cases limit with
    | zero => rfl
    | succ limit =>
      have hrest := hr.resolve_left (by simp)
      cases rest with
      | nil => rfl
      | cons c rest => simp [takeDigits, hrest c rfl]
  | cons d ds ih =>
    obtain ⟨limit, rfl⟩ := Nat.exists_eq_add_one.mpr (Nat.lt_of_lt_of_le (by simp) hlimit)
    have hlater := ih (fun c hc => hd c (by simp [hc])) (Nat.le_of_succ_le_succ hlimit)
      (hr.imp_left Nat.succ.inj)
    simp only [List.cons_append, takeDigits, hd d (by simp), if_true, hlater]

/-- **A padded number is read back.** -/
theorem readNumber_padded {width n limit : Nat} {rest : List Char} (hn : n < numberLimit)
    (hlimit : (padded width n).length ≤ limit)
    (hr : (padded width n).length = limit ∨ ∀ c, rest.head? = some c → c.isDigit = false) :
    readNumber limit (padded width n ++ rest) = .ok (n, rest) := by
  have htake := takeDigits_append (fun _ => isDigit_of_mem_padded) hlimit hr
  obtain ⟨c, ds, hds⟩ := List.exists_cons_of_ne_nil (padded_ne_nil width n)
  have hvalue : numberOf (c :: ds) = n := hds ▸ numberOf_padded width n
  rw [readNumber, htake, hds]
  simp only [hvalue, hn, if_true]

theorem skipBlanks_cons {c : Char} (h : isBlank c = false) (rest : List Char) :
    skipBlanks (c :: rest) = c :: rest := by
  simp [skipBlanks, h]

theorem skipBlanks_padded (width n : Nat) (rest : List Char) :
    skipBlanks (padded width n ++ rest) = padded width n ++ rest := by
  obtain ⟨c, ds, hds⟩ := List.exists_cons_of_ne_nil (padded_ne_nil width n)
  have hc : c.isDigit = true := isDigit_of_mem_padded (show c ∈ padded width n by simp [hds])
  rw [hds, List.cons_append, skipBlanks_cons (isBlank_of_isDigit hc)]

theorem readField_padded {low high n : Nat} (hn : low ≤ n ∧ n ≤ high) (hhigh : high < 100)
    (rest : List Char) : readField low high (padded 2 n ++ rest) = .ok (n, rest) := by
  have hlength : (padded 2 n).length = 2 := length_padded (by decide) (by omega)
  have hsmall : n < 100 := by omega
  have hlimit : n < numberLimit := Nat.lt_trans hsmall (by decide)
  rw [readField, skipBlanks_padded,
    readNumber_padded hlimit (Nat.le_of_eq hlength) (Or.inl hlength)]
  simp only [if_pos hn]

theorem readMark_cons {mark : Char} (h : isBlank mark = false) (rest : List Char) :
    readMark mark (mark :: rest) = .ok ((), rest) := by
  simp only [readMark, skipBlanks_cons h, if_true]

/-! ### The parts of a moment -/

/-- Years that a calendar holds are within the bounds of all years. -/
theorem year_in_bounds {year : Int} (h : firstYear ≤ year ∧ year ≤ lastYear) :
    -(Nat.pow 2 31 : Int) ≤ year ∧ year < Nat.pow 2 31 :=
  ⟨Int.le_trans (by decide) h.1, Int.lt_of_le_of_lt h.2 (by decide)⟩

theorem readYear_digits {c : Char} {s rest : List Char} {n : Nat} (hc : c.isDigit = true)
    (h : readNumber 4 (c :: s) = .ok (n, rest))
    (hn : firstYear ≤ (n : Int) ∧ (n : Int) ≤ lastYear) :
    readYear (c :: s) = .ok ((n : Int), rest) := by
  have hminus : c ≠ '-' := by
    rintro rfl
    exact absurd hc (by decide)
  have hplus : c ≠ '+' := by
    rintro rfl
    exact absurd hc (by decide)
  rw [readYear, skipBlanks_cons (isBlank_of_isDigit hc)]
  simp only [List.cons.injEq, hminus, hplus, false_and, imp_self, implies_true, h, Except.map,
    if_pos (year_in_bounds hn)]

theorem readYear_minus {s rest : List Char} {n : Nat} (h : readNumber s.length s = .ok (n, rest))
    (hn : firstYear ≤ -(n : Int) ∧ -(n : Int) ≤ lastYear) :
    readYear ('-' :: s) = .ok (-(n : Int), rest) := by
  rw [readYear, skipBlanks_cons (by decide)]
  simp only [h, Except.map, if_pos (year_in_bounds hn)]

theorem readYear_plus {s rest : List Char} {n : Nat} (h : readNumber s.length s = .ok (n, rest))
    (hn : firstYear ≤ (n : Int) ∧ (n : Int) ≤ lastYear) :
    readYear ('+' :: s) = .ok ((n : Int), rest) := by
  rw [readYear, skipBlanks_cons (by decide)]
  simp only [h, Except.map, if_pos (year_in_bounds hn)]

/-- **A year is read back**, its sign included. -/
theorem readYear_writeYear {year : Int} (h : firstYear ≤ year ∧ year ≤ lastYear)
    (rest : List Char) : readYear (writeYear year ++ '-' :: rest) = .ok (year, '-' :: rest) := by
  have hbounds : -262143 ≤ year ∧ year ≤ 262142 := h
  have hstop : ∀ c, ('-' :: rest).head? = some c → c.isDigit = false := by
    intro c hc
    obtain rfl : '-' = c := by simpa using hc
    decide
  have hsmall : ∀ n : Nat, n ≤ 262143 → n < numberLimit := fun n hn =>
    Nat.lt_of_le_of_lt hn (by decide)
  have hsigned : readNumber (padded 4 year.natAbs ++ '-' :: rest).length
      (padded 4 year.natAbs ++ '-' :: rest) = .ok (year.natAbs, '-' :: rest) :=
    readNumber_padded (hsmall year.natAbs (by omega)) (by simp) (Or.inr hstop)
  unfold writeYear
  by_cases hshort : 0 ≤ year ∧ year ≤ 9999
  · -- four digits, and no sign in front of them
    have hlength : (padded 4 year.toNat).length = 4 := length_padded (by decide) (by omega)
    have hread : readNumber 4 (padded 4 year.toNat ++ '-' :: rest) =
        .ok (year.toNat, '-' :: rest) :=
      readNumber_padded (hsmall year.toNat (by omega)) (Nat.le_of_eq hlength) (Or.inl hlength)
    obtain ⟨c, ds, hds⟩ := List.exists_cons_of_ne_nil (padded_ne_nil 4 year.toNat)
    have hdigit : c.isDigit = true :=
      isDigit_of_mem_padded (show c ∈ padded 4 year.toNat by simp [hds])
    have hyear : (year.toNat : Int) = year := Int.toNat_of_nonneg hshort.1
    rw [if_pos hshort]
    rw [hds, List.cons_append] at hread ⊢
    rw [readYear_digits hdigit hread (hyear.symm ▸ h), hyear]
  · rw [if_neg hshort, List.cons_append]
    by_cases hneg : year < 0
    · have hyear : -(year.natAbs : Int) = year := by omega
      rw [if_pos hneg, readYear_minus hsigned (hyear.symm ▸ h), hyear]
    · have hyear : (year.natAbs : Int) = year := by omega
      rw [if_neg hneg, readYear_plus hsigned (hyear.symm ▸ h), hyear]

theorem readFraction_digits {width n : Nat} (hw : 0 < width) (hwidth : width ≤ 9)
    (hn : n < 10 ^ width) (rest : List Char)
    (hr : ∀ c, rest.head? = some c → c.isDigit = false) :
    readFraction ('.' :: (padded width n ++ rest)) = .ok (n * Nat.pow 10 (9 - width), rest) := by
  have hlength : (padded width n).length = width := length_padded hw hn
  have htake : takeDigits 9 (padded width n ++ rest) = (padded width n, rest) :=
    takeDigits_append (fun _ => isDigit_of_mem_padded) (hlength.symm ▸ hwidth) (Or.inr hr)
  have hdrop : rest.dropWhile Char.isDigit = rest := by
    cases rest with
    | nil => rfl
    | cons c rest => simp [hr c rfl]
  obtain ⟨c, ds, hds⟩ := List.exists_cons_of_ne_nil (padded_ne_nil width n)
  have hvalue : numberOf (c :: ds) = n := hds ▸ numberOf_padded width n
  simp only [readFraction, htake]
  rw [hds] at hlength ⊢
  simp only [hvalue, hlength, hdrop]

/-- **A fraction is read back** from the fewest digits that show it. -/
theorem readFraction_writeFraction {n : Nat} (h : n < Nat.pow 10 9) :
    readFraction (writeFraction n ++ ['Z']) = .ok (n, ['Z']) := by
  have hbound : n < 1000000000 := h
  have hstop : ∀ c, ['Z'].head? = some c → c.isDigit = false := by
    intro c hc
    obtain rfl : 'Z' = c := by simpa using hc
    decide
  unfold writeFraction
  split
  · rename_i hzero
    rw [hzero]
    rfl
  · split
    · rename_i _ hmilli
      rw [List.cons_append, readFraction_digits (by decide) (by decide) (by omega) _ hstop,
        Nat.div_mul_cancel (Nat.dvd_of_mod_eq_zero hmilli)]
    · split
      · rename_i _ _ hmicro
        rw [List.cons_append, readFraction_digits (by decide) (by decide) (by omega) _ hstop,
          Nat.div_mul_cancel (Nat.dvd_of_mod_eq_zero hmicro)]
      · rw [List.cons_append, readFraction_digits (by decide) (by decide) (by omega) _ hstop,
          Nat.sub_self]
        exact congrArg (fun m => Except.ok (m, ['Z'])) (Nat.mul_one n)

/-! ### Moments -/

theorem readDate_write {t : Timestamp} (h : t.Valid) (rest : List Char) :
    readDate (writeYear t.year ++ '-' :: (padded 2 t.month ++ '-' :: (padded 2 t.day ++ rest))) =
      .ok ((t.year, t.month, t.day), rest) := by
  have hday : 1 ≤ t.day ∧ t.day ≤ 31 := ⟨h.day.1, Nat.le_trans h.day.2 (daysIn_le _ _)⟩
  simp only [readDate, bind, Except.bind, readYear_writeYear h.year,
    readMark_cons (show isBlank '-' = false by decide), readField_padded h.month (by decide),
    readField_padded hday (by decide)]
  rfl

theorem readTime_write {t : Timestamp} (h : t.Valid) :
    readTime (padded 2 t.hour ++ ':' :: (padded 2 t.minute ++ ':' ::
        (padded 2 t.second ++ (writeFraction t.nanosecond ++ ['Z'])))) =
      .ok ((t.hour, t.minute, t.second, t.nanosecond), ['Z']) := by
  have hhour : 0 ≤ t.hour ∧ t.hour ≤ 23 := ⟨Nat.zero_le _, Nat.le_of_lt_succ h.hour⟩
  have hminute : 0 ≤ t.minute ∧ t.minute ≤ 59 := ⟨Nat.zero_le _, Nat.le_of_lt_succ h.minute⟩
  have hsecond : 0 ≤ t.second ∧ t.second ≤ 60 := ⟨Nat.zero_le _, h.second⟩
  simp only [readTime, bind, Except.bind, readMark_cons (show isBlank ':' = false by decide),
    readField_padded hhour (by decide), readField_padded hminute (by decide),
    readField_padded hsecond (by decide), readFraction_writeFraction h.nanosecond]
  rfl

/-- **A moment is read back from what is written.** -/
theorem parse_write {t : Timestamp} (h : t.Valid) : parse t.write = .ok t := by
  have htext : t.write = writeYear t.year ++ '-' :: (padded 2 t.month ++ '-' ::
      (padded 2 t.day ++ 'T' :: (padded 2 t.hour ++ ':' :: (padded 2 t.minute ++ ':' ::
        (padded 2 t.second ++ (writeFraction t.nanosecond ++ ['Z'])))))) := by
    simp [write]
  have hyear : ¬ (t.year < firstYear ∨ lastYear < t.year) := by
    have := h.year
    omega
  have hdate : ¬ (t.year < firstYear ∨ lastYear < t.year ∨ daysIn t.year t.month < t.day) := by
    have := h.day.2
    omega
  have hzone : readOffset (skipBlanks ['Z']) = .ok (0, []) := by decide
  rw [htext, parse]
  simp only [bind, Except.bind, readDate_write h, readSeparator, true_or, if_true,
    readTime_write h, hzone]
  simp [skipBlanks, minusMinutes, hdate, hyear]
  rfl

end Baseline.Timestamp
