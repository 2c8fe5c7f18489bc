import Mathlib.Data.List.TakeWhile
import Baseline.Proofs.Json.Text
import Baseline.Proofs.Text.Digits

/-!
# Numbers in JSON

What follows a value is no digit, no point and no exponent, so a number reads the same in
front of it as alone (`readNumber_append`).

A whole number is written in its decimal digits, without zeros in front
(`toDigits_wellFormed`), and is read back from them (`reads_readNatural`).
-/

namespace Baseline.Json

open Text

/-! ### Numbers in front of more text -/

theorem not_isDigit_of_ends {rest : List Char} (h : Ends rest) :
    ∀ c, rest.head? = some c → c.isDigit = false := by
  intro c hc
  rcases h c hc with rfl | rfl | rfl <;> decide

section Parts

variable {rest : List Char} (hr : Ends rest)

include hr

theorem takeDigits_append (s : List Char) :
    takeDigits (s ++ rest) = ((takeDigits s).1, (takeDigits s).2 ++ rest) := by
  induction s with
  | nil =>
    cases rest with
    | nil => rfl
    | cons c rest => simp [takeDigits, not_isDigit_of_ends hr c rfl]
  | cons c s ih =>
    simp only [takeDigits, Prod.mk.injEq] at ih
    by_cases hc : c.isDigit = true
    · simp [takeDigits, hc, ih]
    · simp [takeDigits, hc]

theorem takeMinus_append (s : List Char) :
    takeMinus (s ++ rest) = ((takeMinus s).1, (takeMinus s).2 ++ rest) := by
  cases s with
  | nil =>
    cases rest with
    | nil => rfl
    | cons c rest => rcases hr c rfl with rfl | rfl | rfl <;> rfl
  | cons c s =>
    by_cases hc : c = '-'
    · subst hc
      rfl
    · simp [takeMinus, hc]

theorem takeSign_append (s : List Char) :
    takeSign (s ++ rest) = ((takeSign s).1, (takeSign s).2 ++ rest) := by
  cases s with
  | nil =>
    cases rest with
    | nil => rfl
    | cons c rest => rcases hr c rfl with rfl | rfl | rfl <;> rfl
  | cons c s =>
    by_cases hminus : c = '-'
    · subst hminus
      rfl
    · by_cases hplus : c = '+'
      · subst hplus
        rfl
      · simp [takeSign, hminus, hplus]

theorem takeFraction_append (s : List Char) :
    takeFraction (s ++ rest) =
      (takeFraction s).map fun (fraction, more) => (fraction, more ++ rest) := by
  cases s with
  | nil =>
    cases rest with
    | nil => rfl
    | cons c rest => rcases hr c rfl with rfl | rfl | rfl <;> rfl
  | cons c s =>
    by_cases hc : c = '.'
    · subst hc
      simp only [takeFraction, List.cons_append, takeDigits_append hr]
      split <;> rfl
    · simp [takeFraction, hc]

theorem takeExponent_append (s : List Char) :
    takeExponent (s ++ rest) =
      (takeExponent s).map fun (exponent, more) => (exponent, more ++ rest) := by
  cases s with
  | nil =>
    cases rest with
    | nil => rfl
    | cons c rest => rcases hr c rfl with rfl | rfl | rfl <;> rfl
  | cons c s =>
    simp only [takeExponent, List.cons_append, takeSign_append hr, takeDigits_append hr]
    split
    · split <;> rfl
    · rfl

/-- **What ends a value is no part of a number.** -/
theorem numberText_append (s : List Char) :
    numberText (s ++ rest) = (numberText s).map fun (t, more) => (t, more ++ rest) := by
  simp only [numberText, takeMinus_append hr, takeDigits_append hr, takeFraction_append hr]
  split
  · rfl
  · cases takeFraction (takeDigits (takeMinus s).2).2 with
    | none => rfl
    | some fraction =>
      simp only [Option.map_some, Option.bind_eq_bind, Option.bind_some, takeExponent_append hr]
      cases takeExponent fraction.2 <;> rfl

end Parts

/-- A number begins with a minus sign or a digit. -/
theorem exists_cons_of_numberText {s : List Char} {t : NumberText × List Char}
    (h : numberText s = some t) : ∃ c more, s = c :: more ∧ (c = '-' ∨ c.isDigit = true) := by
  cases s with
  | nil => simp [numberText, takeMinus, takeDigits] at h
  | cons c more =>
    refine ⟨c, more, rfl, ?_⟩
    by_contra hc
    obtain ⟨hminus, hdigit⟩ := not_or.mp hc
    simp [numberText, takeMinus, takeDigits, hminus, hdigit] at h

theorem isBlank_of_number {c : Char} (h : c = '-' ∨ c.isDigit = true) : isBlank c = false := by
  have hvalue : 33 ≤ c.toNat := by
    rcases h with rfl | h
    · decide
    · have hdigit : 48 ≤ c.toNat := (Char.isDigit_iff_toNat.mp h).1
      omega
  have hother : ∀ d : Char, d.toNat < 33 → (c == d) = false := by
    rintro d hd
    rw [beq_eq_false_iff_ne]
    rintro rfl
    omega
  simp only [isBlank, hother ' ' (by decide), hother '\n' (by decide), hother '\t' (by decide),
    hother '\r' (by decide), Bool.or_false]

theorem readNumber_eq_ok {s more : List Char} {n : Number} :
    readNumber s = .ok (n, more) ↔ ∃ t, numberText s = some (t, more) ∧ t.value? = some n := by
  unfold readNumber
  cases numberText s with
  | none => simp
  | some t =>
    obtain ⟨t, more'⟩ := t
    cases hv : t.value? <;> simp [hv, and_assoc, and_comm]

theorem readNumber_append {rest : List Char} (hr : Ends rest) (s : List Char) :
    readNumber (s ++ rest) = (readNumber s).map fun (n, more) => (n, more ++ rest) := by
  simp only [readNumber, numberText_append hr]
  cases numberText s with
  | none => rfl
  | some t =>
    simp only [Option.map_some]
    cases t.1.value? <;> rfl

/-- The decoder takes a number: it is not past the largest double. -/
def Number.Readable (n : Number) : Prop := ∃ m, readNumber n.write = .ok (m, [])

/-! ### Whole numbers -/

theorem digitsValue_toDigits (n : Nat) : digitsValue ((Nat.toDigits 10 n).map digitValue) = n := by
  rw [digitsValue, List.foldl_map]
  exact foldl_toDigits n

/-- Digits that a number is read from: there are some, and a zero stands alone. -/
theorem toDigits_wellFormed (n : Nat) :
    ¬ ((Nat.toDigits 10 n).map digitValue = [] ∨
      ((Nat.toDigits 10 n).map digitValue).head? = some 0 ∧
        1 < ((Nat.toDigits 10 n).map digitValue).length) := by
  rintro (h | ⟨hzero, hlong⟩)
  · exact Nat.toDigits_ne_nil (List.map_eq_nil_iff.mp h)
  · by_cases hn : n = 0
    · subst hn
      revert hlong
      decide
    · rw [List.head?_map, Option.map_eq_some_iff] at hzero
      obtain ⟨c, hc, hvalue⟩ := hzero
      have hdigit := Char.isDigit_iff_toNat.mp (isDigit_of_mem_toDigits (List.mem_of_head? hc))
      have hchar : c = '0' := by
        refine Char.toNat_inj.mp ?_
        simp only [digitValue] at hvalue
        omega
      exact head?_toDigits (Nat.pos_of_ne_zero hn) (hchar ▸ hc)

theorem takeDigits_toDigits (n : Nat) :
    takeDigits (Nat.toDigits 10 n) = ((Nat.toDigits 10 n).map digitValue, []) := by
  have hdigit : ∀ c ∈ Nat.toDigits 10 n, c.isDigit = true := fun _ => isDigit_of_mem_toDigits
  rw [takeDigits, List.takeWhile_eq_self_iff.mpr hdigit, List.dropWhile_eq_nil_iff.mpr hdigit]

theorem numberText_toDigits (n : Nat) :
    numberText (Nat.toDigits 10 n) =
      some (⟨false, (Nat.toDigits 10 n).map digitValue, none, none⟩, []) := by
  have hunsigned : takeMinus (Nat.toDigits 10 n) = (false, Nat.toDigits 10 n) := by
    obtain ⟨c, ds, hds⟩ := exists_toDigits_eq_cons n
    have hdigit : c.isDigit = true := isDigit_of_mem_toDigits (n := n) (by simp [hds])
    have hminus : c ≠ '-' := by
      rintro rfl
      simp at hdigit
    simp [hds, takeMinus, hminus]
  simp only [numberText, hunsigned, takeDigits_toDigits, if_neg (toDigits_wellFormed n)]
  rfl

theorem readNumber_toDigits {n : Nat} (h : n < naturalLimit) :
    readNumber (Nat.toDigits 10 n) = .ok (.natural n, []) := by
  simp [readNumber, numberText_toDigits, NumberText.value?, digitsValue_toDigits, h]

theorem Number.readable_natural {n : Nat} (h : n < naturalLimit) : (Number.natural n).Readable :=
  ⟨.natural n, readNumber_toDigits h⟩

theorem noControl_toDigits (n : Nat) : NoControl (Nat.toDigits 10 n) := by
  intro d hd
  have hvalue : 48 ≤ d.toNat := (Char.isDigit_iff_toNat.mp (isDigit_of_mem_toDigits hd)).1
  omega

/-- **A whole number is read back**, up to the end of its digits. -/
theorem reads_readNatural {n : Nat} (h : n < naturalLimit) :
    Reads readNatural (Nat.toDigits 10 n) n := by
  intro rest hr
  obtain ⟨c, ds, hds⟩ := exists_toDigits_eq_cons n
  have hdigit : c.isDigit = true := isDigit_of_mem_toDigits (n := n) (by simp [hds])
  have hnumber := readNumber_append hr (Nat.toDigits 10 n)
  rw [readNumber_toDigits h, hds, List.cons_append] at hnumber
  rw [hds, List.cons_append, readNatural, skipBlanks_cons (isBlank_of_number (Or.inr hdigit))]
  simp only [hdigit, or_true, if_true, hnumber]
  rfl

end Baseline.Json
