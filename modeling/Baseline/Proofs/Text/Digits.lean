import Mathlib.Data.Nat.Basic

/-!
# Decimal digits

A number is written in decimal digits, without zeros in front unless it is zero
(`head?_toDigits`), and its digits spell it (`foldl_toDigits`), whatever number of
zeros is put in front of them (`foldl_zeros`).
-/

namespace Baseline.Text

theorem isDigit_of_mem_toDigits {n : Nat} {c : Char} (h : c ∈ Nat.toDigits 10 n) :
    c.isDigit = true := Nat.isDigit_of_mem_toDigits (by decide) (by decide) h

theorem exists_toDigits_eq_cons (n : Nat) : ∃ c ds, Nat.toDigits 10 n = c :: ds :=
  List.exists_cons_of_ne_nil Nat.toDigits_ne_nil

/-- **A number does not start with a zero**, unless it is zero. -/
theorem head?_toDigits {n : Nat} (h : 0 < n) : (Nat.toDigits 10 n).head? ≠ some '0' := by
  induction n using Nat.strongRecOn with
  | ind n ih =>
    by_cases hsmall : n < 10
    · rw [Nat.toDigits_of_lt_base hsmall, List.head?_singleton, Ne, Option.some.injEq,
        Nat.digitChar_eq_zero]
      omega
    · rw [Nat.toDigits_of_base_le (by decide) (Nat.le_of_not_lt hsmall), List.head?_append]
      obtain ⟨c, ds, hds⟩ := exists_toDigits_eq_cons (n / 10)
      have hfirst := ih (n / 10) (by omega) (by omega)
      rw [hds] at hfirst ⊢
      exact hfirst

/-- **The digits of a number spell it.** -/
theorem foldl_toDigits (n : Nat) :
    (Nat.toDigits 10 n).foldl (fun m c => m * 10 + (c.toNat - 48)) 0 = n := by
  have hvalue := Nat.ofDigitChars_toDigits (b := 10) (n := n) (by decide) (by decide)
  rw [Nat.ofDigitChars_eq_foldl] at hvalue
  simp only [Nat.mul_comm 10] at hvalue
  exact hvalue

/-- Zeros in front of digits say nothing. -/
theorem foldl_zeros (k : Nat) (ds : List Char) :
    (List.replicate k '0' ++ ds).foldl (fun m c => m * 10 + (c.toNat - 48)) 0 =
      ds.foldl (fun m c => m * 10 + (c.toNat - 48)) 0 := by
  induction k with
  | zero => rfl
  | succ k ih => exact ih

end Baseline.Text
