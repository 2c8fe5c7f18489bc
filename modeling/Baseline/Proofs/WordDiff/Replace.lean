import Mathlib.Data.List.Infix
import Baseline.WordDiff.Page

/-!
# Replacing every occurrence

`replaceAll` goes through a text from the left.  Where `old` stands it is replaced
(`replaceAll_old`), and what `old` does not stand in is passed over
(`replaceAll_append`): no end of it, with what follows, may begin with `old`.  That is
seen most easily when the first character of `old` is not in it
(`replaceAll_append_of_head`).
-/

namespace Baseline.WordDiff

variable {old new : List Char}

@[simp] theorem replaceAll_nil (old new : List Char) : replaceAll old new [] = [] := by
  rw [replaceAll]

/-- **Where the old text stands it is replaced.** -/
theorem replaceAll_old (h : old ≠ []) (rest : List Char) :
    replaceAll old new (old ++ rest) = new ++ replaceAll old new rest := by
  obtain ⟨c, old, rfl⟩ := List.exists_cons_of_ne_nil h
  have hbegins : (c :: old).isPrefixOf (c :: (old ++ rest)) = true :=
    List.isPrefixOf_iff_prefix.mpr (List.prefix_append _ _)
  rw [List.cons_append, replaceAll, if_pos hbegins]
  simp

theorem replaceAll_cons {c : Char} {rest : List Char} (h : ¬ old <+: c :: rest) :
    replaceAll old new (c :: rest) = c :: replaceAll old new rest := by
  rw [replaceAll, if_neg fun hbegins => h (List.isPrefixOf_iff_prefix.mp hbegins)]

/-- **What the old text does not stand in is passed over.** -/
theorem replaceAll_append {u v : List Char} (h : ∀ s, s <:+ u → s ≠ [] → ¬ old <+: s ++ v) :
    replaceAll old new (u ++ v) = u ++ replaceAll old new v := by
  induction u with
  | nil => rfl
  | cons c u ih =>
    have hc : ¬ old <+: c :: (u ++ v) := h (c :: u) List.suffix_rfl (by simp)
    rw [List.cons_append, replaceAll_cons hc, ih, List.cons_append]
    intro s hs
    exact h s (hs.trans (List.suffix_cons c u))

theorem replaceAll_append_of_head {c : Char} {u : List Char} (h : c ∉ u) (v : List Char) :
    replaceAll (c :: old) new (u ++ v) = u ++ replaceAll (c :: old) new v := by
  apply replaceAll_append
  intro s hs hne hbegins
  obtain ⟨d, s, rfl⟩ := List.exists_cons_of_ne_nil hne
  rw [List.cons_append, List.cons_prefix_cons] at hbegins
  apply h
  exact hs.mem (hbegins.1 ▸ List.mem_cons_self)

end Baseline.WordDiff
