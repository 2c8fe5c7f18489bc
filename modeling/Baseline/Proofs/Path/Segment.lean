import Baseline.Path

/-!
# Pieces of a path

A path cut at its slashes and put together again.  Two facts carry the rest
of the theory of paths:

* `segments_append_slash`: a slash cuts, so what stands before it and what
  stands after it are cut on their own;
* `bytes_eq`: the pieces with slashes between them are the path again.

A *name* (`IsName`) is a piece that is not empty, `.` or `..`.
-/

namespace Baseline.Path

/-- What a component can be called: no slash in it, and not empty, `.` or `..`. -/
structure IsName (n : Name) : Prop where
  ne_nil : n ≠ []
  no_slash : slash ∉ n
  ne_dot : n ≠ [dot]
  ne_dots : n ≠ [dot, dot]

/-! ### Cutting -/

theorem segments_cons_of_ne {b : UInt8} (h : b ≠ slash) (s : Bytes) :
    segments (b :: s) =
      match segments s with
      | [] => [[b]]
      | t :: more => (b :: t) :: more := if_neg h

theorem segments_ne_nil (s : Bytes) : segments s ≠ [] := by
  cases s with
  | nil => simp [segments]
  | cons b s =>
    by_cases hb : b = slash
    · simp [segments, hb]
    · rw [segments_cons_of_ne hb]
      split <;> simp

theorem segments_eq_singleton {s : Bytes} (h : slash ∉ s) : segments s = [s] := by
  induction s with
  | nil => rfl
  | cons b s ih =>
    simp only [List.mem_cons, not_or] at h
    rw [segments_cons_of_ne (Ne.symm h.1), ih h.2]

/-- **A slash cuts.** -/
theorem segments_append_slash (s t : Bytes) :
    segments (s ++ slash :: t) = segments s ++ segments t := by
  induction s with
  | nil => simp [segments]
  | cons b s ih =>
    by_cases hb : b = slash
    · simp [segments, hb, ih]
    · rw [List.cons_append, segments_cons_of_ne hb, segments_cons_of_ne hb, ih]
      cases hs : segments s with
      | nil => exact absurd hs (segments_ne_nil s)
      | cons u more => rfl

theorem no_slash_of_mem_segments {s u : Bytes} (h : u ∈ segments s) : slash ∉ u := by
  induction s generalizing u with
  | nil =>
    obtain rfl : u = [] := by simpa [segments] using h
    simp
  | cons b s ih =>
    by_cases hb : b = slash
    · simp only [segments, hb, if_true, List.mem_cons] at h
      rcases h with rfl | h
      · simp
      · exact ih h
    · rw [segments_cons_of_ne hb] at h
      cases hs : segments s with
      | nil => exact absurd hs (segments_ne_nil s)
      | cons v more =>
        rw [hs] at h ih
        rcases List.mem_cons.mp h with rfl | h
        · simp only [List.mem_cons, not_or]
          exact ⟨Ne.symm hb, ih (by simp)⟩
        · exact ih (by simp [h])

/-! ### Putting together -/

/-- **The pieces of a path with slashes between them are the path.** -/
theorem bytes_eq {s u : Bytes} {more : List Bytes} (h : segments s = u :: more) :
    u ++ more.flatMap (slash :: ·) = s := by
  induction s generalizing u more with
  | nil =>
    obtain ⟨rfl, rfl⟩ : [] = u ∧ [] = more := by simpa [segments] using h
    rfl
  | cons b s ih =>
    cases hs : segments s with
    | nil => exact absurd hs (segments_ne_nil s)
    | cons v rest =>
      have hvs := ih hs
      by_cases hb : b = slash
      · obtain ⟨rfl, rfl⟩ : [] = u ∧ v :: rest = more := by simpa [segments, hb, hs] using h
        simp [hb, hvs]
      · obtain ⟨rfl, rfl⟩ : b :: v = u ∧ rest = more := by
          simpa [segments_cons_of_ne hb, hs] using h
        simp [hvs]

theorem exists_last_slash {s : Bytes} (h : slash ∈ s) :
    ∃ before after, s = before ++ slash :: after ∧ slash ∉ after := by
  obtain ⟨after, before, hsplit, hafter⟩ :=
    List.eq_append_cons_of_mem (List.mem_reverse.mpr h)
  refine ⟨before.reverse, after.reverse, ?_, by simpa using hafter⟩
  simpa using congrArg List.reverse hsplit

/-- A byte string that is empty or ends in a slash has nothing after its last slash. -/
theorem segments_append_of_end {s t : Bytes} (hs : s = [] ∨ s.getLast? = some slash)
    (ht : slash ∉ t) :
    ∃ before, segments s = before ++ [[]] ∧ segments (s ++ t) = before ++ [t] := by
  rcases hs with rfl | hs
  · exact ⟨[], rfl, by simpa using segments_eq_singleton ht⟩
  · obtain ⟨u, rfl⟩ := List.getLast?_eq_some_iff.mp hs
    refine ⟨segments u, segments_append_slash u [], ?_⟩
    rw [List.append_assoc, List.singleton_append, segments_append_slash, segments_eq_singleton ht]

end Baseline.Path
