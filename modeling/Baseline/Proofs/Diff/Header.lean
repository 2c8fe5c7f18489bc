import Baseline.Diff.Unified
import Baseline.Proofs.Text.Digits
import Mathlib.Data.List.TakeWhile

/-!
# Headers

The header of a hunk names a range of lines on each side.  A reader finds the two ranges between
the blanks (`readHeader`) and the numbers of a range on both sides of its comma (`readRange`).  A
range without a comma is one line, and an empty one names the line before it instead of its first
line.  So a header is read back as it was meant: `readHeader_header`.
-/

namespace Baseline.Diff

/-- The number that digits spell. -/
def number (digits : List Char) : Nat := digits.foldl (fun n c => n * 10 + (c.toNat - 48)) 0

/-- The first line of a range, counted from zero, and how many lines it has. -/
def readRange (text : List Char) : Nat × Nat :=
  match text.dropWhile (· ≠ ',') with
  | [] => (number text - 1, 1)
  | _ :: count =>
    if number count = 0 then (number (text.takeWhile (· ≠ ',')), 0)
    else (number (text.takeWhile (· ≠ ',')) - 1, number count)

/-- The ranges of a header: what stands behind its two signs, up to a blank. -/
def readHeader (text : List Char) : (Nat × Nat) × (Nat × Nat) :=
  let ranges := text.drop 4
  (readRange (ranges.takeWhile (· ≠ ' ')),
    readRange (((ranges.dropWhile (· ≠ ' ')).drop 2).takeWhile (· ≠ ' ')))

/-! ### Numbers -/

theorem toList_toString (n : Nat) : (toString n).toList = Nat.toDigits 10 n := by simp

theorem isDigit_of_mem_toString {n : Nat} {c : Char} (h : c ∈ (toString n).toList) :
    c.isDigit = true := by
  rw [toList_toString] at h
  exact Text.isDigit_of_mem_toDigits h

theorem ne_comma_of_mem_toString {n : Nat} :
    ∀ c ∈ (toString n).toList, decide (c ≠ ',') = true := by
  intro c hc
  have hdigit := isDigit_of_mem_toString hc
  refine decide_eq_true ?_
  rintro rfl
  cases hdigit

theorem number_toString (n : Nat) : number (toString n).toList = n := by
  rw [toList_toString]
  exact Text.foldl_toDigits n

/-! ### Ranges -/

/-- A range of one line. -/
theorem readRange_toString (n : Nat) : readRange (toString n).toList = (n - 1, 1) := by
  have hdrop := List.dropWhile_eq_nil_iff.mpr (@ne_comma_of_mem_toString n)
  rw [readRange, hdrop, number_toString]

/-- A range with a comma. -/
theorem readRange_comma (n count : Nat) :
    readRange ((toString n).toList ++ ',' :: (toString count).toList) =
      if count = 0 then (n, 0) else (n - 1, count) := by
  have htake : ((toString n).toList ++ ',' :: (toString count).toList).takeWhile (· ≠ ',') =
      (toString n).toList := by
    rw [List.takeWhile_append_of_pos ne_comma_of_mem_toString]
    exact List.append_nil _
  have hdrop : ((toString n).toList ++ ',' :: (toString count).toList).dropWhile (· ≠ ',') =
      ',' :: (toString count).toList := by
    rw [List.dropWhile_append_of_pos ne_comma_of_mem_toString]
    rfl
  rw [readRange, hdrop, htake, number_toString]
  dsimp only
  rw [number_toString]

/-- **A range is read back.** -/
theorem readRange_rangeText (first past : Nat) :
    readRange (rangeText first past).toList = (first, past - first) := by
  rw [rangeText]
  split
  · rename_i hone
    rw [readRange_toString, hone, Nat.add_sub_cancel]
  split
  · rename_i hnone
    rw [String.toList_append, show ",0".toList = ',' :: (toString 0).toList from rfl,
      readRange_comma, if_pos rfl, hnone]
  · rename_i hmany
    rw [String.toList_append, String.toList_append, show ",".toList = [','] from rfl,
      List.append_assoc, List.singleton_append, readRange_comma, if_neg hmany, Nat.add_sub_cancel]

/-! ### The characters of a header -/

theorem mem_rangeText {first past : Nat} {c : Char} (h : c ∈ (rangeText first past).toList) :
    c.isDigit = true ∨ c = ',' := by
  rw [rangeText] at h
  split at h
  · exact .inl (isDigit_of_mem_toString h)
  split at h
  · rw [String.toList_append, List.mem_append] at h
    rcases h with h | h
    · exact .inl (isDigit_of_mem_toString h)
    · rcases List.mem_cons.mp h with rfl | h
      · exact .inr rfl
      · obtain rfl := List.mem_singleton.mp h
        exact .inl rfl
  · rw [String.toList_append, String.toList_append, List.mem_append, List.mem_append] at h
    rcases h with (h | h) | h
    · exact .inl (isDigit_of_mem_toString h)
    · exact .inr (List.mem_singleton.mp h)
    · exact .inl (isDigit_of_mem_toString h)

theorem ne_blank_of_mem_rangeText {first past : Nat} :
    ∀ c ∈ (rangeText first past).toList, decide (c ≠ ' ') = true := by
  intro c hc
  refine decide_eq_true ?_
  rintro rfl
  rcases mem_rangeText hc with hdigit | hcomma
  · cases hdigit
  · cases hcomma

theorem toList_header (h : Hunk) : h.header.toList =
    '@' :: '@' :: ' ' :: '-' :: ((rangeText h.oldStart h.oldEnd).toList ++
      ' ' :: '+' :: ((rangeText h.newStart h.newEnd).toList ++ [' ', '@', '@', '\n'])) := by
  simp [Hunk.header, String.toList_append]

/-- **A header is read back.** -/
theorem readHeader_header (h : Hunk) : readHeader h.header.toList =
    ((h.oldStart, h.oldEnd - h.oldStart), (h.newStart, h.newEnd - h.newStart)) := by
  have hranges : h.header.toList.drop 4 = (rangeText h.oldStart h.oldEnd).toList ++
      ' ' :: '+' :: ((rangeText h.newStart h.newEnd).toList ++ [' ', '@', '@', '\n']) := by
    rw [toList_header]
    rfl
  have hold : (h.header.toList.drop 4).takeWhile (· ≠ ' ') =
      (rangeText h.oldStart h.oldEnd).toList := by
    rw [hranges, List.takeWhile_append_of_pos ne_blank_of_mem_rangeText]
    exact List.append_nil _
  have hsecond : ((h.header.toList.drop 4).dropWhile (· ≠ ' ')).drop 2 =
      (rangeText h.newStart h.newEnd).toList ++ [' ', '@', '@', '\n'] := by
    rw [hranges, List.dropWhile_append_of_pos ne_blank_of_mem_rangeText]
    rfl
  have hnew : (((h.header.toList.drop 4).dropWhile (· ≠ ' ')).drop 2).takeWhile (· ≠ ' ') =
      (rangeText h.newStart h.newEnd).toList := by
    rw [hsecond, List.takeWhile_append_of_pos ne_blank_of_mem_rangeText]
    exact List.append_nil _
  rw [readHeader, hold, hnew, readRange_rangeText, readRange_rangeText]

end Baseline.Diff
