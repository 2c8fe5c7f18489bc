import Baseline.Diff.Unified
import Baseline.Proofs.Text.Encoding

/-!
# Whole lines

A line that has its end, and no end before that, is a line of its own in front of any text that
does not start with a line feed (`lines_append`); a line feed there would belong to a carriage
return at the end of the line.  So texts of such lines are read back line by line
(`lines_flatten`).

The lines of a byte string are such lines, but for the last one, which may lack its end
(`ended_or_plain`).  The lines of a hunk all have one (`ended_lineText`), since the writer gives
the line without an end a line feed.
-/

namespace Baseline.Diff

/-- No line feed and no carriage return. -/
def Plain (s : Bytes) : Prop := ∀ b ∈ s, b ≠ lineFeed ∧ b ≠ carriageReturn

/-- A line with its end, and no end before that. -/
inductive Ended : Bytes → Prop
  | feed : Ended [lineFeed]
  | carriage : Ended [carriageReturn]
  | both : Ended [carriageReturn, lineFeed]
  | cons {b : UInt8} {l : Bytes} (hb : b ≠ lineFeed ∧ b ≠ carriageReturn) (h : Ended l) :
    Ended (b :: l)

theorem plain_nil : Plain [] := fun _ hb => absurd hb List.not_mem_nil

theorem plain_cons {b : UInt8} {s : Bytes} :
    Plain (b :: s) ↔ (b ≠ lineFeed ∧ b ≠ carriageReturn) ∧ Plain s := List.forall_mem_cons

namespace Ended

variable {s l : Bytes}

theorem append (hs : Plain s) (h : Ended l) : Ended (s ++ l) := by
  induction s with
  | nil => exact h
  | cons b s ih =>
    obtain ⟨hb, hs⟩ := plain_cons.mp hs
    exact .cons hb (ih hs)

theorem ne_nil (h : Ended l) : l ≠ [] := by
  cases h <;> exact List.cons_ne_nil _ _

theorem isTerminated (h : Ended l) : isTerminated l = true := by
  induction h with
  | feed | carriage | both => rfl
  | @cons b l _ h ih =>
    obtain ⟨c, l, rfl⟩ := List.exists_cons_of_ne_nil h.ne_nil
    rwa [Diff.isTerminated, List.getLast?_cons_cons]

end Ended

/-! ### Reading lines -/

theorem lines_cons {b : UInt8} {s : Bytes} (hb : b ≠ lineFeed ∧ b ≠ carriageReturn) (hs : s ≠ []) :
    lines (b :: s) = prepend b (lines s) := by
  cases s with
  | nil => exact absurd rfl hs
  | cons c s => rw [lines, if_neg hb.1, if_neg hb.2]

/-- **A whole line in front of a text** is its first line. -/
theorem lines_append {l rest : Bytes} (h : Ended l) (hrest : rest.head? ≠ some lineFeed) :
    lines (l ++ rest) = l :: lines rest := by
  induction h with
  | feed => cases rest <;> rfl
  | both => rfl
  | carriage =>
    cases rest with
    | nil => rfl
    | cons c rest =>
      have hc : c ≠ lineFeed := by simpa using hrest
      rw [List.singleton_append, lines, if_neg (by decide), if_pos rfl, if_neg hc]
  | @cons b l hb h ih =>
    rw [List.cons_append, lines_cons hb (List.append_ne_nil_of_left_ne_nil h.ne_nil _), ih]
    rfl

/-- **Lines laid end to end** are read back when each of them is whole. -/
theorem lines_flatten {ls : List Bytes} (h : ∀ l ∈ ls, Ended l ∧ l.head? ≠ some lineFeed) :
    lines ls.flatten = ls := by
  induction ls with
  | nil => rfl
  | cons l ls ih =>
    obtain ⟨hl, hls⟩ := List.forall_mem_cons.mp h
    have hrest : ls.flatten.head? ≠ some lineFeed := by
      cases ls with
      | nil => simp
      | cons next ls =>
        obtain ⟨hnext, hhead⟩ := hls next List.mem_cons_self
        obtain ⟨b, s, rfl⟩ := List.exists_cons_of_ne_nil hnext.ne_nil
        exact hhead
    rw [List.flatten_cons, lines_append hl.1 hrest, ih hls]

/-! ### Lines that are read and written -/

theorem Plain.isTerminated {l : Bytes} (h : Plain l) : isTerminated l = false := by
  rw [Diff.isTerminated]
  split
  · rename_i b hb
    obtain ⟨hfeed, hreturn⟩ := h b (List.mem_of_getLast? hb)
    simp [hfeed, hreturn]
  · rfl

theorem mem_prepend {b : UInt8} {l : Bytes} {ls : List Bytes} (h : l ∈ prepend b ls) :
    l ∈ ls ∨ l = [b] ∨ ∃ l' ∈ ls, l = b :: l' := by
  cases ls with
  | nil => exact .inr (.inl (List.mem_singleton.mp h))
  | cons l' more =>
    rcases List.mem_cons.mp h with rfl | hl
    · exact .inr (.inr ⟨l', List.mem_cons_self, rfl⟩)
    · exact .inl (List.mem_cons_of_mem _ hl)

/-- **The lines of a byte string** are whole, but for one that lacks an end. -/
theorem ended_or_plain {s l : Bytes} (h : l ∈ lines s) : Ended l ∨ Plain l := by
  fun_induction lines s generalizing l with
  | case1 => exact absurd h List.not_mem_nil
  | case2 b =>
    obtain rfl := List.mem_singleton.mp h
    by_cases hfeed : b = lineFeed
    · exact .inl (hfeed ▸ .feed)
    by_cases hreturn : b = carriageReturn
    · exact .inl (hreturn ▸ .carriage)
    · exact .inr (plain_cons.mpr ⟨⟨hfeed, hreturn⟩, plain_nil⟩)
  | case3 c rest ih =>
    rcases List.mem_cons.mp h with rfl | h
    · exact .inl .feed
    · exact ih h
  | case4 rest _ ih =>
    rcases List.mem_cons.mp h with rfl | h
    · exact .inl .both
    · exact ih h
  | case5 c rest _ _ ih =>
    rcases List.mem_cons.mp h with rfl | h
    · exact .inl .carriage
    · exact ih h
  | case6 b c rest hfeed hreturn ih =>
    rcases mem_prepend h with h | rfl | ⟨l, hl, rfl⟩
    · exact ih h
    · exact .inr (plain_cons.mpr ⟨⟨hfeed, hreturn⟩, plain_nil⟩)
    · rcases ih hl with hl | hl
      · exact .inl (.cons ⟨hfeed, hreturn⟩ hl)
      · exact .inr (plain_cons.mpr ⟨⟨hfeed, hreturn⟩, hl⟩)

theorem Mark.byte_ne (m : Mark) : m.byte ≠ lineFeed ∧ m.byte ≠ carriageReturn := by
  cases m <;> decide

/-- **A line of a hunk** is whole. -/
theorem ended_lineText {s l : Bytes} (m : Mark) (h : l ∈ lines s) : Ended (lineText (m, l)) := by
  refine .cons m.byte_ne ?_
  rcases ended_or_plain h with hl | hl
  · rw [hl.isTerminated, if_pos rfl, List.append_nil]
    exact hl
  · rw [hl.isTerminated, if_neg Bool.false_ne_true]
    exact .append hl .feed

/-- A text without a line feed and a carriage return. -/
theorem plain_encode {s : String} (h : ∀ c ∈ s.toList, c ≠ '\n' ∧ c ≠ '\r') :
    Plain (Utf8.encode s) := by
  intro b hb
  constructor
  · rintro rfl
    obtain ⟨c, hc, heq⟩ := Utf8.mem_encode hb (by decide)
    exact (h c hc).1 (Char.ext (UInt32.toNat_inj.mp heq))
  · rintro rfl
    obtain ⟨c, hc, heq⟩ := Utf8.mem_encode hb (by decide)
    exact (h c hc).2 (Char.ext (UInt32.toNat_inj.mp heq))

end Baseline.Diff
