import Baseline.Proofs.Diff.Header
import Baseline.Proofs.Diff.Hunk
import Baseline.Proofs.Diff.Identical

/-!
# A diff as a patch

The lines of a diff are the two names and then the lines of its hunks, each header and each line of
a side on a line of its own (`lines_unified`).  The hunks turn the lines of one side into the lines
of the other (`turns_hunks`), which is all of `unified_turns`.

A header says where its hunk stands when the hunk starts and ends with kept lines
(`Hunk.Stands.placed`).  A hunk that starts with a change stands where both sides start, one that
ends with a change where both end, and the header may be wrong there about the side that the
change is not on (`not_always_placed`): changes that were moved past each other still say
where they were before.

A diff without a changed line is one of equal sides, so a diff is empty exactly when
the two byte strings are equal (`unified_eq_nil_or_changed`).
-/

namespace Baseline.Diff

/-! ### The lines of a diff -/

/-- A text on one line. -/
def OneLine (s : String) : Prop := ∀ c ∈ s.toList, c ≠ '\n' ∧ c ≠ '\r'

/-- The lines of a hunk as it is written, after the line of its header. -/
def Hunk.text (h : Hunk) : List Bytes := Utf8.encode h.header :: h.lines.map lineText

/-- The lines of hunks under the two names; nothing when there are no hunks. -/
def patchLines (expectedName actualName : String) : List Hunk → List Bytes
  | [] => []
  | hs => Utf8.encode ("--- " ++ expectedName ++ "\n") ::
    Utf8.encode ("+++ " ++ actualName ++ "\n") :: hs.flatMap Hunk.text

theorem patchLines_of_ne_nil (expectedName actualName : String) {hs : List Hunk} (hne : hs ≠ []) :
    patchLines expectedName actualName hs = Utf8.encode ("--- " ++ expectedName ++ "\n") ::
      Utf8.encode ("+++ " ++ actualName ++ "\n") :: hs.flatMap Hunk.text := by
  cases hs with
  | nil => exact absurd rfl hne
  | cons => rfl

section

variable {expected actual : Bytes} {expectedName actualName : String} {h : Hunk}

/-- A text with its end. -/
theorem ended_encode {s : String} (hs : OneLine s) : Ended (Utf8.encode (s ++ "\n")) := by
  rw [Utf8.encode_append]
  exact .append (plain_encode hs) .feed

theorem oneLine_rangeText (first past : Nat) : OneLine (rangeText first past) := by
  intro c hc
  rcases mem_rangeText hc with hdigit | rfl
  · constructor <;> (rintro rfl; cases hdigit)
  · decide

theorem OneLine.append {s t : String} (hs : OneLine s) (ht : OneLine t) : OneLine (s ++ t) := by
  intro c hc
  rw [String.toList_append, List.mem_append] at hc
  exact hc.elim (hs c) (ht c)

instance (s : String) : Decidable (OneLine s) :=
  List.decidableBAll (fun c => c ≠ '\n' ∧ c ≠ '\r') s.toList

theorem ended_header (h : Hunk) : Ended (Utf8.encode h.header) := by
  have hheader : h.header = "@@ -" ++ rangeText h.oldStart h.oldEnd ++ " +" ++
      rangeText h.newStart h.newEnd ++ " @@" ++ "\n" := by
    rw [Hunk.header, @String.append_assoc _ " @@" "\n"]
    rfl
  have hold := oneLine_rangeText h.oldStart h.oldEnd
  have hnew := oneLine_rangeText h.newStart h.newEnd
  rw [hheader]
  exact ended_encode <| (((OneLine.append (by decide) hold).append (by decide)).append hnew).append
    (by decide)

theorem head?_encode {s : String} {b : UInt8} (hs : (Utf8.encode s).head? = some b) (t : String) :
    (Utf8.encode (s ++ t)).head? = some b := by
  rw [Utf8.encode_append, List.head?_append, hs]
  rfl

theorem mem_shown {old new : List Bytes} {e : Edit} {l : Mark × Bytes}
    (hl : l ∈ e.shown old new) : l.2 ∈ old ∨ l.2 ∈ new := by
  have hold : ∀ m, l ∈ (e.oldLines old).map (m, ·) → l.2 ∈ old := by
    intro m hm
    obtain ⟨t, ht, rfl⟩ := List.mem_map.mp hm
    exact List.mem_of_mem_drop (List.mem_of_mem_take ht)
  have hnew : ∀ m, l ∈ (e.newLines new).map (m, ·) → l.2 ∈ new := by
    intro m hm
    obtain ⟨t, ht, rfl⟩ := List.mem_map.mp hm
    exact List.mem_of_mem_drop (List.mem_of_mem_take ht)
  rw [Edit.shown] at hl
  split at hl
  · exact .inl (hold _ hl)
  · exact .inl (hold _ hl)
  · exact .inr (hnew _ hl)
  · exact (List.mem_append.mp hl).imp (hold _) (hnew _)

/-- The lines that a hunk shows are lines of the two sides. -/
theorem mem_lines_of_hunk (hh : h ∈ hunks expected actual) {l : Mark × Bytes} (hl : l ∈ h.lines) :
    l.2 ∈ lines expected ∨ l.2 ∈ lines actual := by
  obtain ⟨g, -, hg⟩ := List.mem_filterMap.mp hh
  rw [Hunk.ofGroup?] at hg
  split at hg
  · obtain rfl := Option.some.inj hg
    obtain ⟨e, -, he⟩ := List.mem_flatMap.mp hl
    exact mem_shown he
  · cases hg

/-- **The lines of a hunk** are whole, and none is only a line feed. -/
theorem ended_of_mem_text (hh : h ∈ hunks expected actual) {t : Bytes} (ht : t ∈ h.text) :
    Ended t ∧ t.head? ≠ some lineFeed := by
  rcases List.mem_cons.mp ht with rfl | ht
  · have hhead : (Utf8.encode h.header).head? = some 64 := by
      rw [Hunk.header, String.append_assoc, String.append_assoc, String.append_assoc]
      exact head?_encode rfl _
    exact ⟨ended_header h, by rw [hhead]; decide⟩
  · obtain ⟨⟨m, l⟩, hl, rfl⟩ := List.mem_map.mp ht
    refine ⟨(mem_lines_of_hunk hh hl).elim (ended_lineText m) (ended_lineText m), ?_⟩
    rw [lineText, List.head?_cons, Ne, Option.some.injEq]
    exact m.byte_ne.1

theorem write_eq (hh : h.lines ≠ []) : h.write = h.text.flatten := by
  rw [Hunk.write, if_neg hh, Hunk.text, List.flatten_cons, List.flatMap_def]

theorem flatMap_write (expected actual : Bytes) :
    (hunks expected actual).flatMap Hunk.write =
      ((hunks expected actual).flatMap Hunk.text).flatten := by
  have hwrite : ∀ g ∈ hunks expected actual, g.write = g.text.flatten := by
    intro g hg
    obtain ⟨i, j, hstands⟩ := (turns_hunks expected actual).exists_ok g hg
    exact write_eq hstands.nonempty
  rw [List.flatMap_congr hwrite, List.flatMap_def, List.flatMap_def, List.flatten_flatten,
    List.map_map]
  rfl

/-- A diff is its lines, one after the other. -/
theorem unified_eq (expected actual : Bytes) (expectedName actualName : String) :
    unified expected actual expectedName actualName =
      (patchLines expectedName actualName (hunks expected actual)).flatten := by
  have hwrite := flatMap_write expected actual
  rw [unified]
  generalize hunks expected actual = hs at hwrite ⊢
  split
  · rfl
  · rename_i hne
    have hnames : "--- " ++ expectedName ++ "\n+++ " ++ actualName ++ "\n" =
        "--- " ++ expectedName ++ "\n" ++ ("+++ " ++ actualName ++ "\n") := by
      rw [show "\n+++ " = "\n" ++ "+++ " from rfl]
      simp only [String.append_assoc]
    rw [patchLines_of_ne_nil _ _ hne, hwrite, hnames, Utf8.encode_append, List.flatten_cons,
      List.flatten_cons, List.append_assoc]

/-- **The lines of a diff.** -/
theorem lines_unified (hexpected : OneLine expectedName) (hactual : OneLine actualName) :
    lines (unified expected actual expectedName actualName) =
      patchLines expectedName actualName (hunks expected actual) := by
  have htext : ∀ t ∈ (hunks expected actual).flatMap Hunk.text,
      Ended t ∧ t.head? ≠ some lineFeed := by
    intro t ht
    obtain ⟨g, hg, ht⟩ := List.mem_flatMap.mp ht
    exact ended_of_mem_text hg ht
  rw [unified_eq]
  refine lines_flatten ?_
  generalize hunks expected actual = hs at htext ⊢
  cases hs with
  | nil => exact fun t ht => absurd ht List.not_mem_nil
  | cons g gs =>
    refine List.forall_mem_cons.mpr ⟨⟨?_, ?_⟩, List.forall_mem_cons.mpr ⟨⟨?_, ?_⟩, htext⟩⟩
    · exact ended_encode (OneLine.append (by decide) hexpected)
    · rw [String.append_assoc, head?_encode (show (Utf8.encode "--- ").head? = some 45 from rfl)]
      decide
    · exact ended_encode (OneLine.append (by decide) hactual)
    · rw [String.append_assoc, head?_encode (show (Utf8.encode "+++ ").head? = some 43 from rfl)]
      decide

end

/-! ### Hunks and their headers -/

section

variable {i j : Nat} {h : Hunk}

namespace Hunk

/-- Read by its header, a hunk has the lines of its old side at the old line `i`, and those of its
new side at the new line `j`. -/
def Placed (i j : Nat) (h : Hunk) : Prop :=
  readHeader h.header.toList = ((i, h.oldSide.length), (j, h.newSide.length))

instance (i j : Nat) (h : Hunk) : Decidable (h.Placed i j) := inferInstanceAs (Decidable (_ = _))

/-- **A hunk between kept lines** is where its header says. -/
theorem Stands.placed {N M : Nat} (h' : h.Stands N M i j) (hopening : h.opening = [])
    (hclosing : h.closing = []) : h.Placed i j := by
  rw [Placed, readHeader_header, h'.oldStart (.inl hopening), h'.newStart (.inl hopening),
    h'.oldEnd (.inl hclosing), h'.newEnd (.inl hclosing), Nat.add_sub_cancel_left,
    Nat.add_sub_cancel_left]

end Hunk

end

/-- **A diff is a patch**: its lines are the names and the hunks, and the hunks turn the lines of
one side into the lines of the other.  A hunk that starts and ends with kept lines stands where
its header says, and what the header of any other one says is right as far as `Hunk.Stands` goes. -/
theorem unified_turns (expected actual : Bytes) {expectedName actualName : String}
    (hexpected : OneLine expectedName) (hactual : OneLine actualName) :
    lines (unified expected actual expectedName actualName) =
        patchLines expectedName actualName (hunks expected actual) ∧
      Turns (fun i j h => h.Stands (lines expected).length (lines actual).length i j ∧
          (h.opening = [] → h.closing = [] → h.Placed i j))
        0 0 (lines expected) (lines actual) (hunks expected actual) :=
  ⟨lines_unified hexpected hactual,
    (turns_hunks expected actual).mono fun _ _ _ h => ⟨h, h.placed⟩⟩

theorem unified_turns_of_replaced_line : OneLine "e" ∧ OneLine "a" ∧
    lines (unified [98, 10] [97, 10] "e" "a") = patchLines "e" "a" (hunks [98, 10] [97, 10]) ∧
      Turns (fun i j h => h.Stands (lines [98, 10]).length (lines [97, 10]).length i j ∧
          (h.opening = [] → h.closing = [] → h.Placed i j))
        0 0 (lines [98, 10]) (lines [97, 10]) (hunks [98, 10] [97, 10]) :=
  ⟨by decide, by decide, unified_turns _ _ (by decide) (by decide)⟩

/-- **Not every hunk is where its header says.**  The lines `b`, `a` become `a`, `a`: the deletion
of the first line and the insertion of the last were moved past each other, and the header tells
of one line on each side where the hunk has two. -/
theorem not_always_placed :
    unified [98, 10, 97, 10] [97, 10, 97, 10] "e" "a" =
        Utf8.encode "--- e\n+++ a\n@@ -1 +2 @@\n-b\n a\n+a\n" ∧
      ¬ Turns (fun i j h => h.Placed i j) 0 0 (lines [98, 10, 97, 10]) (lines [97, 10, 97, 10])
        (hunks [98, 10, 97, 10] [97, 10, 97, 10]) := by
  refine ⟨by decide +kernel, fun h => ?_⟩
  have hhunk : (⟨0, 1, 1, 2, [(.deleted, [98, 10]), (.context, [97, 10]), (.inserted, [97, 10])]⟩ :
      Hunk) ∈ hunks [98, 10, 97, 10] [97, 10, 97, 10] := by decide +kernel
  obtain ⟨x, y, hplaced⟩ := h.exists_ok _ hhunk
  rw [Hunk.Placed, readHeader_header] at hplaced
  have hcount : 1 = 2 := congrArg (fun ranges => ranges.1.2) hplaced
  exact absurd hcount (by decide)

/-! ### Diffs without a change -/

/-- Hunks that only show kept lines change nothing. -/
theorem Turns.eq_of_context {ok : Nat → Nat → Hunk → Prop} {i j : Nat} {old new : List Bytes}
    {hs : List Hunk} (h : Turns ok i j old new hs)
    (hcontext : ∀ g ∈ hs, ∀ l ∈ g.lines, l.1 = .context) : old = new := by
  induction h with
  | rest => rfl
  | @hunk i j old new g hs kept _ _ ih =>
    obtain ⟨hfirst, hrest⟩ := List.forall_mem_cons.mp hcontext
    have hside : ∀ m : Mark, m ≠ .context → without m g.lines = g.lines.map Prod.snd := by
      intro m hm
      rw [without, List.filter_eq_self.mpr fun l hl => by simpa [hfirst l hl] using hm.symm]
    rw [ih hrest, Hunk.oldSide, Hunk.newSide, hside _ (by decide), hside _ (by decide)]

/-- A diff of different byte strings shows a changed line. -/
theorem exists_changed_of_ne {expected actual : Bytes} (hne : expected ≠ actual) :
    ∃ g ∈ hunks expected actual, ∃ l ∈ g.lines, l.1 ≠ .context := by
  by_contra hnone
  push Not at hnone
  have hlines := (turns_hunks expected actual).eq_of_context hnone
  rw [← flatten_lines expected, ← flatten_lines actual, hlines] at hne
  exact hne rfl

theorem unified_ne_nil {expected actual : Bytes} (hne : expected ≠ actual)
    (expectedName actualName : String) : unified expected actual expectedName actualName ≠ [] := by
  obtain ⟨g, hg, -⟩ := exists_changed_of_ne hne
  rw [unified_eq, patchLines_of_ne_nil _ _ (List.ne_nil_of_mem hg), List.flatten_cons,
    Utf8.encode_append, Utf8.encode_append]
  intro hnil
  cases hnil

/-- **A diff is empty exactly when nothing differs.**  Otherwise it has both names and whole lines
under them, and one of these is a changed line. -/
theorem unified_eq_nil_or_changed (expected actual : Bytes) (expectedName actualName : String) :
    (unified expected actual expectedName actualName = [] ↔ expected = actual) ∧
      (expected = actual ∨ ∃ (before : List Bytes) (l : Mark × Bytes) (after : List Bytes),
        l.1 ≠ .context ∧ (∀ t ∈ before ++ lineText l :: after, Ended t) ∧
        unified expected actual expectedName actualName =
          Utf8.encode ("--- " ++ expectedName ++ "\n") ++
            (Utf8.encode ("+++ " ++ actualName ++ "\n") ++
              (before ++ lineText l :: after).flatten)) := by
  by_cases heq : expected = actual
  · subst heq
    exact ⟨⟨fun _ => rfl, fun _ => unified_self ..⟩, .inl rfl⟩
  · obtain ⟨g, hg, l, hl, hchanged⟩ := exists_changed_of_ne heq
    have hlist : lineText l ∈ (hunks expected actual).flatMap Hunk.text :=
      List.mem_flatMap.mpr ⟨g, hg, List.mem_cons_of_mem _ (List.mem_map_of_mem hl)⟩
    obtain ⟨before, after, htext⟩ := List.append_of_mem hlist
    have hunified := unified_eq expected actual expectedName actualName
    rw [patchLines_of_ne_nil _ _ (List.ne_nil_of_mem hg), htext, List.flatten_cons,
      List.flatten_cons] at hunified
    refine ⟨⟨fun hnil => ?_, fun h => absurd h heq⟩,
      .inr ⟨before, l, after, hchanged, ?_, hunified⟩⟩
    · rw [hunified] at hnil
      have hname := (List.append_eq_nil_iff.mp hnil).1
      rw [Utf8.encode_append, Utf8.encode_append] at hname
      cases hname
    · intro t ht
      rw [← htext] at ht
      obtain ⟨g, hg, ht⟩ := List.mem_flatMap.mp ht
      exact (ended_of_mem_text hg ht).1

end Baseline.Diff
