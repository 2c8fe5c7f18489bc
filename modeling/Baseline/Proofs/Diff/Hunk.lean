import Baseline.Proofs.Diff.Group
import Baseline.Proofs.Diff.Line

/-!
# Hunks as a patch

A hunk has two sides: its lines without the inserted ones are old lines, its lines without the
deleted ones are new lines.  `Turns` says that hunks turn the old lines into the new ones: on both
sides the lines are those of the hunks in their order, with the same lines between them.
-/

namespace Baseline.Diff

/-- The lines that do not have a mark. -/
def without (m : Mark) (ls : List (Mark × Bytes)) : List Bytes :=
  (ls.filter fun l => l.1 ≠ m).map Prod.snd

namespace Hunk

/-- The lines of the old side: what is kept and what is deleted. -/
def oldSide (h : Hunk) : List Bytes := without .inserted h.lines

/-- The lines of the new side: what is kept and what is inserted. -/
def newSide (h : Hunk) : List Bytes := without .deleted h.lines

/-- The marks in front of the first kept line. -/
def opening (h : Hunk) : List Mark := (h.lines.map Prod.fst).takeWhile (· ≠ .context)

/-- The marks behind the last kept line, from the end. -/
def closing (h : Hunk) : List Mark := (h.lines.map Prod.fst).reverse.takeWhile (· ≠ .context)

/-- What the header of a hunk says of the place where it stands, on sides of `N` and `M` lines.  A
hunk that starts with a kept line says where it starts on both sides, and one that ends with a kept
line where it ends.  Where there are changes in front of the first kept line, the start is right on
the side of these changes, and the hunk stands at the start of both sides; the same holds at the
end. -/
structure Stands (N M i j : Nat) (h : Hunk) : Prop where
  nonempty : h.lines ≠ []
  oldStart : h.opening = [] ∨ .deleted ∈ h.opening → h.oldStart = i
  newStart : h.opening = [] ∨ .inserted ∈ h.opening → h.newStart = j
  oldEnd : h.closing = [] ∨ .deleted ∈ h.closing → h.oldEnd = i + h.oldSide.length
  newEnd : h.closing = [] ∨ .inserted ∈ h.closing → h.newEnd = j + h.newSide.length
  first : h.opening ≠ [] → i = 0 ∧ j = 0
  last : h.closing ≠ [] → i + h.oldSide.length = N ∧ j + h.newSide.length = M

end Hunk

/-- Hunks that turn old lines into new ones, from the old line `i` and the new line `j` on.  Between
hunks the lines are the same, and a hunk stands for its own lines on both sides; `ok` may ask more
of a hunk where it stands. -/
inductive Turns (ok : Nat → Nat → Hunk → Prop) :
    Nat → Nat → List Bytes → List Bytes → List Hunk → Prop
  | rest (i j : Nat) (kept : List Bytes) : Turns ok i j kept kept []
  | hunk {i j : Nat} {old new : List Bytes} {h : Hunk} {hs : List Hunk} (kept : List Bytes)
    (hok : ok (i + kept.length) (j + kept.length) h)
    (hrest : Turns ok (i + kept.length + h.oldSide.length) (j + kept.length + h.newSide.length)
      old new hs) :
    Turns ok i j (kept ++ h.oldSide ++ old) (kept ++ h.newSide ++ new) (h :: hs)

section

variable {ok ok' : Nat → Nat → Hunk → Prop} {i j : Nat} {old new : List Bytes} {hs : List Hunk}

theorem Turns.mono (himp : ∀ x y g, ok x y g → ok' x y g) (h : Turns ok i j old new hs) :
    Turns ok' i j old new hs := by
  induction h with
  | rest i j kept => exact .rest i j kept
  | hunk kept hok _ ih => exact .hunk kept (himp _ _ _ hok) ih

/-- Every hunk stands somewhere. -/
theorem Turns.exists_ok (h : Turns ok i j old new hs) : ∀ g ∈ hs, ∃ x y, ok x y g := by
  induction h with
  | rest => simp
  | hunk kept hok _ ih => exact List.forall_mem_cons.mpr ⟨⟨_, _, hok⟩, ih⟩

end

section

variable {old new : List Bytes} {i j i' j' n : Nat} {e : Edit} {s : List Edit}

theorem without_append (m : Mark) (ls ls' : List (Mark × Bytes)) :
    without m (ls ++ ls') = without m ls ++ without m ls' := by
  simp [without]

theorem without_self (m : Mark) (ls : List Bytes) : without m (ls.map (m, ·)) = [] := by
  simp [without]

theorem without_of_ne {m m' : Mark} (h : m' ≠ m) (ls : List Bytes) :
    without m (ls.map (m', ·)) = ls := by
  simp [without, List.filter_map, Function.comp_def, h]

/-- Lines that are the same on both sides. -/
theorem take_drop_eq (h : Same old.toArray new.toArray i j n) :
    (old.drop i).take n = (new.drop j).take n := by
  refine List.ext_getElem? fun k => ?_
  rw [List.getElem?_take, List.getElem?_take]
  split
  · rename_i hk
    have hline := h k hk
    rw [List.getElem?_toArray, List.getElem?_toArray] at hline
    rwa [List.getElem?_drop, List.getElem?_drop]
  · rfl

/-- What an edit shows of each side. -/
theorem without_shown (h : Shows old.toArray new.toArray i j e) :
    without .inserted (e.shown old new) = (old.drop i).take e.oldLength ∧
      without .deleted (e.shown old new) = (new.drop j).take e.newLength := by
  cases h with
  | replace hm hn =>
    simp only [Edit.shown, without_append, without_self]
    rw [without_of_ne (by decide), without_of_ne (by decide)]
    exact ⟨List.append_nil _, rfl⟩
  | fits h =>
    cases h with
    | keep hn h =>
      refine ⟨without_of_ne (by decide) _, (without_of_ne (by decide) _).trans ?_⟩
      exact take_drop_eq h
    | delete hn o => exact ⟨without_of_ne (by decide) _, without_self _ _⟩
    | insert hn o => exact ⟨without_self _ _, without_of_ne (by decide) _⟩

theorem Runs.le {fits : Nat → Nat → Edit → Prop} (h : Runs fits i j s i' j') : i ≤ i' ∧ j ≤ j' := by
  induction h with
  | nil => exact ⟨Nat.le_refl _, Nat.le_refl _⟩
  | cons _ _ ih => omega

/-- What a part of a script shows of each side. -/
theorem without_flatMap_shown (h : Runs (Shows old.toArray new.toArray) i j s i' j') :
    without .inserted (s.flatMap (Edit.shown old new)) = (old.drop i).take (i' - i) ∧
      without .deleted (s.flatMap (Edit.shown old new)) = (new.drop j).take (j' - j) := by
  induction h with
  | nil i j => simp [without]
  | @cons i j i' j' e s he hs ih =>
    obtain ⟨hold, hnew⟩ := without_shown he
    have hle := hs.le
    rw [List.flatMap_cons, without_append, without_append, hold, hnew, ih.1, ih.2]
    constructor
    · rw [show i' - i = e.oldLength + (i' - (i + e.oldLength)) by omega, List.take_add,
        List.drop_drop]
    · rw [show j' - j = e.newLength + (j' - (j + e.newLength)) by omega, List.take_add,
        List.drop_drop]

/-! ### The marks at the ends of a hunk -/

/-- The marks of the lines that an edit shows. -/
def Edit.marks (old new : List Bytes) (e : Edit) : List Mark := (e.shown old new).map Prod.fst

theorem map_fst_mark (m : Mark) (ls : List Bytes) :
    (ls.map (m, ·)).map Prod.fst = List.replicate ls.length m := by
  rw [List.map_map]
  exact List.map_const' ..

theorem marks_keep (old new : List Bytes) (i j n : Nat) :
    (Edit.keep i j n).marks old new = List.replicate (min n (old.length - i)) .context := by
  have h := map_fst_mark .context ((old.drop i).take n)
  rwa [List.length_take, List.length_drop] at h

theorem marks_delete (old new : List Bytes) (i j n : Nat) :
    (Edit.delete i j n).marks old new = List.replicate (min n (old.length - i)) .deleted := by
  have h := map_fst_mark .deleted ((old.drop i).take n)
  rwa [List.length_take, List.length_drop] at h

theorem marks_insert (old new : List Bytes) (i j n : Nat) :
    (Edit.insert i j n).marks old new = List.replicate (min n (new.length - j)) .inserted := by
  have h := map_fst_mark .inserted ((new.drop j).take n)
  rwa [List.length_take, List.length_drop] at h

theorem marks_replace (old new : List Bytes) (i j m n : Nat) :
    (⟨.replace, i, j, m, n⟩ : Edit).marks old new =
      List.replicate (min m (old.length - i)) .deleted ++
        List.replicate (min n (new.length - j)) .inserted := by
  have hold := map_fst_mark .deleted ((old.drop i).take m)
  have hnew := map_fst_mark .inserted ((new.drop j).take n)
  rw [List.length_take, List.length_drop] at hold hnew
  rw [Edit.marks, Edit.shown, List.map_append]
  exact congrArg₂ (· ++ ·) hold hnew

namespace Shows

variable (h : Shows old.toArray new.toArray i j e)

include h

/-- A keep shows kept lines only, and a change none. -/
theorem context_iff {m : Mark} (hm : m ∈ e.marks old new) : m = .context ↔ e.isKeep = true := by
  cases h with
  | replace =>
    rw [marks_replace, List.mem_append, List.mem_replicate, List.mem_replicate] at hm
    rcases hm with ⟨-, rfl⟩ | ⟨-, rfl⟩ <;> simp [Edit.isKeep]
  | fits h =>
    cases h with
    | keep =>
      rw [marks_keep, List.mem_replicate] at hm
      simp [hm.2, Edit.isKeep, Edit.keep]
    | delete =>
      rw [marks_delete, List.mem_replicate] at hm
      simp [hm.2, Edit.isKeep, Edit.delete]
    | insert =>
      rw [marks_insert, List.mem_replicate] at hm
      simp [hm.2, Edit.isKeep, Edit.insert]

/-- An edit inside both sides shows a line. -/
theorem marks_ne_nil (hold : i + e.oldLength ≤ old.length) (hnew : j + e.newLength ≤ new.length) :
    e.marks old new ≠ [] := by
  refine List.ne_nil_of_length_pos ?_
  cases h with
  | replace hm hn =>
    rw [marks_replace, List.length_append, List.length_replicate]
    simp only at hold
    omega
  | fits h =>
    cases h with
    | keep hn =>
      rw [marks_keep, List.length_replicate]
      simp only [Edit.keep] at hold
      omega
    | delete hn =>
      rw [marks_delete, List.length_replicate]
      simp only [Edit.delete] at hold
      omega
    | insert hn =>
      rw [marks_insert, List.length_replicate]
      simp only [Edit.insert] at hnew
      omega

/-- Only an insertion may not say where it is among the old lines. -/
theorem oldStart (hmarks : e.isKeep = true ∨ .deleted ∈ e.marks old new) : e.oldStart = i := by
  cases h with
  | replace => rfl
  | fits h =>
    cases h with
    | keep | delete => rfl
    | insert hn o =>
      rw [marks_insert, List.mem_replicate] at hmarks
      simp [Edit.isKeep, Edit.insert] at hmarks

/-- Only a deletion may not say where it is among the new lines. -/
theorem newStart (hmarks : e.isKeep = true ∨ .inserted ∈ e.marks old new) : e.newStart = j := by
  cases h with
  | replace => rfl
  | fits h =>
    cases h with
    | keep | insert => rfl
    | delete hn o =>
      rw [marks_delete, List.mem_replicate] at hmarks
      simp [Edit.isKeep, Edit.delete] at hmarks

end Shows

/-- Every edit of a script shows lines, and kept ones only when it is a keep. -/
theorem marks_of_runs (h : Runs (Shows old.toArray new.toArray) i j s i' j')
    (hold : i' ≤ old.length)
    (hnew : j' ≤ new.length) : ∀ e ∈ s, e.marks old new ≠ [] ∧
      ∀ m ∈ e.marks old new, m = .context ↔ e.isKeep = true := by
  induction h with
  | nil => simp
  | cons he hs ih =>
    have hle := hs.le
    refine List.forall_mem_cons.mpr ⟨⟨?_, fun m hm => he.context_iff hm⟩, ih hold hnew⟩
    exact he.marks_ne_nil (by omega) (by omega)

/-- The marks in front of the first kept line are those of the first edit, when it is a change. -/
theorem takeWhile_flatMap {f : Edit → List Mark}
    (hf : ∀ e' ∈ e :: s, f e' ≠ [] ∧ ∀ m ∈ f e', m = .context ↔ e'.isKeep = true)
    (hturns : (kinds (e :: s)).IsChain (· ≠ ·)) :
    ((e :: s).flatMap f).takeWhile (· ≠ .context) = if e.isKeep then [] else f e := by
  have hstop : ∀ e' ∈ e :: s, e'.isKeep = true → ∀ ms : List Mark,
      (f e' ++ ms).takeWhile (· ≠ .context) = [] := by
    intro e' he' hkeep ms
    obtain ⟨hne, hmarks⟩ := hf e' he'
    obtain ⟨m, more, hm⟩ := List.exists_cons_of_ne_nil hne
    obtain rfl : m = .context := (hmarks m (by rw [hm]; exact List.mem_cons_self)).mpr hkeep
    rw [hm]
    rfl
  rw [List.flatMap_cons]
  split
  · rename_i hkeep
    exact hstop e List.mem_cons_self hkeep _
  · rename_i hchange
    have hmarks := (hf e List.mem_cons_self).2
    rw [List.takeWhile_append_of_pos fun m hm => by simp [hmarks m hm, hchange]]
    cases s with
    | nil => exact List.append_nil _
    | cons next s =>
      have hne : e.isKeep ≠ next.isKeep := (List.isChain_cons_cons.mp hturns).1
      have hnext : next.isKeep = true := by simpa [hchange] using hne
      rw [List.flatMap_cons, hstop next (by simp) hnext, List.append_nil]

theorem keep_or_mem {k : Bool} {m : Mark} {ms : List Mark} (hne : ms ≠ [])
    (h : (if k then [] else ms) = [] ∨ m ∈ if k then [] else ms) : k = true ∨ m ∈ ms := by
  cases k with
  | true => exact .inl rfl
  | false => exact .inr (h.resolve_left hne)

/-- Where a framed part of a script starts. -/
theorem Framed.opening (h : Framed old.toArray new.toArray i j (e :: s) i' j')
    (hold : i' ≤ old.length) (hnew : j' ≤ new.length) {ms : List Mark}
    (hms : ms = (((e :: s).flatMap (Edit.marks old new)).takeWhile (· ≠ .context))) :
    (ms = [] ∨ .deleted ∈ ms → e.oldStart = i) ∧ (ms = [] ∨ .inserted ∈ ms → e.newStart = j) ∧
      (ms ≠ [] → i = 0 ∧ j = 0) := by
  have hmarks := marks_of_runs h.runs hold hnew
  have hne := (hmarks e List.mem_cons_self).1
  obtain ⟨hshows, -⟩ := runs_cons.mp h.runs
  rw [takeWhile_flatMap hmarks h.turns] at hms
  subst hms
  refine ⟨fun hstart => hshows.oldStart (keep_or_mem hne hstart),
    fun hstart => hshows.newStart (keep_or_mem hne hstart), fun hchange => h.first ?_⟩
  by_cases hk : e.isKeep
  · rw [if_pos hk] at hchange
    exact absurd rfl hchange
  · simpa [kinds] using hk

/-- Where a framed part of a script ends. -/
theorem Framed.closing (h : Framed old.toArray new.toArray i j (s ++ [e]) i' j')
    (hold : i' ≤ old.length) (hnew : j' ≤ new.length) {ms : List Mark}
    (hms : ms = (((s ++ [e]).flatMap (Edit.marks old new)).reverse.takeWhile (· ≠ .context))) :
    (ms = [] ∨ .deleted ∈ ms → e.oldEnd = i') ∧ (ms = [] ∨ .inserted ∈ ms → e.newEnd = j') ∧
      (ms ≠ [] → i' = old.length ∧ j' = new.length) := by
  have hmarks := marks_of_runs h.runs hold hnew
  have hreverse : ∀ e' ∈ e :: s.reverse, (e'.marks old new).reverse ≠ [] ∧
      ∀ m ∈ (e'.marks old new).reverse, m = .context ↔ e'.isKeep = true := by
    intro e' he'
    obtain ⟨hne, hcontext⟩ := hmarks e' (by simpa [or_comm] using he')
    exact ⟨by simpa using hne, fun m hm => hcontext m (by simpa using hm)⟩
  have hturns : (kinds (e :: s.reverse)).IsChain (· ≠ ·) := by
    have hchain := List.isChain_reverse.mpr (h.turns.imp fun _ _ hne => hne.symm)
    simpa [kinds] using hchain
  have hne := (hreverse e List.mem_cons_self).1
  obtain ⟨x, y, -, hlast⟩ := runs_append.mp h.runs
  obtain ⟨hshows, hnil⟩ := runs_cons.mp hlast
  obtain ⟨rfl, rfl⟩ := runs_nil.mp hnil
  rw [List.reverse_flatMap, List.reverse_append, List.reverse_singleton, List.singleton_append,
    Function.comp_def, takeWhile_flatMap hreverse hturns] at hms
  subst hms
  refine ⟨fun hend => ?_, fun hend => ?_, fun hchange => h.last ?_⟩
  · rw [Edit.oldEnd, hshows.oldStart (by simpa using keep_or_mem hne hend)]
  · rw [Edit.newEnd, hshows.newStart (by simpa using keep_or_mem hne hend)]
  · by_cases hk : e.isKeep
    · rw [if_pos hk] at hchange
      exact absurd rfl hchange
    · simpa [kinds] using hk

/-- The hunk of a part of a script goes from its first edit to its last. -/
theorem ofGroup?_eq_some {first last : Edit} {before rest : List Edit} (old new : List Bytes)
    (hfirst : s = first :: rest) (hlast : s = before ++ [last]) :
    Hunk.ofGroup? old new s = some ⟨first.oldStart, last.oldEnd, first.newStart, last.newEnd,
      s.flatMap (Edit.shown old new)⟩ := by
  have hhead : s.head? = some first := by rw [hfirst]; rfl
  have hend : s.getLast? = some last := by rw [hlast, List.getLast?_concat]
  rw [Hunk.ofGroup?, hhead, hend]

/-- **A framed part of a script** is a hunk that stands where the part does, and shows the lines
of both sides that the part leads through. -/
theorem Framed.exists_hunk (h : Framed old.toArray new.toArray i j s i' j') (hne : s ≠ [])
    (hold : i' ≤ old.length) (hnew : j' ≤ new.length) :
    ∃ hunk, Hunk.ofGroup? old new s = some hunk ∧ hunk.oldSide = (old.drop i).take (i' - i) ∧
      hunk.newSide = (new.drop j).take (j' - j) ∧ hunk.Stands old.length new.length i j := by
  obtain ⟨first, rest, hfirst⟩ := List.exists_cons_of_ne_nil hne
  obtain ⟨before, last, hlast⟩ := (List.eq_nil_or_concat' s).resolve_left hne
  have hgroup := ofGroup?_eq_some old new hfirst hlast
  have hle := h.runs.le
  obtain ⟨holdSide, hnewSide⟩ := without_flatMap_shown h.runs
  have holdEnd : i + (without .inserted (s.flatMap (Edit.shown old new))).length = i' := by
    rw [holdSide, List.length_take, List.length_drop]
    omega
  have hnewEnd : j + (without .deleted (s.flatMap (Edit.shown old new))).length = j' := by
    rw [hnewSide, List.length_take, List.length_drop]
    omega
  have hmarks : (s.flatMap (Edit.shown old new)).map Prod.fst = s.flatMap (Edit.marks old new) :=
    List.map_flatMap ..
  have hfront := h
  have hback := h
  rw [hfirst] at hfront
  rw [hlast] at hback
  obtain ⟨holdStart, hnewStart, hstart⟩ := hfront.opening hold hnew rfl
  obtain ⟨holdLast, hnewLast, hend⟩ := hback.closing hold hnew rfl
  rw [← hfirst, ← hmarks] at holdStart hnewStart hstart
  rw [← hlast, ← hmarks] at holdLast hnewLast hend
  rw [← holdEnd, ← hnewEnd] at hend
  have hshown : s.flatMap (Edit.shown old new) ≠ [] := by
    intro hnil
    rw [hnil, hfirst, List.flatMap_cons] at hmarks
    have hnone := (List.append_eq_nil_iff.mp hmarks.symm).1
    exact (marks_of_runs h.runs hold hnew first (by simp [hfirst])).1 hnone
  exact ⟨_, hgroup, holdSide, hnewSide, hshown, holdStart, hnewStart,
    fun hclosing => (holdLast hclosing).trans holdEnd.symm,
    fun hclosing => (hnewLast hclosing).trans hnewEnd.symm, hstart, hend⟩

/-! ### All hunks -/

/-- The rest of a list in three parts. -/
theorem drop_eq_parts {α : Type} {l : List α} (h : i + n ≤ i') :
    (l.drop i).take n ++ (l.drop (i + n)).take (i' - (i + n)) ++ l.drop i' = l.drop i := by
  obtain ⟨m, rfl⟩ := Nat.exists_eq_add_of_le h
  rw [Nat.add_sub_cancel_left, ← List.drop_drop (i := m), List.append_assoc, List.take_append_drop,
    ← List.drop_drop, List.take_append_drop]

/-- Groups lead from one place on both sides to their ends. -/
theorem Parted.le {gs : List (List Edit)} (h : Parted old.toArray new.toArray i j gs) :
    i ≤ old.length ∧ j ≤ new.length := by
  induction h with
  | rest _ hold hnew =>
    rw [List.size_toArray] at hold hnew
    omega
  | group _ _ hg _ ih =>
    have hle := hg.runs.le
    omega

/-- **The hunks of parted groups** turn the rest of the old lines into the rest of the new ones. -/
theorem Parted.turns {gs : List (List Edit)} (h : Parted old.toArray new.toArray i j gs) :
    Turns (Hunk.Stands old.length new.length) i j (old.drop i) (new.drop j)
      (gs.filterMap (Hunk.ofGroup? old new)) := by
  induction h with
  | @rest i j n h hold hnew =>
    rw [List.size_toArray] at hold hnew
    have heq := take_drop_eq h
    rw [List.take_of_length_le (by rw [List.length_drop]; omega),
      List.take_of_length_le (by rw [List.length_drop]; omega)] at heq
    rw [heq]
    exact .rest i j _
  | @group i j i' j' n g gs h hne hg hgs ih =>
    obtain ⟨hold, hnew⟩ := hgs.le
    have hle := hg.runs.le
    obtain ⟨hunk, hgroup, holdSide, hnewSide, hstands⟩ := hg.exists_hunk hne hold hnew
    have hkept : ((old.drop i).take n).length = n := by
      rw [List.length_take, List.length_drop]
      omega
    have holdLength : i + n + hunk.oldSide.length = i' := by
      rw [holdSide, List.length_take, List.length_drop]
      omega
    have hnewLength : j + n + hunk.newSide.length = j' := by
      rw [hnewSide, List.length_take, List.length_drop]
      omega
    have hnext : Turns (Hunk.Stands old.length new.length) i j
        ((old.drop i).take n ++ hunk.oldSide ++ old.drop i')
        ((old.drop i).take n ++ hunk.newSide ++ new.drop j')
        (hunk :: gs.filterMap (Hunk.ofGroup? old new)) :=
      .hunk _ (by rw [hkept]; exact hstands) (by rw [hkept, holdLength, hnewLength]; exact ih)
    rw [holdSide, hnewSide, drop_eq_parts hle.1, take_drop_eq h, drop_eq_parts hle.2] at hnext
    rw [List.filterMap_cons_some hgroup]
    exact hnext

/-- **The hunks of two byte strings** turn the lines of one into the lines of the other. -/
theorem turns_hunks (expected actual : Bytes) :
    Turns (Hunk.Stands (lines expected).length (lines actual).length) 0 0 (lines expected)
      (lines actual) (hunks expected actual) := by
  have h := (parted_groups (n := contextLines) (by decide) (lines expected).toArray
    (lines actual).toArray).turns
  rwa [List.drop_zero, List.drop_zero] at h

end

end Baseline.Diff
