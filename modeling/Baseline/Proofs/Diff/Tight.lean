import Baseline.Proofs.Diff.Patch

/-!
# Hunks and the lines around them

The script that a diff shows lists every line of both sides, the equal ones too (`listing`), and the
hunks are what is left of this listing when equal lines are left out in front of, between and behind
them (`Spread`).  A hunk is `Tight` where it stands in the listing: it shows three equal lines
around its changes, or all there are, no two neighbouring changes in it are more than six lines
apart, and no change outside of it is six lines or less away.

A hunk grows with its group.  What holds of it while it does (`Begun`) is kept by a change
(`Begun.change`) and by up to six equal lines behind a change (`Begun.keep`); more than six close it
with their first three lines and begin the next one with their last three.
`spread_splitGroups` follows the script in this way, by the two kinds of edits that take turns.
-/

namespace Baseline.Diff

/-- Nothing but equal lines. -/
def AllKept (ls : List (Mark × Bytes)) : Prop := ∀ l ∈ ls, l.1 = .context

/-- A line among these is deleted or inserted. -/
def Changed (ls : List (Mark × Bytes)) : Prop := ∃ l ∈ ls, l.1 ≠ .context

/-- Nothing but deleted and inserted lines, and at least one. -/
structure Change (ls : List (Mark × Bytes)) : Prop where
  ne_nil : ls ≠ []
  ne_context : ∀ l ∈ ls, l.1 ≠ .context

/-- How many equal lines there are in front of the first change. -/
def leading (ls : List (Mark × Bytes)) : Nat := (ls.takeWhile (·.1 = .context)).length

/-- How many equal lines there are behind the last change. -/
def trailing (ls : List (Mark × Bytes)) : Nat := leading ls.reverse

/-- All lines that a script goes through, each with its mark. -/
def listing (old new : List Bytes) (s : List Edit) : List (Mark × Bytes) :=
  s.flatMap (Edit.shown old new)

/-- A hunk with what is listed before and after it.  It shows a change; it starts with the equal
lines between its first change and the one before it, or the start of the listing, but at most
three of them, and ends in the same way; from one of its changes back to the one before there
are at most six equal lines, and to a change outside of the hunk there are more. -/
structure Hunk.Tight (before : List (Mark × Bytes)) (h : Hunk) (after : List (Mark × Bytes)) :
    Prop where
  changed : Changed h.lines
  first : leading h.lines = min 3 (trailing before + leading h.lines)
  last : trailing h.lines = min 3 (trailing h.lines + leading after)
  close : ∀ front l back, h.lines = front ++ l :: back → l.1 ≠ .context → Changed front →
    trailing front ≤ 6
  far_before : Changed before → 6 < trailing before + leading h.lines
  far_after : Changed after → 6 < trailing h.lines + leading after

/-- Hunks that show all changes of a listing, from behind the lines `before` on: only equal lines
are left out.  Each hunk is `ok` with what is listed before and after it. -/
inductive Spread (ok : List (Mark × Bytes) → Hunk → List (Mark × Bytes) → Prop) :
    List (Mark × Bytes) → List (Mark × Bytes) → List Hunk → Prop
  | rest {before kept : List (Mark × Bytes)} (hkept : AllKept kept) : Spread ok before kept []
  | hunk {before kept after : List (Mark × Bytes)} {h : Hunk} {hs : List Hunk}
    (hkept : AllKept kept) (hok : ok (before ++ kept) h after)
    (hrest : Spread ok (before ++ kept ++ h.lines) after hs) :
    Spread ok before (kept ++ (h.lines ++ after)) (h :: hs)

/-! ### Counting equal lines -/

section

variable {before ls ms : List (Mark × Bytes)}

theorem AllKept.append (h : AllKept ls) (h' : AllKept ms) : AllKept (ls ++ ms) :=
  List.forall_mem_append.mpr ⟨h, h'⟩

theorem AllKept.not_changed (h : AllKept ls) : ¬ Changed ls :=
  fun ⟨l, hl, hne⟩ => hne (h l hl)

theorem Changed.append_left (h : Changed ls) (ms : List (Mark × Bytes)) : Changed (ls ++ ms) :=
  h.imp fun _ hl => ⟨List.mem_append_left _ hl.1, hl.2⟩

theorem Changed.append_right (h : Changed ms) (ls : List (Mark × Bytes)) : Changed (ls ++ ms) :=
  h.imp fun _ hl => ⟨List.mem_append_right _ hl.1, hl.2⟩

theorem Change.changed (h : Change ls) : Changed ls := by
  obtain ⟨l, hl⟩ := List.exists_mem_of_ne_nil ls h.ne_nil
  exact ⟨l, hl, h.ne_context l hl⟩

theorem changed_reverse : Changed ls.reverse ↔ Changed ls := by
  simp [Changed]

theorem leading_append (h : AllKept ls) (ms : List (Mark × Bytes)) :
    leading (ls ++ ms) = ls.length + leading ms := by
  rw [leading, List.takeWhile_append_of_pos fun l hl => by simpa using h l hl, List.length_append,
    leading]

theorem leading_append_of_changed (h : Changed ls) (ms : List (Mark × Bytes)) :
    leading (ls ++ ms) = leading ls := by
  induction ls with
  | nil =>
    obtain ⟨l, hl, -⟩ := h
    exact absurd hl List.not_mem_nil
  | cons l ls ih =>
    rw [leading, leading, List.cons_append, List.takeWhile_cons, List.takeWhile_cons]
    split
    · rename_i hl
      have hrest : Changed ls := by
        obtain ⟨l', hl', hne⟩ := h
        rcases List.mem_cons.mp hl' with rfl | hl'
        · exact absurd (by simpa using hl) hne
        · exact ⟨l', hl', hne⟩
      exact congrArg (· + 1) (ih hrest)
    · rfl

theorem leading_of_allKept (h : AllKept ls) : leading ls = ls.length := by
  simpa [leading] using leading_append h []

theorem leading_of_change (h : Change ls) : leading ls = 0 := by
  obtain ⟨l, ls, rfl⟩ := List.exists_cons_of_ne_nil h.ne_nil
  rw [leading, List.takeWhile_cons_of_neg (by simpa using h.ne_context l List.mem_cons_self)]
  rfl

theorem trailing_append (ls : List (Mark × Bytes)) (h : AllKept ms) :
    trailing (ls ++ ms) = trailing ls + ms.length := by
  rw [trailing, List.reverse_append, leading_append fun l hl => h l (List.mem_reverse.mp hl),
    List.length_reverse, Nat.add_comm, trailing]

theorem trailing_append_of_changed (ls : List (Mark × Bytes)) (h : Changed ms) :
    trailing (ls ++ ms) = trailing ms := by
  rw [trailing, List.reverse_append, leading_append_of_changed (changed_reverse.mpr h), trailing]

theorem trailing_of_allKept (h : AllKept ls) : trailing ls = ls.length := by
  simpa [trailing, leading] using trailing_append [] h

theorem trailing_append_of_change (ls : List (Mark × Bytes)) (h : Change ms) :
    trailing (ls ++ ms) = 0 := by
  rw [trailing_append_of_changed ls h.changed, trailing]
  exact leading_of_change ⟨by simpa using h.ne_nil, fun l hl =>
    h.ne_context l (List.mem_reverse.mp hl)⟩

/-! ### A hunk that grows -/

/-- The lines of a hunk so far. -/
structure Begun (before ls : List (Mark × Bytes)) : Prop where
  first : leading ls = min 3 (trailing before + leading ls)
  far : Changed before → 6 < trailing before + leading ls
  close : ∀ front l back, ls = front ++ l :: back → l.1 ≠ .context → Changed front →
    trailing front ≤ 6
  last : Changed ls → trailing ls ≤ 6

namespace Begun

/-- A hunk begins with equal lines. -/
theorem of_allKept (h : AllKept ls) (hfirst : ls.length = min 3 (trailing before + ls.length))
    (hfar : Changed before → 6 < trailing before + ls.length) : Begun before ls := by
  have hleading := leading_of_allKept h
  refine ⟨by rwa [hleading], by rwa [hleading], fun front l back heq hl => ?_,
    fun hchanged => absurd hchanged h.not_changed⟩
  have hmem : l ∈ ls := by
    rw [heq]
    exact List.mem_append_right _ List.mem_cons_self
  exact absurd (h l hmem) hl

/-- **A hunk grows by a change.** -/
theorem change (h : Begun before ls) (hms : Change ms) : Begun before (ls ++ ms) := by
  have hleading : leading (ls ++ ms) = leading ls := by
    by_cases hls : Changed ls
    · exact leading_append_of_changed hls ms
    · have hequal : AllKept ls := fun l hl => by
        by_contra hne
        exact hls ⟨l, hl, hne⟩
      rw [leading_append hequal, leading_of_change hms, leading_of_allKept hequal, Nat.add_zero]
  refine ⟨by rw [hleading]; exact h.first, by rw [hleading]; exact h.far, ?_, fun _ => ?_⟩
  · intro front l back heq hl hfront
    rcases List.append_eq_append_iff.mp heq with ⟨part, rfl, hpart⟩ | ⟨part, rfl, hpart⟩
    · -- the change is in the new lines, at their start or behind another one
      rcases eq_or_ne part [] with rfl | hne
      · rw [List.append_nil] at hfront ⊢
        exact h.last hfront
      · have hchange : Change part :=
          ⟨hne, fun l' hl' => hms.ne_context l' (by rw [hpart]; exact List.mem_append_left _ hl')⟩
        rw [trailing_append_of_change _ hchange]
        exact Nat.zero_le _
    · cases part with
      | nil =>
        rw [List.append_nil] at h
        exact h.last hfront
      | cons l' part =>
        obtain ⟨rfl, -⟩ := List.cons_eq_cons.mp hpart
        exact h.close front l part rfl hl hfront
  · rw [trailing_append_of_change ls hms]
    exact Nat.zero_le _

/-- **A hunk grows by up to six equal lines** behind a change. -/
theorem keep (h : Begun before ls) (hls : Changed ls) (hend : trailing ls = 0)
    (hms : AllKept ms) (hlength : ms.length ≤ 6) : Begun before (ls ++ ms) := by
  have hleading := leading_append_of_changed hls ms
  refine ⟨by rw [hleading]; exact h.first, by rw [hleading]; exact h.far, ?_, fun _ => ?_⟩
  · intro front l back heq hl hfront
    rcases List.append_eq_append_iff.mp heq with ⟨part, -, hpart⟩ | ⟨part, hpart, hback⟩
    · have hmem : l ∈ ms := by
        rw [hpart]
        exact List.mem_append_right _ List.mem_cons_self
      exact absurd (hms l hmem) hl
    · cases part with
      | nil =>
        have hmem : l ∈ ms := by
          rw [← List.nil_append ms, ← hback]
          exact List.mem_cons_self
        exact absurd (hms l hmem) hl
      | cons l' part =>
        obtain ⟨rfl, -⟩ := List.cons_eq_cons.mp hback
        exact h.close front l part hpart hl hfront
  · rw [trailing_append ls hms, hend, Nat.zero_add]
    exact hlength

theorem tight {h : Hunk} {after : List (Mark × Bytes)} (hbegun : Begun before h.lines)
    (hchanged : Changed h.lines)
    (hend : trailing h.lines = min 3 (trailing h.lines + leading after))
    (hfar : Changed after → 6 < trailing h.lines + leading after) : h.Tight before after :=
  ⟨hchanged, hbegun.first, hend, hbegun.close, hbegun.far, hfar⟩

end Begun

/-- Equal lines are left out in front of everything else. -/
theorem Spread.after {ok : List (Mark × Bytes) → Hunk → List (Mark × Bytes) → Prop}
    {hs : List Hunk} (hls : AllKept ls) (h : Spread ok (before ++ ls) ms hs) :
    Spread ok before (ls ++ ms) hs := by
  cases h with
  | rest hkept => exact .rest (hls.append hkept)
  | @hunk _ kept after g hs hkept hok hrest =>
    rw [← List.append_assoc]
    rw [List.append_assoc before] at hok hrest
    exact .hunk (hls.append hkept) hok hrest

/-- A hunk with nothing left out in front of it. -/
theorem Spread.at_start {ok : List (Mark × Bytes) → Hunk → List (Mark × Bytes) → Prop}
    {h : Hunk} {hs : List Hunk} (hok : ok before h ms)
    (hrest : Spread ok (before ++ h.lines) ms hs) : Spread ok before (h.lines ++ ms) (h :: hs) := by
  have hkept : AllKept [] := fun l hl => absurd hl List.not_mem_nil
  exact .hunk hkept (by rwa [List.append_nil]) (by rwa [List.append_nil])

/-- **More than six equal lines** behind a change close a hunk and begin the next one. -/
theorem Begun.cut {first gap last : List (Mark × Bytes)} (h : Begun before ls) (hls : Changed ls)
    (hend : trailing ls = 0) (hfirst : AllKept first) (hfirst' : first.length = 3)
    (hgap : AllKept gap) (hgap' : 0 < gap.length) (hlast : AllKept last)
    (hlast' : last.length = 3) :
    (∀ hunk after, hunk.lines = ls ++ first → Hunk.Tight before hunk (gap ++ (last ++ after))) ∧
      Begun (before ++ (ls ++ first) ++ gap) last := by
  have htrailing : trailing (ls ++ first) = 3 := by
    rw [trailing_append ls hfirst, hend, hfirst']
  refine ⟨fun hunk after hlines => ?_, ?_⟩
  · have hleading : leading (gap ++ (last ++ after)) = gap.length + (3 + leading after) := by
      rw [leading_append hgap, leading_append hlast, hlast']
    have hgrown := h.keep hls hend hfirst (by omega)
    rw [← hlines] at htrailing hgrown
    refine hgrown.tight (by rw [hlines]; exact hls.append_left first) ?_ fun _ => ?_
    · omega
    · omega
  · have hbehind : trailing (before ++ (ls ++ first) ++ gap) = 3 + gap.length := by
      rw [trailing_append _ hgap, trailing_append_of_changed _ (hls.append_left first), htrailing]
    refine .of_allKept hlast ?_ fun _ => ?_
    · omega
    · omega

end

/-! ### What an edit lists -/

section

variable {old new : List Bytes} {i j i' j' n : Nat} {e : Edit} {s : List Edit}

theorem allKept_keep (old new : List Bytes) (i j n : Nat) :
    AllKept ((Edit.keep i j n).shown old new) := by
  intro l hl
  obtain ⟨line, -, rfl⟩ := List.mem_map.mp hl
  rfl

theorem isKeep_keep (i j n : Nat) : (Edit.keep i j n).isKeep = true := rfl

theorem length_keep (h : i + n ≤ old.length) (j : Nat) :
    ((Edit.keep i j n).shown old new).length = n := by
  have hmarks := congrArg List.length (marks_keep old new i j n)
  rw [Edit.marks, List.length_map, List.length_replicate] at hmarks
  omega

/-- Equal lines in two parts. -/
theorem shown_keep_add (old new : List Bytes) (i j p q : Nat) :
    (Edit.keep i j (p + q)).shown old new =
      (Edit.keep i j p).shown old new ++ (Edit.keep (i + p) (j + p) q).shown old new := by
  change ((old.drop i).take (p + q)).map _ =
    ((old.drop i).take p).map _ ++ ((old.drop (i + p)).take q).map _
  rw [List.take_add, List.drop_drop, List.map_append]

theorem Shows.change (h : Shows old.toArray new.toArray i j e) (he : e.isKeep = false)
    (hold : i + e.oldLength ≤ old.length) (hnew : j + e.newLength ≤ new.length) :
    Change (e.shown old new) := by
  refine ⟨fun hnil => h.marks_ne_nil hold hnew (by rw [Edit.marks, hnil]; rfl), fun l hl hl' => ?_⟩
  have hkeep := (h.context_iff (List.mem_map_of_mem hl)).mp hl'
  rw [he] at hkeep
  cases hkeep

theorem exists_ofGroup? (old new : List Bytes) (hne : s ≠ []) :
    ∃ hunk, Hunk.ofGroup? old new s = some hunk ∧ hunk.lines = listing old new s := by
  obtain ⟨first, rest, hfirst⟩ := List.exists_cons_of_ne_nil hne
  obtain ⟨before, last, hlast⟩ := (List.eq_nil_or_concat' s).resolve_left hne
  exact ⟨_, ofGroup?_eq_some old new hfirst hlast, rfl⟩

/-! ### The groups of a script -/

theorem listing_reverse_cons (old new : List Bytes) (e : Edit) (group : List Edit) :
    listing old new (e :: group).reverse = listing old new group.reverse ++ e.shown old new := by
  simp [listing]

theorem listing_singleton (old new : List Bytes) (e : Edit) :
    listing old new [e] = e.shown old new := by
  rw [listing, List.flatMap_singleton]

theorem listing_cons (old new : List Bytes) (e : Edit) (s : List Edit) :
    listing old new (e :: s) = e.shown old new ++ listing old new s := List.flatMap_cons ..

theorem splitGroups_cons (n : Nat) (group rest : List Edit)
    (he : e.isKeep = true → e.oldLength ≤ 2 * n) :
    splitGroups n group (e :: rest) = splitGroups n (e :: group) rest := by
  rw [splitGroups, if_neg fun h => absurd (he h.1) (Nat.not_le.mpr h.2)]

/-- More than `2 * n` equal lines, in three parts. -/
theorem splitGroups_keep (n gap i j : Nat) (hgap : 0 < gap) (group rest : List Edit) :
    splitGroups n group (.keep i j (n + gap + n) :: rest) =
      (.keep i j n :: group).reverse ::
        splitGroups n [.keep (i + (n + gap)) (j + (n + gap)) n] rest := by
  have hcut : n + gap + n - n = n + gap := by omega
  have hfirst : n + gap + n - (n + gap) = n := by omega
  rw [splitGroups, if_pos ⟨rfl, by simp only [Edit.keep]; omega⟩]
  simp only [Edit.keep, Edit.shorten, Edit.moveDown, hcut, hfirst]

/-- The last group, unless it has nothing but equal lines. -/
theorem splitGroups_nil (n : Nat) (e : Edit) {group : List Edit}
    (h : e.isKeep = false ∨ group ≠ []) :
    splitGroups n (e :: group) [] = [(e :: group).reverse] := by
  cases group with
  | nil =>
    have he : ¬ e.isKeep = true := by simpa using h
    rw [splitGroups, if_neg he]
    rfl
  | cons => rfl

/-- Equal lines at the end of a script. -/
theorem trimLast_keep (n i j m : Nat) :
    trimLast n [.keep i j m] = [.keep i j (m - (m - n))] := rfl

/-- A group so far, behind the lines `before`.  It ends with a change when equal lines are next. -/
structure Ready (old new : List Bytes) (k : Bool) (before : List (Mark × Bytes))
    (group : List Edit) : Prop where
  begun : Begun before (listing old new group.reverse)
  changed : k = true → Changed (listing old new group.reverse)
  ended : k = true → trailing (listing old new group.reverse) = 0

section

variable {before after : List (Mark × Bytes)} {group : List Edit} {hs : List Hunk}

theorem Ready.change (h : Ready old new false before group) (he : Change (e.shown old new)) :
    Ready old new true before (e :: group) := by
  have hbegun := h.begun.change he
  have hchanged := he.changed.append_right (listing old new group.reverse)
  have hended := trailing_append_of_change (listing old new group.reverse) he
  rw [← listing_reverse_cons] at hbegun hchanged hended
  exact ⟨hbegun, fun _ => hchanged, fun _ => hended⟩

theorem Ready.keep (h : Ready old new true before group) (hlength : i + n ≤ old.length)
    (hn : n ≤ 6) : Ready old new false before (.keep i j n :: group) := by
  have hbegun := h.begun.keep (h.changed rfl) (h.ended rfl) (allKept_keep old new i j n)
    (by rwa [length_keep hlength])
  rw [← listing_reverse_cons] at hbegun
  exact ⟨hbegun, Bool.noConfusion, Bool.noConfusion⟩

/-- The last group is a hunk, and there are no more changes. -/
theorem spread_last (he : e.isKeep = false ∨ group ≠ []) (hafter : AllKept after)
    (hbegun : Begun before (listing old new (e :: group).reverse))
    (hchanged : Changed (listing old new (e :: group).reverse))
    (hend : trailing (listing old new (e :: group).reverse) =
      min 3 (trailing (listing old new (e :: group).reverse) + after.length)) :
    Spread Hunk.Tight before (listing old new (e :: group).reverse ++ after)
      ((splitGroups n (e :: group) []).filterMap (Hunk.ofGroup? old new)) := by
  obtain ⟨hunk, hgroup, hlines⟩ := exists_ofGroup? old new (s := (e :: group).reverse) (by simp)
  rw [splitGroups_nil n e he, List.filterMap_cons_some hgroup, ← hlines]
  rw [← hlines] at hbegun hchanged hend
  refine .at_start (hbegun.tight hchanged ?_ fun h => absurd h hafter.not_changed) (.rest hafter)
  rwa [leading_of_allKept hafter]

/-- The equal lines at the end of a script, at most three of which the last hunk shows. -/
theorem spread_lastKeep (h : Ready old new true before group) (hlength : i + n ≤ old.length) :
    Spread Hunk.Tight before
      (listing old new group.reverse ++ (Edit.keep i j n).shown old new)
      ((splitGroups contextLines group (trimLast contextLines [.keep i j n])).filterMap
        (Hunk.ofGroup? old new)) := by
  obtain ⟨p, q, rfl, hp⟩ : ∃ p q, n = p + q ∧ p = min 3 (p + q) :=
    ⟨min 3 n, n - min 3 n, by omega, by omega⟩
  have hcut : p + q - (p + q - contextLines) = p := by
    rw [contextLines]
    omega
  have hgroup : group ≠ [] := by
    rintro rfl
    obtain ⟨l, hl, -⟩ := h.changed rfl
    exact absurd hl List.not_mem_nil
  have hready := h.keep (i := i) (j := j) (n := p) (by omega) (by omega)
  have hchanged := (h.changed rfl).append_left ((Edit.keep i j p).shown old new)
  have htrailing := trailing_append (listing old new group.reverse) (allKept_keep old new i j p)
  have hp' : ((Edit.keep i j p).shown old new).length = p := length_keep (by omega) j
  have hq : ((Edit.keep (i + p) (j + p) q).shown old new).length = q := length_keep (by omega) _
  rw [h.ended rfl, hp', Nat.zero_add] at htrailing
  rw [trimLast_keep, hcut, splitGroups_cons, shown_keep_add, ← List.append_assoc,
    ← listing_reverse_cons]
  · rw [← listing_reverse_cons] at hchanged htrailing
    refine spread_last (.inr hgroup) (allKept_keep old new _ _ _) hready.begun hchanged ?_
    rw [htrailing, hq]
    exact hp
  · intro _
    rw [contextLines, Edit.keep]
    simp only
    omega

/-- More than six equal lines, the first three of which end a hunk and the last three of which
begin the next one. -/
theorem spread_cut (h : Ready old new true before group) {gap : Nat} (hgap : 0 < gap)
    (hlength : i + (3 + gap + 3) ≤ old.length)
    (hrest : ∀ seen, Ready old new false seen [.keep (i + (3 + gap)) (j + (3 + gap)) 3] →
      Spread Hunk.Tight seen (listing old new [.keep (i + (3 + gap)) (j + (3 + gap)) 3] ++ after)
        hs) :
    ∃ hunk, Hunk.ofGroup? old new (.keep i j 3 :: group).reverse = some hunk ∧
      Spread Hunk.Tight before
        (listing old new group.reverse ++ (Edit.keep i j (3 + gap + 3)).shown old new ++ after)
        (hunk :: hs) := by
  obtain ⟨hunk, hgroup, hlines⟩ := exists_ofGroup? old new
    (s := (Edit.keep i j 3 :: group).reverse) (by simp)
  rw [listing_reverse_cons] at hlines
  obtain ⟨htight, hbegun⟩ := h.begun.cut (h.changed rfl) (h.ended rfl)
    (allKept_keep old new i j 3) (length_keep (by omega) j)
    (allKept_keep old new (i + 3) (j + 3) gap)
    (by rw [length_keep (by omega)]; exact hgap)
    (allKept_keep old new (i + (3 + gap)) (j + (3 + gap)) 3) (length_keep (by omega) _)
  rw [← listing_singleton old new (.keep (i + (3 + gap)) _ 3)] at hbegun
  have hnext := hrest _ ⟨hbegun, Bool.noConfusion, Bool.noConfusion⟩
  rw [← hlines, listing_singleton] at hnext
  have hparts := Spread.at_start (htight hunk after hlines)
    (.after (allKept_keep old new _ _ _) hnext)
  rw [hlines] at hparts
  refine ⟨hunk, hgroup, ?_⟩
  simpa [shown_keep_add old new i j (3 + gap) 3, shown_keep_add old new i j 3 gap] using hparts

/-- **The groups of a script**, behind the lines `before` and a group so far: they are hunks that
show all changes of the listing. -/
theorem spread_splitGroups {k : Bool} {rest : List Edit}
    (hrest : InTurn old.toArray new.toArray k i j rest i' j') (hold : i' ≤ old.length)
    (hnew : j' ≤ new.length) (hne : rest ≠ []) (hready : Ready old new k before group) :
    Spread Hunk.Tight before (listing old new group.reverse ++ listing old new rest)
      ((splitGroups contextLines group (trimLast contextLines rest)).filterMap
        (Hunk.ofGroup? old new)) := by
  induction rest generalizing k i j before group with
  | nil => exact absurd rfl hne
  | cons e rest ih =>
    cases hrest with
    | @cons _ _ _ _ _ _ _ he hk hs =>
      have hle := hs.runs.le
      rw [listing_cons, ← List.append_assoc]
      cases k with
      | false =>
        have hgrown := hready.change (he.change hk (by omega) (by omega))
        have hshort : e.isKeep = true → e.oldLength ≤ 2 * contextLines := by simp [hk]
        rw [← listing_reverse_cons]
        cases rest with
        | nil =>
          rw [trimLast, if_neg (by simp [hk]), splitGroups_cons _ _ _ hshort]
          exact spread_last (.inl hk) (by simp [AllKept, listing]) hgrown.begun (hgrown.changed rfl)
            (by rw [hgrown.ended rfl]; rfl)
        | cons next rest =>
          rw [trimLast, splitGroups_cons _ _ _ hshort]
          · exact ih hs (List.cons_ne_nil _ _) hgrown
          · exact List.cons_ne_nil _ _
      | true =>
        obtain ⟨m, -, -, rfl⟩ := he.exists_keep hk
        have hlength : i + m ≤ old.length := Nat.le_trans hle.1 hold
        cases rest with
        | nil =>
          rw [show listing old new [] = [] from rfl, List.append_nil]
          exact spread_lastKeep hready hlength
        | cons next rest =>
          rw [trimLast]
          · by_cases hshort : m ≤ 2 * contextLines
            · rw [splitGroups_cons _ _ _ fun _ => hshort, ← listing_reverse_cons]
              exact ih hs (List.cons_ne_nil _ _) (hready.keep hlength hshort)
            · obtain ⟨gap, rfl⟩ : ∃ gap, m = 3 + gap + 3 :=
                ⟨m - 6, by rw [contextLines] at hshort; omega⟩
              have hgap : 0 < gap := by
                rw [contextLines] at hshort
                omega
              obtain ⟨hunk, hgroup, hspread⟩ := spread_cut hready hgap hlength
                fun seen hseen => ih hs (List.cons_ne_nil _ _) hseen
              rw [show contextLines = 3 from rfl, splitGroups_keep 3 gap i j hgap,
                List.filterMap_cons_some hgroup]
              exact hspread
          · exact List.cons_ne_nil _ _

end

/-- The equal lines at the start of a script, the last three of which begin the first hunk. -/
theorem spread_firstKeep (hlength : n ≤ old.length)
    (hs : InTurn old.toArray new.toArray false n n s i' j') (hold : i' ≤ old.length)
    (hnew : j' ≤ new.length) :
    Spread Hunk.Tight [] (listing old new (.keep 0 0 n :: s))
      ((groups contextLines (.keep 0 0 n :: s)).filterMap (Hunk.ofGroup? old new)) := by
  obtain ⟨p, q, rfl, hp⟩ : ∃ p q, n = q + p ∧ p = min 3 (q + p) :=
    ⟨min 3 n, n - min 3 n, by omega, by omega⟩
  have hq : q + p - contextLines = q := by
    rw [contextLines]
    omega
  have htrim : trimFirst contextLines (.keep 0 0 (q + p) :: s) = .keep q q p :: s := by
    rw [trimFirst, if_pos (isKeep_keep ..)]
    simp only [Edit.keep, Edit.moveDown, Edit.shorten, hq, Nat.add_sub_cancel_left, Nat.zero_add]
  have hshort : p ≤ 2 * contextLines := by
    rw [contextLines]
    omega
  rw [groups, htrim]
  cases s with
  | nil =>
    have hnone : splitGroups contextLines [] (trimLast contextLines [.keep q q p]) = [] := by
      rw [trimLast_keep, splitGroups_cons, splitGroups, if_pos (isKeep_keep ..)]
      intro _
      exact Nat.le_trans (Nat.sub_le _ _) hshort
    rw [hnone, listing_singleton]
    exact .rest (allKept_keep old new _ _ _)
  | cons next s =>
    have hkept := allKept_keep old new q q p
    have hfront : ((Edit.keep 0 0 q).shown old new).length = q := length_keep (by omega) 0
    have hback : ((Edit.keep q q p).shown old new).length = p := length_keep hlength q
    have hbegun : Begun ((Edit.keep 0 0 q).shown old new) (listing old new [.keep q q p]) := by
      rw [listing_singleton]
      refine .of_allKept hkept ?_ fun h => absurd h (allKept_keep old new 0 0 q).not_changed
      rwa [trailing_of_allKept (allKept_keep old new 0 0 q), hfront, hback]
    have hready : Ready old new false ((Edit.keep 0 0 q).shown old new) [.keep q q p] :=
      ⟨hbegun, Bool.noConfusion, Bool.noConfusion⟩
    have hrest := spread_splitGroups hs hold hnew (List.cons_ne_nil _ _) hready
    rw [trimLast, splitGroups_cons _ _ _ fun _ => hshort, listing_cons, shown_keep_add,
      List.append_assoc]
    · refine .after (allKept_keep old new _ _ _) ?_
      simpa [listing] using hrest
    · exact List.cons_ne_nil _ _

/-- **The groups of a script** in which equal lines and changes take turns. -/
theorem spread_groups {k : Bool} (h : InTurn old.toArray new.toArray k 0 0 s i' j')
    (hold : i' ≤ old.length) (hnew : j' ≤ new.length) :
    Spread Hunk.Tight [] (listing old new s)
      ((groups contextLines s).filterMap (Hunk.ofGroup? old new)) := by
  have hnone : AllKept [] := fun l hl => absurd hl List.not_mem_nil
  cases h with
  | nil => exact .rest hnone
  | @cons _ _ _ _ _ e s he hk hs =>
    have hle := hs.runs.le
    cases k with
    | true =>
      obtain ⟨m, -, -, rfl⟩ := he.exists_keep hk
      rw [show (Edit.keep 0 0 m).oldLength = m from rfl,
        show (Edit.keep 0 0 m).newLength = m from rfl, Nat.zero_add] at hs hle
      exact spread_firstKeep (Nat.le_trans hle.1 hold) hs hold hnew
    | false =>
      have hbegun : Begun [] (listing old new []) :=
        .of_allKept hnone rfl fun hchanged => absurd hchanged hnone.not_changed
      have hready : Ready old new false [] [] := ⟨hbegun, Bool.noConfusion, Bool.noConfusion⟩
      rw [groups, trimFirst, if_neg (by simp [hk])]
      exact spread_splitGroups (.cons he hk hs) hold hnew (List.cons_ne_nil _ _) hready

end

/-- **Hunks are tight and apart.**  The lines of both sides are listed with their marks, and the
hunks that a diff writes show all of this listing but equal lines: each has a change, up to three
equal lines around its changes, no two neighbouring changes that are more than six equal lines
apart, and no change outside of it that is not. -/
theorem unified_spread (expected actual : Bytes) (expectedName actualName : String) :
    ∃ all : List (Mark × Bytes),
      without .inserted all = lines expected ∧ without .deleted all = lines actual ∧
        Spread Hunk.Tight [] all (hunks expected actual) ∧
        unified expected actual expectedName actualName =
          (patchLines expectedName actualName (hunks expected actual)).flatten := by
  obtain ⟨k, h⟩ := inTurn_edits (lines expected).toArray (lines actual).toArray
  obtain ⟨hold, hnew⟩ := without_flatMap_shown h.runs
  have hspread := spread_groups h (Nat.le_of_eq List.size_toArray) (Nat.le_of_eq List.size_toArray)
  refine ⟨_, ?_, ?_, hspread, unified_eq expected actual expectedName actualName⟩
  · rw [listing, hold]
    simp
  · rw [listing, hnew]
    simp

-- six equal lines between two changes are in one hunk, seven are not
example :
    (hunks (Utf8.encode "a\n1\n2\n3\n4\n5\n6\nb\n")
      (Utf8.encode "c\n1\n2\n3\n4\n5\n6\nd\n")).length = 1 ∧
    (hunks (Utf8.encode "a\n1\n2\n3\n4\n5\n6\n7\nb\n")
      (Utf8.encode "c\n1\n2\n3\n4\n5\n6\n7\nd\n")).length = 2 := by decide +kernel

end Baseline.Diff
