import Baseline.FileTree
import Baseline.Proofs.Path.Join

/-!
# Where a path leads

A walk looks at the tree at every step.  Where it ends does not depend on what
it sees there, only whether it gets there: `place` is that end, worked out from
the steps alone (`place_of_walk`).  So the places that two paths lead to can be
compared without a tree.

* `place_of_slot`: what a path puts somewhere new is at its place.
* `place_opened_name`: a name put behind a path goes one step down.
-/

namespace Baseline.FileTree

open Path

/-- Where a step leads from a location. -/
def Step.after (loc : Location) : Step → Location
  | .stay => loc
  | .up => loc.tail
  | .down name => name :: loc

/-- Where a path leads when every directory on its way is there. -/
def place (t : FileTree) (p : Path) : Location := (stepsOf p).foldl Step.after (t.origin p)

theorem place_congr {t t' : FileTree} (h : t'.start = t.start) (p : Path) :
    t'.place p = t.place p := by
  rw [place, place, origin, origin, h]

/-- The first location is below the second. -/
def Inside (l above : Location) : Prop := above <:+ l ∧ l ≠ above

instance (l above : Location) : Decidable (Inside l above) := inferInstanceAs (Decidable (_ ∧ _))

theorem inside_cons_append (n : Name) (ns : List Name) (above : Location) :
    Inside (n :: (ns ++ above)) above := by
  refine ⟨⟨n :: ns, rfl⟩, fun he => ?_⟩
  have hlength := congrArg List.length he
  simp only [List.length_cons, List.length_append] at hlength
  omega

/-! ### Walks -/

/-- Whether a step leads out of a directory: a name has to be there and not too long. -/
def Allows (t : FileTree) (loc : Location) : Step → Prop
  | .stay | .up => True
  | .down name => name.length ≤ longestName ∧ t.node? (name :: loc) ≠ none

theorem walk_cons_eq_ok {t : FileTree} {loc l : Location} {s : Step} {steps : List Step} :
    t.walk loc (s :: steps) = .ok l ↔
      t.node? loc = some .directory ∧ t.Allows loc s ∧ t.walk (s.after loc) steps = .ok l := by
  simp only [walk]
  by_cases hd : t.node? loc = some .directory
  · rw [if_pos hd]
    cases s with
    | stay => simp [hd, Allows, Step.after]
    | up => simp [hd, Allows, Step.after]
    | down name =>
      by_cases hlong : longestName < name.length
      · simp [hlong, Allows, Nat.not_le_of_lt hlong]
      · by_cases hnone : t.node? (name :: loc) = none
        · simp [hlong, hnone, Allows]
        · simp [hlong, hnone, hd, Allows, Step.after, Nat.le_of_not_lt hlong]
  · simp [hd]

/-- **A walk ends at the place of its steps.** -/
theorem eq_foldl_of_walk {t : FileTree} {steps : List Step} {loc l : Location}
    (h : t.walk loc steps = .ok l) : l = steps.foldl Step.after loc := by
  induction steps generalizing loc with
  | nil => exact (Except.ok.inj h).symm
  | cons s steps ih => exact ih (walk_cons_eq_ok.mp h).2.2

/-- A walk goes the same way in a tree that keeps directories and what else is there. -/
theorem walk_of_kept {t t' : FileTree}
    (hd : ∀ l, t.node? l = some .directory → t'.node? l = some .directory)
    (hs : ∀ l, t.node? l ≠ none → t'.node? l ≠ none) {steps : List Step} {loc l : Location}
    (h : t.walk loc steps = .ok l) : t'.walk loc steps = .ok l := by
  induction steps generalizing loc with
  | nil => exact h
  | cons s steps ih =>
    obtain ⟨hdir, hallow, hrest⟩ := walk_cons_eq_ok.mp h
    refine walk_cons_eq_ok.mpr ⟨hd _ hdir, ?_, ih hrest⟩
    cases s with
    | stay | up => trivial
    | down name => exact ⟨hallow.1, hs _ hallow.2⟩

theorem walk_append_eq_ok {t : FileTree} {loc l : Location} {before after : List Step} :
    t.walk loc (before ++ after) = .ok l ↔
      ∃ mid, t.walk loc before = .ok mid ∧ t.walk mid after = .ok l := by
  induction before generalizing loc with
  | nil => simp [walk]
  | cons s before ih =>
    rw [List.cons_append, walk_cons_eq_ok, ih]
    constructor
    · rintro ⟨hdir, hallow, mid, hb, ha⟩
      exact ⟨mid, walk_cons_eq_ok.mpr ⟨hdir, hallow, hb⟩, ha⟩
    · rintro ⟨mid, hb, ha⟩
      obtain ⟨hdir, hallow, hrest⟩ := walk_cons_eq_ok.mp hb
      exact ⟨hdir, hallow, mid, hrest, ha⟩

theorem place_of_walk {t : FileTree} {p : Path} {l : Location}
    (h : t.walk (t.origin p) (stepsOf p) = .ok l) : l = t.place p := eq_foldl_of_walk h

/-- The slot of a path is a name in a directory exactly when its steps but the last lead to the
directory and the last goes down to the name. -/
theorem slot_eq_entry {t : FileTree} {p : Path} {above : Location} {name : Name} :
    t.slot p = .ok (.entry above name) ↔
      refuse? p = none ∧ ∃ before, stepsOf p = before ++ [.down name] ∧
        t.walk (t.origin p) before = .ok above ∧ t.node? above = some .directory := by
  unfold slot
  cases hr : refuse? p with
  | some e => simp
  | none =>
    cases hl : (stepsOf p).getLast? with
    | none =>
      have hnil : stepsOf p = [] := List.getLast?_eq_none_iff.mp hl
      simp [hnil]
    | some last =>
      obtain ⟨before, hb⟩ := List.getLast?_eq_some_iff.mp hl
      simp only [hb, List.dropLast_concat, true_and]
      cases hw : t.walk (t.origin p) before with
      | error e =>
        simp only [reduceCtorEq, false_iff, not_exists, not_and]
        intro before' he hw'
        rw [← (List.append_inj' he rfl).1, hw] at hw'
        simp at hw'
      | ok loc =>
        by_cases hd : t.node? loc = some .directory
        · cases last with
          | stay | up =>
            simp only [if_pos hd, Except.ok.injEq, reduceCtorEq, false_iff, not_exists, not_and]
            intro before' he
            simp at he
          | down n =>
            simp only [if_pos hd, Except.ok.injEq, Slot.entry.injEq]
            constructor
            · rintro ⟨rfl, rfl⟩
              exact ⟨before, rfl, hw, hd⟩
            · rintro ⟨before', he, hw', -⟩
              obtain ⟨rfl, hn⟩ := List.append_inj' he rfl
              simp_all
        · simp only [if_neg hd, reduceCtorEq, false_iff, not_exists, not_and]
          intro before' he hw'
          rw [← (List.append_inj' he rfl).1, hw] at hw'
          rwa [← Except.ok.inj hw']

/-- **What a path puts somewhere new is at its place.** -/
theorem place_of_slot {t : FileTree} {p : Path} {above : Location} {name : Name}
    (h : t.slot p = .ok (.entry above name)) : t.place p = name :: above := by
  obtain ⟨-, before, hs, hw, -⟩ := slot_eq_entry.mp h
  rw [place, hs, List.foldl_append, ← eq_foldl_of_walk hw]
  rfl

theorem openForWriting_eq_ok {t : FileTree} {p : Path} {above : Location} {name : Name} :
    t.openForWriting p = .ok (above, name) ↔
      t.slot p = .ok (.entry above name) ∧ endsInSlash p = false ∧
        name.length ≤ longestName ∧ t.node? (name :: above) ≠ some .directory := by
  unfold openForWriting
  cases hs : t.slot p with
  | error e => simp
  | ok s =>
    cases s with
    | taken loc => simp
    | entry above' name' =>
      simp only [Except.ok.injEq, Slot.entry.injEq]
      by_cases he : endsInSlash p = true
      · simp [he]
      · by_cases hlong : longestName < name'.length
        · simp only [if_neg he, if_pos hlong, reduceCtorEq, false_iff, not_and]
          rintro ⟨-, rfl⟩ - hle
          exact absurd hle (Nat.not_le_of_lt hlong)
        · by_cases hd : t.node? (name' :: above') = some .directory
          · simp only [if_neg he, if_neg hlong, if_pos hd, reduceCtorEq, false_iff, not_and]
            rintro ⟨rfl, rfl⟩ - - hne
            exact hne hd
          · simp only [if_neg he, if_neg hlong, if_neg hd, Except.ok.injEq, Prod.mk.injEq]
            constructor
            · rintro ⟨rfl, rfl⟩
              exact ⟨⟨rfl, rfl⟩, by simpa using he, Nat.le_of_not_lt hlong, hd⟩
            · exact fun h => h.1

/-! ### Steps of paths built from others -/

@[simp] theorem stepsOf_empty : stepsOf ⟨[]⟩ = [] := rfl

theorem stepOf?_name {n : Name} (h : IsName n) : stepOf? n = some (.down n) := by
  simp [stepOf?, h.ne_nil, h.ne_dot, h.ne_dots]

theorem stepsOf_append_slash (s t : Bytes) :
    stepsOf ⟨s ++ slash :: t⟩ = stepsOf ⟨s⟩ ++ stepsOf ⟨t⟩ := by
  simp [stepsOf, segments_append_slash]

theorem stepsOf_name {n : Name} (h : IsName n) : stepsOf ⟨n⟩ = [.down n] := by
  simp [stepsOf, segments_eq_singleton h.no_slash, stepOf?_name h]

theorem stepsOf_append {s : Bytes} (hs : TakesName s) (t : Bytes) :
    stepsOf ⟨s ++ t⟩ = stepsOf ⟨s⟩ ++ stepsOf ⟨t⟩ := by
  rcases hs with rfl | hs
  · rfl
  · obtain ⟨u, rfl⟩ := List.getLast?_eq_some_iff.mp hs
    rw [List.append_assoc, List.singleton_append, stepsOf_append_slash, stepsOf_append_slash,
      stepsOf_empty, List.append_nil]

theorem stepsOf_opened (p : Path) : stepsOf ⟨p.opened⟩ = stepsOf p := by
  unfold opened
  split
  · rfl
  · rw [stepsOf_append_slash, stepsOf_empty, List.append_nil]

theorem stepsOf_join {p q : Path} (h : q.isAbsolute = false) :
    stepsOf (p.join q) = stepsOf p ++ stepsOf q := by
  rw [join_eq h, stepsOf_append (takesName_opened p), stepsOf_opened]

theorem origin_join (t : FileTree) {p q : Path} (h : q.isAbsolute = false) :
    t.origin (p.join q) = t.origin p := by
  rw [origin, origin, isAbsolute_join h]

theorem stepsOf_ofNames {ns : List Name} (h : ∀ n ∈ ns, IsName n) :
    stepsOf (ofNames ns) = ns.map .down := by
  induction ns with
  | nil => rfl
  | cons n ns ih =>
    have hn := h n (by simp)
    have hns : ∀ m ∈ ns, IsName m := fun m hm => h m (by simp [hm])
    cases ns with
    | nil => exact stepsOf_name hn
    | cons m ns =>
      rw [ofNames, stepsOf_append_slash, stepsOf_name hn]
      · exact congrArg (_ :: ·) (ih hns)
      · simp

theorem place_opened_append (t : FileTree) (p : Path) {s : Bytes} (h : isAbsolute ⟨s⟩ = false) :
    t.place ⟨p.opened ++ s⟩ = (stepsOf ⟨s⟩).foldl Step.after (t.place p) := by
  rw [place, stepsOf_append (takesName_opened p), stepsOf_opened, List.foldl_append, origin,
    isAbsolute_opened_append h]
  rfl

/-- **A name put behind a path goes one step down.** -/
theorem place_opened_name (t : FileTree) (p : Path) {n : Name} (h : IsName n) :
    t.place ⟨p.opened ++ n⟩ = n :: t.place p := by
  rw [place_opened_append t p (isAbsolute_name h.no_slash), stepsOf_name h]
  rfl

theorem place_join_ofNames (t : FileTree) (p : Path) {ns : List Name} (h : ∀ n ∈ ns, IsName n) :
    t.place (p.join (ofNames ns)) = ns.reverse ++ t.place p := by
  rw [join_eq (isAbsolute_ofNames h), place_opened_append t p (isAbsolute_ofNames h),
    stepsOf_ofNames h, List.foldl_map]
  show ns.foldl (fun loc n => n :: loc) (t.place p) = ns.reverse ++ t.place p
  induction ns generalizing p with
  | nil => rfl
  | cons n ns ih => simp [List.foldl_cons]

end Baseline.FileTree
