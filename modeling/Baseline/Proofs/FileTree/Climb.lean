import Baseline.Proofs.FileTree.Place
import Baseline.Proofs.Path.NoParent

/-!
# Climbing from a path

The ancestors of a path without `..` climb from it one name at a time
(`climbs_ancestors`): each of them goes down by the names of the path up to some
name, and the next one by one name less.  So they all stand on the way to the place of
the path (`place_of_mem_ancestors`).
-/

namespace Baseline.FileTree

open Path

/-! ### Steps that do not lead up -/

deriving instance DecidableEq for Step

/-- The name that a step goes down by. -/
def Step.name? : Step → Option Name
  | .down n => some n
  | .stay | .up => none

/-- The names that steps go down by. -/
def downs (steps : List Step) : List Name := steps.filterMap Step.name?

/-- No step leads up. -/
def NoUp (steps : List Step) : Prop := ∀ s ∈ steps, s ≠ .up

@[simp] theorem downs_append (before after : List Step) :
    downs (before ++ after) = downs before ++ downs after := List.filterMap_append

@[simp] theorem downs_down (n : Name) : downs [.down n] = [n] := rfl

theorem NoUp.left {before after : List Step} (h : NoUp (before ++ after)) : NoUp before :=
  fun s hs => h s (List.mem_append_left after hs)

theorem NoUp.append {before after : List Step} (h : NoUp before) (h' : NoUp after) :
    NoUp (before ++ after) := fun s hs =>
  (List.mem_append.mp hs).elim (h s) (h' s)

theorem stepOf?_eq_some {s : Bytes} {step : Step} (h : stepOf? s = some step) :
    step = .up → s = [dot, dot] := by
  rintro rfl
  unfold stepOf? at h
  split at h
  · simp at h
  · split at h
    · simp at h
    · split at h
      · assumption
      · simp at h

theorem noUp_stepsOf {p : Path} (h : p.NoParent) : NoUp (stepsOf p) := by
  rintro s hs rfl
  obtain ⟨piece, hpiece, hstep⟩ := List.mem_filterMap.mp hs
  exact h (stepOf?_eq_some hstep rfl ▸ hpiece)

/-- **Where steps lead that do not lead up**: down by their names. -/
theorem foldl_after {steps : List Step} (h : NoUp steps) (loc : Location) :
    steps.foldl Step.after loc = (downs steps).reverse ++ loc := by
  induction steps generalizing loc with
  | nil => rfl
  | cons s steps ih =>
    have hrest : NoUp steps := fun s' hs => h s' (List.mem_cons_of_mem s hs)
    rw [List.foldl_cons, ih hrest]
    cases s with
    | stay => rfl
    | up => exact absurd rfl (h .up (by simp))
    | down n => simp [downs, Step.after, Step.name?]

theorem place_of_noParent {p : Path} (h : p.NoParent) (t : FileTree) :
    t.place p = (downs (stepsOf p)).reverse ++ t.origin p := foldl_after (noUp_stepsOf h) _

/-! ### One name after the other -/

/-- Paths that climb from `p`, the highest last, and the names that the first of them goes down
by.  A path that goes down by no name, such as `.`, may stand at the top. -/
inductive Climbs (p : Path) : List Path → List Name → Prop
  | root : Climbs p [] []
  | empty (h : p.isAbsolute = false) : Climbs p [Path.empty] []
  | top {q : Path} {above : List Path} (hq : q.bytes <+: p.bytes)
    (habsolute : q.isAbsolute = p.isAbsolute) (hsteps : ∀ s ∈ stepsOf q, s = .stay)
    (h : Climbs p above []) : Climbs p (q :: above) []
  | down {q : Path} {above : List Path} {before : List Step} {n : Name}
    (hq : q.bytes <+: p.bytes) (habsolute : q.isAbsolute = p.isAbsolute)
    (hsteps : stepsOf q = before ++ [.down n]) (hup : NoUp before)
    (h : Climbs p above (downs before)) : Climbs p (q :: above) (downs before ++ [n])

theorem origin_eq {t : FileTree} {p q : Path} (h : q.isAbsolute = p.isAbsolute) :
    t.origin q = t.origin p := by
  rw [origin, origin, h]

/-- The first of the paths that climb stands at the end of the way. -/
theorem Climbs.place_first {p q : Path} {above : List Path} {ns : List Name}
    (h : Climbs p (q :: above) ns) (t : FileTree) : t.place q = ns.reverse ++ t.origin p := by
  cases h with
  | empty hrelative =>
    rw [origin, hrelative]
    rfl
  | top _ habsolute hsteps _ =>
    have hup : NoUp (stepsOf q) := fun s hs => hsteps s hs ▸ by simp
    have hnil : downs (stepsOf q) = [] :=
      List.filterMap_eq_nil_iff.mpr fun s hs => hsteps s hs ▸ rfl
    rw [FileTree.place, foldl_after hup, hnil, origin_eq habsolute]
  | down _ habsolute hsteps hup _ =>
    have hall : NoUp (stepsOf q) := hsteps ▸ hup.append (by simp [NoUp])
    rw [FileTree.place, foldl_after hall, hsteps, downs_append, downs_down, origin_eq habsolute]

/-- **Paths that climb stand on the way.** -/
theorem Climbs.place {p : Path} {ps : List Path} {ns : List Name} (h : Climbs p ps ns)
    (t : FileTree) : ∀ q ∈ ps, t.place q <:+ ns.reverse ++ t.origin p := by
  induction h with
  | root => simp
  | empty hrelative =>
    intro q hq
    exact List.mem_singleton.mp hq ▸ (Climbs.empty hrelative).place_first t ▸ List.suffix_rfl
  | @top q above hq habsolute hsteps habove ih =>
    intro q' hq'
    rcases List.mem_cons.mp hq' with rfl | hq'
    · exact (Climbs.top hq habsolute hsteps habove).place_first t ▸ List.suffix_rfl
    · exact ih q' hq'
  | @down q above before n hq habsolute hsteps hup habove ih =>
    intro q' hq'
    rcases List.mem_cons.mp hq' with rfl | hq'
    · exact (Climbs.down hq habsolute hsteps hup habove).place_first t ▸ List.suffix_rfl
    · refine (ih q' hq').trans ?_
      rw [List.reverse_append, List.append_assoc]
      exact List.suffix_append _ _

/-! ### The ancestors of a path -/

theorem stepsOf_slash_piece (b : Bytes) {s : Bytes} (h : slash ∉ s) :
    stepsOf ⟨b ++ slash :: s⟩ = stepsOf ⟨b⟩ ++ (stepOf? s).toList := by
  rw [stepsOf_append_slash, stepsOf, stepsOf, segments_eq_singleton h]
  cases hs : stepOf? s <;> simp [hs]

/-- One piece more: the step of a piece that is no `..`. -/
theorem downs_slash_piece {b s : Bytes} (h : slash ∉ s) (hup : s ≠ [dot, dot]) :
    (componentOf s = none ∧ downs (stepsOf ⟨b ++ slash :: s⟩) = downs (stepsOf ⟨b⟩) ∨
      ∃ n, componentOf s = some (.normal n) ∧
        stepsOf ⟨b ++ slash :: s⟩ = stepsOf ⟨b⟩ ++ [.down n]) ∧
    (NoUp (stepsOf ⟨b⟩) → NoUp (stepsOf ⟨b ++ slash :: s⟩)) := by
  rw [stepsOf_slash_piece b h]
  unfold stepOf? componentOf
  by_cases hnil : s = []
  · simp [hnil]
  · by_cases hdot : s = [dot]
    · refine ⟨Or.inl ⟨by simp [hdot], ?_⟩, fun hb => hb.append ?_⟩
      · simp [hdot, downs, Step.name?]
      · simp [hdot, NoUp]
    · refine ⟨Or.inr ⟨s, by simp [hnil, hdot, hup], by simp [hnil, hdot, hup]⟩,
        fun hb => hb.append ?_⟩
      simp [hnil, hdot, hup, NoUp]

/-- The paths through the components that a list of pieces stands for, the longest first. -/
def throughs (b : Bytes) (ss : List Bytes) : List Path :=
  ((partsAfter b ss).map fun part => (⟨part.2⟩ : Path)).reverse

/-- **Pieces after a path that climbs**, by induction on the pieces. -/
theorem climbs_throughs {p : Path} {b : Bytes} {ss : List Bytes} {above : List Path}
    (habove : Climbs p above (downs (stepsOf ⟨b⟩))) (hup : NoUp (stepsOf ⟨b⟩))
    (habsolute : ∀ s, isAbsolute ⟨b ++ slash :: s⟩ = p.isAbsolute)
    (hs : ∀ s ∈ ss, slash ∉ s ∧ s ≠ [dot, dot]) (hp : b ++ ss.flatMap (slash :: ·) = p.bytes) :
    Climbs p (throughs b ss ++ above) (downs (stepsOf p)) := by
  induction ss generalizing b above with
  | nil =>
    obtain rfl : b = p.bytes := by simpa using hp
    exact habove
  | cons s ss ih =>
    obtain ⟨hslash, hdots⟩ := hs s (by simp)
    have hrest : ∀ s ∈ ss, slash ∉ s ∧ s ≠ [dot, dot] := fun s' hs' => hs s' (by simp [hs'])
    have hp' : (b ++ slash :: s) ++ ss.flatMap (slash :: ·) = p.bytes := by
      rw [← hp, List.flatMap_cons, List.append_assoc]
    have habsolute' : ∀ u, isAbsolute ⟨(b ++ slash :: s) ++ slash :: u⟩ = p.isAbsolute := by
      intro u
      rw [List.append_assoc, List.cons_append]
      exact habsolute _
    obtain ⟨hpiece, hup'⟩ := downs_slash_piece (b := b) hslash hdots
    obtain ⟨hnone, hdowns⟩ | ⟨n, hsome, hsteps⟩ := hpiece
    · -- an empty piece or a `.` is no component: there is no path through it
      have hthroughs : throughs b (s :: ss) = throughs (b ++ slash :: s) ss := by
        simp only [throughs, partsAfter, hnone]
      rw [hthroughs]
      exact ih (hdowns ▸ habove) (hup' hup) habsolute' hrest hp'
    · -- a name: one path more, which goes down by it
      have hthroughs : throughs b (s :: ss) ++ above =
          throughs (b ++ slash :: s) ss ++ (⟨b ++ slash :: s⟩ :: above) := by
        simp [throughs, partsAfter, hsome]
      rw [hthroughs]
      refine ih ?_ (hup' hup) habsolute' hrest hp'
      rw [hsteps, downs_append, downs_down]
      exact .down ⟨_, hp'⟩ (habsolute s) hsteps hup habove

/-- The paths above all others: nothing is above the root, and the empty path is above the first
name of a relative path. -/
def highest (p : Path) : List Path := if p.isAbsolute then [] else [Path.empty]

/-- The first component of a path climbs. -/
theorem climbs_firstPart {p : Path} {u : Bytes} {more : List Bytes} (hp : p.bytes ≠ [])
    (h : segments p.bytes = u :: more) (hu : u ≠ [dot, dot]) :
    Climbs p (⟨(firstPart u).2⟩ :: highest p) (downs (stepsOf ⟨u⟩)) := by
  have hprefix : u <+: p.bytes := ⟨_, bytes_eq h⟩
  have hslash : slash ∉ u := no_slash_of_mem_segments (h ▸ List.mem_cons_self)
  have habsolute := isAbsolute_iff hp h
  by_cases hnil : u = []
  · subst hnil
    rw [highest, if_pos (habsolute.mpr rfl)]
    refine .top ?_ (habsolute.mpr rfl).symm (by simp [stepsOf, firstPart, segments, stepOf?]) .root
    cases more with
    | nil => exact absurd (bytes_eq h).symm hp
    | cons v more => exact ⟨v ++ more.flatMap (slash :: ·), bytes_eq h⟩
  · have hrelative : p.isAbsolute = false := by
      rw [← Bool.not_eq_true, habsolute]
      exact hnil
    have hfirst : (firstPart u).2 = u := by rw [firstPart, if_neg hnil]
    rw [highest, hrelative, hfirst]
    have hu' : isAbsolute ⟨u⟩ = p.isAbsolute := (isAbsolute_name hslash).trans hrelative.symm
    by_cases hdot : u = [dot]
    · subst hdot
      have hsteps : stepsOf ⟨[dot]⟩ = [.stay] := rfl
      exact .top hprefix hu' (by simp [hsteps]) (.empty hrelative)
    · have hsteps : stepsOf ⟨u⟩ = [] ++ [.down u] := stepsOf_name ⟨hnil, hslash, hdot, hu⟩
      rw [hsteps, downs_append, downs_down]
      exact .down hprefix hu' hsteps (by simp [NoUp]) (.empty hrelative)

theorem climbs_parts {p : Path} (hp : p.bytes ≠ []) (h : p.NoParent) :
    Climbs p ((p.parts.map fun part => (⟨part.2⟩ : Path)).reverse ++ highest p)
      (downs (stepsOf p)) := by
  cases hsegments : segments p.bytes with
  | nil => exact absurd hsegments (segments_ne_nil _)
  | cons u more =>
    have hpieces : ∀ s ∈ u :: more, slash ∉ s ∧ s ≠ [dot, dot] := fun s hs =>
      ⟨no_slash_of_mem_segments (hsegments ▸ hs), fun he => h (hsegments ▸ he ▸ hs)⟩
    have hparts : p.parts = firstPart u :: partsAfter u more := parts_eq hp hsegments
    have habsolute : ∀ s, isAbsolute ⟨u ++ slash :: s⟩ = p.isAbsolute := by
      intro s
      cases u with
      | nil => exact ((isAbsolute_iff hp hsegments).mpr rfl).symm
      | cons b u => rw [isAbsolute, isAbsolute, ← bytes_eq hsegments]; rfl
    have hup : NoUp (stepsOf ⟨u⟩) := by
      refine noUp_stepsOf fun hmem => ?_
      rw [segments_eq_singleton (hpieces u (by simp)).1, List.mem_singleton] at hmem
      exact (hpieces u (by simp)).2 hmem.symm
    have hclimbs := climbs_throughs (climbs_firstPart hp hsegments (hpieces u (by simp)).2) hup
      habsolute (fun s hs => hpieces s (by simp [hs])) (bytes_eq hsegments)
    rw [hparts]
    simpa [throughs] using hclimbs

theorem ancestors_eq {p : Path} (hp : p.bytes ≠ []) : p.ancestors =
    p :: ((p.parts.dropLast.map fun part => (⟨part.2⟩ : Path)).reverse ++ highest p) := by
  cases hsegments : segments p.bytes with
  | nil => exact absurd hsegments (segments_ne_nil _)
  | cons u more =>
    have hparts : p.parts = firstPart u :: partsAfter u more := parts_eq hp hsegments
    have habsolute := isAbsolute_iff hp hsegments
    unfold ancestors highest
    rw [hparts]
    by_cases hnil : u = []
    · have hroot : (firstPart u).1 = .root := by rw [firstPart, if_pos hnil]
      simp only [if_pos hroot, if_pos (habsolute.mpr hnil), List.append_nil]
    · have hroot : (firstPart u).1 ≠ .root := by
        rw [firstPart, if_neg hnil]
        split
        · simp
        · split <;> simp
      simp only [if_neg hroot, if_neg (fun h => hnil (habsolute.mp h))]

/-- The ancestors of a path but itself, and one path that goes down as it does, climb. -/
theorem exists_climbs {p : Path} (hp : p.bytes ≠ []) (h : p.NoParent) :
    ∃ q above, p.ancestors = p :: above ∧ Climbs p (q :: above) (downs (stepsOf p)) := by
  have hclimbs := climbs_parts hp h
  have hne : p.parts ≠ [] := by
    cases hsegments : segments p.bytes with
    | nil => exact absurd hsegments (segments_ne_nil _)
    | cons u more => simp [show p.parts = _ from parts_eq hp hsegments]
  rw [← List.dropLast_concat_getLast hne, List.map_append, List.reverse_append] at hclimbs
  exact ⟨_, _, ancestors_eq hp, hclimbs⟩

/-- **The ancestors of a path climb from it**, when it does not end in `.`. -/
theorem climbs_ancestors {p : Path} (hp : p.bytes ≠ []) (h : p.NoParent)
    (hlast : (stepsOf p).getLast? ≠ some .stay) : Climbs p p.ancestors (downs (stepsOf p)) := by
  obtain ⟨q, above, hancestors, hclimbs⟩ := exists_climbs hp h
  have hup := noUp_stepsOf h
  rw [hancestors]
  rcases List.eq_nil_or_concat (stepsOf p) with hnil | ⟨before, last, hconcat⟩
  · rw [hnil] at hclimbs ⊢
    refine .top List.prefix_rfl rfl (by simp [hnil]) ?_
    generalize hns : downs [] = ns at hclimbs
    cases hclimbs with
    | empty h => exact .root
    | top _ _ _ habove => exact habove
    | down => simp [downs] at hns
  · rw [List.concat_eq_append] at hconcat
    rw [hconcat] at hclimbs hup hlast ⊢
    obtain ⟨n, rfl⟩ : ∃ n, last = .down n := by
      cases last with
      | stay => simp at hlast
      | up => exact absurd rfl (hup .up (by simp))
      | down n => exact ⟨n, rfl⟩
    rw [downs_append, downs_down] at hclimbs ⊢
    refine .down List.prefix_rfl rfl hconcat hup.left ?_
    generalize hns : downs before ++ [n] = ns at hclimbs
    cases hclimbs with
    | empty | top => simp at hns
    | down _ _ _ _ habove => exact (List.append_inj' hns rfl).1 ▸ habove

/-- **The ancestors of a path stand on the way to its place.** -/
theorem place_of_mem_ancestors {p q : Path} (h : p.NoParent) (hq : q ∈ p.ancestors)
    (t : FileTree) : t.place q <:+ t.place p := by
  by_cases hp : p.bytes = []
  · have hancestors : p.ancestors = [p] := by simp [ancestors, parts, hp, segments]
    rw [hancestors, List.mem_singleton] at hq
    exact hq ▸ List.suffix_rfl
  · obtain ⟨q', above, hancestors, hclimbs⟩ := exists_climbs hp h
    rw [hancestors] at hq
    rcases List.mem_cons.mp hq with rfl | hq
    · exact List.suffix_rfl
    · rw [place_of_noParent h]
      exact hclimbs.place t q (List.mem_cons_of_mem q' hq)

end Baseline.FileTree
