import Baseline.Proofs.FileTree.Place
import Baseline.Proofs.Path.Below

/-!
# Where components lead

The place of a path is worked out from its pieces between slashes.  Its components say the
same (`place_eq_foldl`): the pieces that are no component lead nowhere.  So
paths with the same components have the same place (`place_eq_of_components`), and a
path leads where it does up to its last component (`place_last_part`).
-/

namespace Baseline.FileTree

open Path

/-- Where a component leads from a location, when relative paths start at `start`. -/
def followed (loc : Location) : Component → Location
  | .root => []
  | .current => loc
  | .parent => loc.tail
  | .normal name => name :: loc

/-- A piece after the first leads where its component does, or nowhere when it is none. -/
theorem foldl_partsAfter (before : Bytes) (ss : List Bytes) (loc : Location) :
    (ss.filterMap stepOf?).foldl Step.after loc =
      ((partsAfter before ss).map Prod.fst).foldl followed loc := by
  induction ss generalizing before loc with
  | nil => rfl
  | cons s ss ih =>
    by_cases hnil : s = []
    · subst hnil
      exact ih _ loc
    · by_cases hdot : s = [dot]
      · subst hdot
        exact ih _ loc
      · have hcomponent : ¬ (s = [] ∨ s = [dot]) := by simp [hnil, hdot]
        by_cases hdots : s = [dot, dot]
        · subst hdots
          exact ih _ loc.tail
        · have hstep : stepOf? s = some (.down s) := by simp [stepOf?, hnil, hdot, hdots]
          have hpart : componentOf s = some (.normal s) := by simp [componentOf, hnil, hdot, hdots]
          rw [List.filterMap_cons_some hstep]
          simp only [partsAfter, hpart]
          exact ih _ (s :: loc)

/-- **A path leads where its components lead.** -/
theorem place_eq_foldl (t : FileTree) (p : Path) :
    t.place p = p.components.foldl followed t.start := by
  obtain ⟨b⟩ := p
  by_cases hb : b = []
  · subst hb
    rfl
  · obtain ⟨u, more, hsegments⟩ := List.exists_cons_of_ne_nil (segments_ne_nil b)
    have habsolute := isAbsolute_iff hb hsegments
    have hparts : parts ⟨b⟩ = firstPart u :: partsAfter u more := parts_eq hb hsegments
    rw [place, stepsOf, hsegments, components, hparts, List.map_cons, List.foldl_cons,
      ← foldl_partsAfter, origin]
    by_cases hnil : u = []
    · -- what starts with a slash starts at the top
      subst hnil
      rw [if_pos (habsolute.mpr rfl)]
      rfl
    · rw [if_neg fun h => hnil (habsolute.mp h)]
      by_cases hdot : u = [dot]
      · subst hdot
        rfl
      · by_cases hdots : u = [dot, dot]
        · subst hdots
          rfl
        · have hstep : stepOf? u = some (.down u) := by simp [stepOf?, hnil, hdot, hdots]
          have hfirst : firstPart u = (.normal u, u) := by simp [firstPart, hnil, hdot, hdots]
          rw [List.filterMap_cons_some hstep, hfirst]
          rfl

theorem place_eq_of_components {p q : Path} (h : p.components = q.components) (t : FileTree) :
    t.place p = t.place q := by
  rw [place_eq_foldl, place_eq_foldl, h]

/-- A path up to its last component leads where the whole path does. -/
theorem place_last_part (p : Path) (t : FileTree) :
    t.place ((p.parts.getLast?.map fun part => ⟨part.2⟩).getD .empty) = t.place p :=
  place_eq_of_components (components_last_part p) t

end Baseline.FileTree
