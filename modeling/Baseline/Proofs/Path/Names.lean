import Baseline.Checkout
import Baseline.Proofs.Path.Below

/-!
# Names of a path

The names of a path are those of its pieces between slashes that stand for themselves: not the
empty ones, `.` and `..` (`names_eq`).  A slash cuts a path into pieces, so the names
of what stands before it and the names of what stands after it are the names of the whole
(`names_append_slash`), and joining puts names behind names (`names_join`).

More is true of the components.  Those of a path joined to `p` begin with those of `p`
(`exists_components_join`), though `q` may lose its leading `.` there.
-/

namespace Baseline

namespace Component

/-- Whether a component is a name. -/
def isName (c : Component) : Bool := c.name?.isSome

theorem filterMap_name?_map (cs : List Component) :
    (cs.filterMap name?).map normal = cs.filter isName := by
  induction cs with
  | nil => rfl
  | cons c cs ih =>
    cases c with
    | normal n => exact congrArg (normal n :: ·) ih
    | root | current | parent => exact ih

end Component

namespace Path

open Component

theorem names_eq_filterMap (p : Path) : p.names = p.components.filterMap name? := rfl

theorem isName_of_mem_names {p : Path} {n : Name} (h : n ∈ p.names) : IsName n := by
  obtain ⟨c, hc, hn⟩ := List.mem_filterMap.mp (names_eq_filterMap p ▸ h)
  obtain ⟨⟨c, through⟩, hpart, rfl⟩ := List.mem_map.mp hc
  cases c with
  | normal m =>
    obtain rfl : m = n := Option.some.inj hn
    exact isName_of_mem_parts hpart
  | root | current | parent => simp [name?] at hn

/-! ### Names and pieces -/

/-- Whether a piece of a path stands for itself. -/
def isPiece (s : Bytes) : Bool := s ≠ [] ∧ s ≠ [dot] ∧ s ≠ [dot, dot]

theorem names_partsAfter (before : Bytes) (ss : List Bytes) :
    ((partsAfter before ss).map Prod.fst).filterMap name? = ss.filter isPiece := by
  induction ss generalizing before with
  | nil => rfl
  | cons s ss ih =>
    by_cases hnone : s = [] ∨ s = [dot]
    · have hpiece : isPiece s = false := by rcases hnone with rfl | rfl <;> rfl
      simp only [partsAfter, componentOf, if_pos hnone]
      rw [ih, List.filter_cons_of_neg (by simp [hpiece])]
    · by_cases hdots : s = [dot, dot]
      · subst hdots
        simp only [partsAfter, componentOf, if_neg hnone, if_true]
        exact ih _
      · have hpiece : isPiece s = true := by simpa [isPiece, hdots, not_or] using hnone
        simp only [partsAfter, componentOf, if_neg hnone, if_neg hdots]
        rw [List.filter_cons_of_pos hpiece, ← ih]
        rfl

theorem names_firstPart (s : Bytes) : [(firstPart s).1].filterMap name? = [s].filter isPiece := by
  unfold firstPart
  by_cases hnil : s = []
  · subst hnil
    rfl
  · by_cases hdot : s = [dot]
    · subst hdot
      rfl
    · by_cases hdots : s = [dot, dot]
      · subst hdots
        rfl
      · simp [isPiece, name?, hnil, hdot, hdots]

/-- **The names of a path are its pieces that stand for themselves.** -/
theorem names_eq (p : Path) : p.names = (segments p.bytes).filter isPiece := by
  obtain ⟨b⟩ := p
  by_cases hb : b = []
  · subst hb
    rfl
  · obtain ⟨u, more, hsegments⟩ := List.exists_cons_of_ne_nil (segments_ne_nil b)
    rw [names_eq_filterMap, components, parts_eq hb hsegments, hsegments, List.map_cons,
      ← List.singleton_append, List.filterMap_append, names_firstPart, names_partsAfter,
      ← List.filter_append, List.singleton_append]

theorem names_append_slash (s t : Bytes) : names ⟨s ++ slash :: t⟩ = names ⟨s⟩ ++ names ⟨t⟩ := by
  simp only [names_eq, segments_append_slash, List.filter_append]

/-- **Joining puts names behind names.** -/
theorem names_join (p : Path) {q : Path} (h : q.isAbsolute = false) :
    (p.join q).names = p.names ++ q.names := by
  have hopened : names ⟨p.opened⟩ = p.names := by
    rw [names, components, parts_opened]
    rfl
  rw [join_eq h]
  rcases takesName_opened p with hnil | hslash
  · rw [hnil] at hopened ⊢
    rw [← hopened]
    rfl
  · obtain ⟨u, hu⟩ := List.getLast?_eq_some_iff.mp hslash
    have hempty : names ⟨[]⟩ = [] := rfl
    rw [hu, names_append_slash, hempty, List.append_nil] at hopened
    rw [hu, List.append_assoc, List.singleton_append, names_append_slash, hopened]

/-! ### Components of a joined path -/

/-- Behind a slash at the end, a path goes on piece by piece. -/
theorem parts_append_of_slash (u t : Bytes) :
    parts ⟨u ++ slash :: t⟩ = parts ⟨u ++ [slash]⟩ ++ partsAfter u (segments t) := by
  by_cases hu : u = []
  · subst hu
    exact parts_slash_cons t
  · rw [parts_append_slash_cons hu, parts_append_slash hu]

/-- **A path joined to another begins with its components**, and goes on with the names of the
other and what else it has. -/
theorem exists_components_join (p : Path) {q : Path} (h : q.isAbsolute = false) :
    ∃ more, (p.join q).components = p.components ++ more ∧ more.filterMap name? = q.names := by
  have hparts := parts_opened p
  rw [join_eq h]
  rcases takesName_opened p with hnil | hslash
  · rw [hnil] at hparts ⊢
    have hcomponents : p.components = [] := by
      rw [components, ← hparts]
      rfl
    exact ⟨q.components, by rw [hcomponents]; rfl, rfl⟩
  · obtain ⟨u, hu⟩ := List.getLast?_eq_some_iff.mp hslash
    rw [hu] at hparts ⊢
    refine ⟨(partsAfter u (segments q.bytes)).map Prod.fst, ?_, ?_⟩
    · rw [List.append_assoc, List.singleton_append, components, parts_append_of_slash, hparts,
        List.map_append]
      rfl
    · rw [names_partsAfter, names_eq]

/-! ### Paths made of their names -/

theorem components_normalize (p : Path) : p.normalize.components = p.components.filter isName := by
  rw [normalize, components_ofNames fun _ => isName_of_mem_names, names_eq_filterMap,
    filterMap_name?_map]

theorem normalize_normalize (p : Path) : p.normalize.normalize = p.normalize := by
  have hnames : p.normalize.names = p.names := names_ofNames fun _ => isName_of_mem_names
  rw [normalize, hnames, normalize]

theorem components_normalize_join (p : Path) {q : Path} (h : q.isAbsolute = false) :
    (p.join q).normalize.components = p.normalize.components ++ q.normalize.components := by
  have hcomponents : ∀ r : Path, r.normalize.components = r.names.map .normal :=
    fun r => components_ofNames fun _ => isName_of_mem_names
  rw [hcomponents, hcomponents, hcomponents, names_join p h, List.map_append]

end Path

end Baseline
