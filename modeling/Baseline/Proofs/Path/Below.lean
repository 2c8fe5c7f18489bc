import Mathlib.Data.List.Induction
import Baseline.Proofs.Path.Join

/-!
# Names below a path

A name put behind an opened path is one more component (`parts_opened_name`).  So names joined to
a path are the components below it (`components_join_ofNames`, `componentsBelow?_join_ofNames`),
and what is above the last of them is the path that it was put behind, up to its own
last component (`parent?_opened_name`), which has the same components (`parts_last_part`).
-/

namespace Baseline.Path

/-- A slash at the end is no component. -/
theorem parts_append_slash {s : Bytes} (hs : s ≠ []) : parts ⟨s ++ [slash]⟩ = parts ⟨s⟩ := by
  rw [parts_append_piece hs (by simp)]
  simp [partsAfter, componentOf]

theorem parts_opened (p : Path) : parts ⟨p.opened⟩ = p.parts := by
  unfold opened
  split
  · rfl
  · rename_i hend
    exact parts_append_slash fun hnil => hend (Or.inl hnil)

/-- **A name put behind an opened path** is one more component. -/
theorem parts_opened_name (p : Path) {n : Name} (h : IsName n) :
    parts ⟨p.opened ++ n⟩ = p.parts ++ [(.normal n, p.opened ++ n)] := by
  have hparts := parts_opened p
  rcases takesName_opened p with hnil | hslash
  · rw [hnil] at hparts ⊢
    rw [← hparts]
    exact parts_name h
  · obtain ⟨u, hu⟩ := List.getLast?_eq_some_iff.mp hslash
    rw [hu] at hparts ⊢
    rw [← hparts, List.append_assoc, List.singleton_append]
    by_cases hnil : u = []
    · subst hnil
      exact parts_root_name h
    · rw [parts_append_name hnil h, parts_append_slash hnil]

/-- **Names joined to a path** are the components below it. -/
theorem components_join_ofNames (p : Path) {ns : List Name} (h : ∀ n ∈ ns, IsName n) :
    (p.join (ofNames ns)).components = p.components ++ ns.map .normal := by
  induction ns using List.reverseRecOn with
  | nil =>
    have hjoin : p.join (ofNames []) = ⟨p.opened⟩ := by
      rw [join_eq (isAbsolute_ofNames h)]
      simp [ofNames, empty]
    rw [hjoin, components, parts_opened]
    simp [components]
  | append_singleton ns n ih =>
    have hns : ∀ m ∈ ns, IsName m := fun m hm => h m (List.mem_append_left _ hm)
    have hn : IsName n := h n (by simp)
    rw [join_ofNames_concat hns hn, components, parts_opened_name _ hn, List.map_append]
    show (p.join (ofNames ns)).components ++ [.normal n] = _
    rw [ih hns, List.map_append, List.append_assoc]
    rfl

theorem components_ofNames {ns : List Name} (h : ∀ n ∈ ns, IsName n) :
    (ofNames ns).components = ns.map .normal := by
  have hjoin : empty.join (ofNames ns) = ofNames ns := by
    rw [join_eq (isAbsolute_ofNames h)]
    rfl
  rw [← hjoin, components_join_ofNames empty h]
  rfl

theorem names_ofNames {ns : List Name} (h : ∀ n ∈ ns, IsName n) : (ofNames ns).names = ns := by
  rw [names, components_ofNames h]
  simp [Function.comp_def]

theorem componentsBelow?_join_ofNames (p : Path) {ns : List Name} (h : ∀ n ∈ ns, IsName n) :
    componentsBelow? p (p.join (ofNames ns)) = some (ns.map .normal) := by
  rw [componentsBelow?, components_join_ofNames p h]
  simp

/-- The parent of a name put behind a path is that path up to its last component. -/
theorem parent?_opened_name (p : Path) {n : Name} (h : IsName n) :
    parent? ⟨p.opened ++ n⟩ = some ((p.parts.getLast?.map fun part => ⟨part.2⟩).getD empty) := by
  rw [parent?, parts_opened_name p h, List.reverse_append, ← List.head?_reverse]
  cases p.parts.reverse <;> rfl

/-! ### What ends a path -/

/-- The last component of a path with one more piece is that piece, or what it was before. -/
theorem last_part_of_piece {before : List (Component × Bytes)} {s v : Bytes}
    {part : Component × Bytes} (h : (before ++ partsAfter s [v]).getLast? = some part) :
    part.2 = s ++ slash :: v ∨ partsAfter s [v] = [] ∧ before.getLast? = some part := by
  simp only [partsAfter] at h ⊢
  cases hc : componentOf v with
  | none =>
    simp only [hc, List.append_nil] at h
    exact Or.inr ⟨rfl, h⟩
  | some c =>
    simp only [hc, List.getLast?_concat, Option.some.injEq] at h
    exact Or.inl (h ▸ rfl)

/-- **A path up to its last component** has the components of the whole path. -/
theorem parts_last_part {p : Path} {part : Component × Bytes}
    (h : p.parts.getLast? = some part) : parts ⟨part.2⟩ = p.parts := by
  -- pieces are taken off the end until one of them is a component
  obtain ⟨b⟩ := p
  induction hlength : b.length using Nat.strongRecOn generalizing b with
  | _ n ih =>
    by_cases hslash : slash ∈ b
    · obtain ⟨before, after, rfl, hafter⟩ := exists_last_slash hslash
      by_cases hbefore : before = []
      · subst hbefore
        rw [List.nil_append, parts_root_piece hafter, ← List.singleton_append] at h ⊢
        rcases last_part_of_piece h with hend | ⟨hnone, hlast⟩
        · rw [hend]
          exact parts_root_piece hafter
        · obtain rfl : (.root, [slash]) = part := by simpa using hlast
          rw [hnone]
          rfl
      · rw [parts_append_piece hbefore hafter] at h ⊢
        rcases last_part_of_piece h with hend | ⟨hnone, hlast⟩
        · rw [hend]
          exact parts_append_piece hbefore hafter
        · rw [hnone, List.append_nil]
          refine ih before.length ?_ before hlast rfl
          rw [← hlength, List.length_append, List.length_cons]
          omega
    · have hnil : b ≠ [] := by
        rintro rfl
        simp [parts, segments] at h
      have hparts : parts ⟨b⟩ = [firstPart b] := by
        rw [parts_eq hnil (segments_eq_singleton hslash)]
        rfl
      rw [hparts] at h ⊢
      obtain rfl : firstPart b = part := by simpa using h
      rw [show (firstPart b).2 = b by rw [firstPart, if_neg hnil], hparts]

/-- The path of the last component, or the empty path when there is none. -/
theorem components_last_part (p : Path) :
    ((p.parts.getLast?.map fun part => (⟨part.2⟩ : Path)).getD empty).components =
      p.components := by
  cases h : p.parts.getLast? with
  | none =>
    have hnil : p.parts = [] := List.getLast?_eq_none_iff.mp h
    rw [components, components, hnil]
    rfl
  | some part => exact congrArg (List.map Prod.fst) (parts_last_part h)

end Baseline.Path
