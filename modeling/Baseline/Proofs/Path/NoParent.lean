import Baseline.Proofs.Path.Join

/-!
# Paths without `..`

A path in which no piece is `..` leads down only.  Joining keeps that
(`NoParent.join`), and so do names (`noParent_ofNames`), the parent of a path
(`NoParent.of_parent?`) and another last name (`NoParent.withFileName`).
-/

namespace Baseline.Path

/-- No piece of the path between slashes is `..`. -/
def NoParent (p : Path) : Prop := [dot, dot] ∉ segments p.bytes

instance (p : Path) : Decidable p.NoParent := inferInstanceAs (Decidable (¬ _))

theorem noParent_empty : NoParent empty := by decide

theorem noParent_name {n : Name} (h : IsName n) : NoParent ⟨n⟩ := by
  rw [NoParent, segments_eq_singleton h.no_slash, List.mem_singleton]
  exact h.ne_dots.symm

theorem noParent_append_slash {s u : Bytes} (hs : NoParent ⟨s⟩) (hu : NoParent ⟨u⟩) :
    NoParent ⟨s ++ slash :: u⟩ := by
  rw [NoParent, segments_append_slash, List.mem_append, not_or]
  exact ⟨hs, hu⟩

theorem noParent_ofNames {ns : List Name} (h : ∀ n ∈ ns, IsName n) : NoParent (ofNames ns) := by
  induction ns with
  | nil => exact noParent_empty
  | cons n ns ih =>
    have hn := noParent_name (h n (by simp))
    cases ns with
    | nil => exact hn
    | cons m ns => exact noParent_append_slash hn (ih fun k hk => h k (by simp [hk]))

theorem NoParent.opened_append {p : Path} (hp : p.NoParent) {s : Bytes} (hs : NoParent ⟨s⟩) :
    NoParent ⟨p.opened ++ s⟩ := by
  unfold opened
  split
  · rename_i hend
    rcases hend with hnil | hslash
    · rwa [hnil]
    · obtain ⟨u, hu⟩ := List.getLast?_eq_some_iff.mp hslash
      rw [NoParent, hu, segments_append_slash, List.mem_append, not_or] at hp
      rw [hu, List.append_assoc]
      exact noParent_append_slash hp.1 hs
  · rw [List.append_assoc]
    exact noParent_append_slash hp hs

/-- **Joining leads down** when both paths do. -/
theorem NoParent.join {p q : Path} (hp : p.NoParent) (hq : q.NoParent) : (p.join q).NoParent := by
  cases habsolute : q.isAbsolute with
  | true => rwa [Path.join, if_pos habsolute]
  | false =>
    rw [join_eq habsolute]
    exact hp.opened_append hq

/-! ### Parents -/

/-- A component ends at pieces of the path. -/
theorem segments_subset_of_mem_partsAfter {before : Bytes} {ss : List Bytes}
    (hs : ∀ s ∈ ss, slash ∉ s) {part : Component × Bytes} (h : part ∈ partsAfter before ss) :
    ∀ s ∈ segments part.2, s ∈ segments before ∨ s ∈ ss := by
  induction ss generalizing before with
  | nil => simp [partsAfter] at h
  | cons t ss ih =>
    have ht : segments (before ++ slash :: t) = segments before ++ [t] := by
      rw [segments_append_slash, segments_eq_singleton (hs t (by simp))]
    have hrest : part ∈ partsAfter (before ++ slash :: t) ss →
        ∀ s ∈ segments part.2, s ∈ segments before ∨ s ∈ t :: ss := by
      intro h s hmem
      have hpiece := ih (fun u hu => hs u (by simp [hu])) h s hmem
      rw [ht] at hpiece
      simp only [List.mem_append, List.mem_singleton] at hpiece
      rcases hpiece with (hb | rfl) | hss
      · exact Or.inl hb
      · exact Or.inr (by simp)
      · exact Or.inr (by simp [hss])
    simp only [partsAfter] at h
    split at h
    · rcases List.mem_cons.mp h with rfl | h
      · intro s hmem
        rw [ht, List.mem_append, List.mem_singleton] at hmem
        rcases hmem with hb | rfl
        · exact Or.inl hb
        · exact Or.inr List.mem_cons_self
      · exact hrest h
    · exact hrest h

theorem NoParent.of_mem_parts {p : Path} (hp : p.NoParent) {part : Component × Bytes}
    (h : part ∈ p.parts) : NoParent ⟨part.2⟩ := by
  cases hsegments : segments p.bytes with
  | nil => exact absurd hsegments (segments_ne_nil _)
  | cons u more =>
    have hne : p.bytes ≠ [] := by
      intro hnil
      simp [parts, hnil, segments] at h
    have hpieces : ∀ s ∈ u :: more, slash ∉ s := fun s hs =>
      no_slash_of_mem_segments (hsegments ▸ hs)
    rw [NoParent, hsegments] at hp
    rw [show p.parts = _ from parts_eq hne hsegments] at h
    rcases List.mem_cons.mp h with rfl | h
    · unfold firstPart
      split
      · decide
      · rw [NoParent, segments_eq_singleton (hpieces u (by simp)), List.mem_singleton]
        exact fun he => hp (by simp [he])
    · intro hmem
      rcases segments_subset_of_mem_partsAfter (fun s hs => hpieces s (by simp [hs])) h _ hmem
        with hu | hmore
      · rw [segments_eq_singleton (hpieces u (by simp)), List.mem_singleton] at hu
        exact hp (by simp [hu])
      · exact hp (by simp [hmore])

theorem NoParent.of_parent? {p q : Path} (hp : p.NoParent) (h : p.parent? = some q) :
    q.NoParent := by
  rcases hparts : p.parts.reverse with _ | ⟨⟨c, last⟩, _ | ⟨⟨c', through⟩, more⟩⟩
  · simp [parent?, hparts] at h
  · cases c <;> simp [parent?, hparts] at h <;> exact h ▸ noParent_empty
  · have hmem : (c', through) ∈ p.parts := by
      rw [← List.mem_reverse, hparts]
      simp
    have hthrough := hp.of_mem_parts hmem
    cases c <;> simp [parent?, hparts] at h <;> exact h ▸ hthrough

/-- **Another last name** keeps a path leading down. -/
theorem NoParent.withFileName {p : Path} (hp : p.NoParent) {n : Name} (hn : IsName n) :
    (p.withFileName n).NoParent := by
  unfold Path.withFileName
  split
  · refine NoParent.join ?_ (noParent_name hn)
    cases hparent : p.parent? with
    | none => exact noParent_empty
    | some q => exact hp.of_parent? hparent
  · exact hp.join (noParent_name hn)

end Baseline.Path
