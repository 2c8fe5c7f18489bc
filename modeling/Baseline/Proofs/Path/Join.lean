import Baseline.Proofs.Path.Part

/-!
# Paths joined to paths

Joining puts a slash between two paths unless the first needs none.  `opened`
is the first path with that slash, so that joining is putting bytes behind bytes
(`join_eq`), and a path of names joined to a path ends in its last name, behind
the rest of them opened (`join_ofNames_concat`).
-/

namespace Baseline.Path

/-- The bytes of a path with a slash after them, unless they are empty or end in one. -/
def opened (p : Path) : Bytes :=
  if p.bytes = [] ∨ p.bytes.getLast? = some slash then p.bytes else p.bytes ++ [slash]

theorem takesName_opened (p : Path) : TakesName p.opened := by
  unfold opened
  split
  · assumption
  · exact Or.inr (by simp)

theorem opened_of_takesName {p : Path} (h : TakesName p.bytes) : p.opened = p.bytes := if_pos h

/-- **Joining is putting bytes behind an opened path.** -/
theorem join_eq {p q : Path} (h : q.isAbsolute = false) : p.join q = ⟨p.opened ++ q.bytes⟩ := by
  unfold join opened
  rw [if_neg (by simp [h])]
  split <;> simp

theorem isAbsolute_opened_append {p : Path} {s : Bytes} (h : isAbsolute ⟨s⟩ = false) :
    isAbsolute ⟨p.opened ++ s⟩ = p.isAbsolute := by
  obtain ⟨b⟩ := p
  cases b with
  | nil => simpa [opened, isAbsolute] using h
  | cons x b =>
    unfold opened
    split <;> rfl

theorem isAbsolute_join {p q : Path} (h : q.isAbsolute = false) :
    (p.join q).isAbsolute = p.isAbsolute := by
  rw [join_eq h]
  exact isAbsolute_opened_append h

/-! ### Names joined to a path -/

theorem isAbsolute_name {n : Name} (h : slash ∉ n) : isAbsolute ⟨n⟩ = false := by
  cases n with
  | nil => rfl
  | cons b n =>
    simp only [List.mem_cons, not_or] at h
    simpa [isAbsolute] using Ne.symm h.1

theorem join_name {p : Path} {n : Name} (h : slash ∉ n) : p.join ⟨n⟩ = ⟨p.opened ++ n⟩ :=
  join_eq (isAbsolute_name h)

theorem isAbsolute_ofNames {ns : List Name} (h : ∀ n ∈ ns, IsName n) :
    (ofNames ns).isAbsolute = false := by
  cases ns with
  | nil => rfl
  | cons n ns =>
    obtain ⟨b, n', rfl⟩ : ∃ b n', n = b :: n' := List.exists_cons_of_ne_nil (h n (by simp)).ne_nil
    have hb : b ≠ slash := by
      have := (h (b :: n') (by simp)).no_slash
      simp only [List.mem_cons, not_or] at this
      exact Ne.symm this.1
    cases ns <;> simpa [ofNames, isAbsolute] using hb

theorem getLast?_ofNames_ne_slash {ns : List Name} (h : ∀ n ∈ ns, IsName n) :
    (ofNames ns).bytes.getLast? ≠ some slash := by
  induction ns with
  | nil => simp [ofNames, empty]
  | cons n ns ih =>
    cases ns with
    | nil =>
      intro hl
      exact (h n (by simp)).no_slash (List.mem_of_getLast? hl)
    | cons m ns =>
      have hns : ∀ k ∈ m :: ns, IsName k := fun k hk => h k (by simp [hk])
      have hne := ofNames_bytes_ne_nil (by simp) hns
      obtain ⟨b, s, hs⟩ := List.exists_cons_of_ne_nil hne
      have := ih hns
      rw [hs] at this
      simpa [ofNames, hs] using this

/-- **Names joined to a path** end in the last of them. -/
theorem join_ofNames_concat {p : Path} {ns : List Name} (hns : ∀ m ∈ ns, IsName m) {n : Name}
    (hn : IsName n) : p.join (ofNames (ns ++ [n])) = ⟨(p.join (ofNames ns)).opened ++ n⟩ := by
  have hall : ∀ m ∈ ns ++ [n], IsName m := by
    intro m hm
    rcases List.mem_append.mp hm with hm | hm
    · exact hns m hm
    · exact List.mem_singleton.mp hm ▸ hn
  rw [join_eq (isAbsolute_ofNames hall), join_eq (isAbsolute_ofNames hns)]
  by_cases hnil : ns = []
  · subst hnil
    have : opened ⟨p.opened ++ (ofNames []).bytes⟩ = p.opened := by
      simpa [ofNames, empty] using opened_of_takesName (p := ⟨p.opened⟩) (takesName_opened p)
    rw [this]
    rfl
  · have hne := ofNames_bytes_ne_nil hnil hns
    have hlast := getLast?_ofNames_ne_slash hns
    have : opened ⟨p.opened ++ (ofNames ns).bytes⟩ = p.opened ++ (ofNames ns).bytes ++ [slash] := by
      exact if_neg (by simp [hne, hlast])
    rw [ofNames_append_singleton hnil, this]
    simp

end Baseline.Path
