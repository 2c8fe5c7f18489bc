import Baseline.Proofs.FileTree.Ahead

/-!
# Work in either order

Two pieces of work are done one after the other, in either order.  After the first of
them the tree is ahead by it (`ChangesOnly.aheadBy`); when the second one then does the
same as it would have done before, and no file of one is a file or a directory of the
other, both orders come to trees that look the same (`Diamond.same`).
-/

namespace Baseline.FileTree

variable {t t' : FileTree} {writes dirs : List Path}

/-- A directory was made where nothing was. -/
def Made (t t' : FileTree) (l : Location) : Prop :=
  t.node? l = none ∧ t'.node? l = some .directory

/-- **A tree is ahead of another by the work that was done in it.** -/
theorem ChangesOnly.aheadBy (h : ChangesOnly writes dirs t t') :
    t.AheadBy (fun l => ∃ p ∈ writes, t.place p = l) (t.Made t') t t' where
  start := rfl
  start' := h.start
  kept _ hl := hl
  node l := by
    rcases h.node l with he | ⟨hw, hn, data, x, hf⟩ | ⟨-, hn, hd⟩
    · exact Or.inl he
    · exact Or.inr (Or.inl ⟨hw, hn, by simp [hf]⟩)
    · exact Or.inr (Or.inr ⟨⟨hn, hd⟩, hn, hd⟩)

theorem ChangesOnly.place_of_made (h : ChangesOnly writes dirs t t') {l : Location}
    (hl : t.Made t' l) : ∃ p ∈ dirs, t.place p = l := by
  obtain ⟨hnone, hd⟩ := hl
  rcases h.node l with he | ⟨-, -, data, x, hf⟩ | ⟨hp, -⟩
  · simp [he, hnone] at hd
  · simp [hf] at hd
  · exact hp

/-! ### Work done in either order -/

/-- Two trees that look the same. -/
structure Same (t t' : FileTree) : Prop where
  start : t'.start = t.start
  node : ∀ l, t'.node? l = t.node? l

/-- Two pieces of work, done in either order: the second piece always finds a tree that is ahead by
the first one. -/
structure Diamond (a b aDirs bDirs : List Path) (t tA tB tAB tBA : FileTree) : Prop where
  left : t.ChangesOnly a aDirs tA
  right : t.ChangesOnly b bDirs tB
  left' : tB.ChangesOnly a aDirs tBA
  right' : tA.ChangesOnly b bDirs tAB
  ahead : t.AheadBy (fun l => ∃ p ∈ b, t.place p = l) (t.Made tB) tA tBA
  ahead' : t.AheadBy (fun l => ∃ p ∈ a, t.place p = l) (t.Made tA) tB tAB

variable {a b aDirs bDirs : List Path} {tA tB tAB tBA : FileTree}

/-- A file that the second piece writes is as this leaves it. -/
theorem Diamond.node?_of_written (h : Diamond a b aDirs bDirs t tA tB tAB tBA) {l : Location}
    (hfile : ∀ p ∈ a, t.place p ≠ l) (hdir : ∀ p ∈ aDirs, t.place p ≠ l) :
    tBA.node? l = tAB.node? l := by
  have hB : tBA.node? l = tB.node? l := by
    rcases h.left'.node l with he | ⟨⟨p, hp, hl⟩, -⟩ | ⟨⟨p, hp, hl⟩, -⟩
    · exact he
    · exact absurd (h.right.place p ▸ hl) (hfile p hp)
    · exact absurd (h.right.place p ▸ hl) (hdir p hp)
  rcases h.ahead'.node l with he | ⟨⟨p, hp, hl⟩, -⟩ | ⟨hm, -⟩
  · rw [hB, he]
  · exact absurd hl (hfile p hp)
  · obtain ⟨p, hp, hl⟩ := h.left.place_of_made hm
    exact absurd hl (hdir p hp)

theorem Diamond.symm (h : Diamond a b aDirs bDirs t tA tB tAB tBA) :
    Diamond b a bDirs aDirs t tB tA tBA tAB :=
  ⟨h.right, h.left, h.right', h.left', h.ahead', h.ahead⟩

/-- Where neither piece writes a file, a directory is made when one of them makes it. -/
theorem Diamond.node?_of_not_written (h : Diamond a b aDirs bDirs t tA tB tAB tBA) {l : Location}
    (ha : ∀ p ∈ a, t.place p ≠ l) (hb : ∀ p ∈ b, t.place p ≠ l) :
    tBA.node? l = tAB.node? l := by
  have hA := h.left.node l
  have hB := h.right.node l
  have hBA := h.left'.node l
  have hAB := h.right'.node l
  have hahead := h.ahead.node l
  have hahead' := h.ahead'.node l
  have hplace := h.left.place
  have hplace' := h.right.place
  -- nothing but directories can be new here, and what one piece makes the other one finds
  unfold Made at *
  grind

/-- **Work done in either order** comes to the same tree, when no file of one piece is a file or a
directory of the other. -/
theorem Diamond.same (h : Diamond a b aDirs bDirs t tA tB tAB tBA)
    (hfile : ∀ p ∈ a, ∀ q ∈ b, t.place p ≠ t.place q)
    (hdir : ∀ p ∈ a, ∀ q ∈ bDirs, t.place p ≠ t.place q)
    (hdir' : ∀ p ∈ b, ∀ q ∈ aDirs, t.place p ≠ t.place q) : Same tAB tBA where
  start := by rw [h.left'.start, h.right.start, h.right'.start, h.left.start]
  node l := by
    by_cases ha : ∃ p ∈ a, t.place p = l
    · obtain ⟨p, hp, rfl⟩ := ha
      exact (h.symm.node?_of_written (fun q hq he => hfile p hp q hq he.symm)
        fun q hq he => hdir p hp q hq he.symm).symm
    · by_cases hb : ∃ p ∈ b, t.place p = l
      · obtain ⟨q, hq, rfl⟩ := hb
        exact h.node?_of_written (fun p hp he => hfile p hp q hq he)
          fun p hp he => hdir' q hq p hp he.symm
      · exact h.node?_of_not_written (fun p hp he => ha ⟨p, hp, he⟩)
          fun p hp he => hb ⟨p, hp, he⟩

end Baseline.FileTree
