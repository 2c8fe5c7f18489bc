import Baseline.Proofs.Artifact.Results
import Baseline.Proofs.Artifact.Saving
import Baseline.Proofs.FileTree.Ahead
import Baseline.Proofs.FileTree.Component

/-!
# Writes that stay inside

A test may have any path, and still its artifacts stand inside the output directory and its
baselines inside the platform's.  Each of them is the path of the root, the names of the
test's relative path but the last, and one more name (`NameUnder`).  Nothing in that can
lead up or start over: of a test's path only names are left (`isName_of_mem_relativeNames`),
and what is put behind them has a dash and no slash (`isName_of_dash`).

The directory that is made for the artifacts is worked out in another way than their
paths.  That the parent of an artifact is this directory is a fact about
components: the two may be written differently (`components_parent?_artifactPath`).
-/

namespace Baseline

open Action FileTree Path

namespace Path

/-- A path that is a root, a directory below it and exactly one more name. -/
structure NameUnder (root dir : Path) (n : Name) (p : Path) : Prop where
  isName : IsName n
  eq : p = (root.join dir).join ⟨n⟩
  components : p.components = root.components ++ dir.components ++ [.normal n]
  /-- It leads down from where the root leads. -/
  place : ∀ t : FileTree, t.place p = n :: (dir.names.reverse ++ t.place root)

theorem NameUnder.inside {root dir p : Path} {n : Name} (h : NameUnder root dir n p)
    (t : FileTree) : Inside (t.place p) (t.place root) := by
  rw [h.place]
  exact inside_cons_append n _ _

theorem nameUnder_ofNames (root : Path) {ns : List Name} (hns : ∀ m ∈ ns, IsName m) {n : Name}
    (hn : IsName n) :
    NameUnder root (ofNames ns) n ⟨(root.join (ofNames ns)).opened ++ n⟩ := by
  refine ⟨hn, (join_name hn.no_slash).symm, ?_, ?_⟩
  · have hparts := parts_opened_name (root.join (ofNames ns)) hn
    rw [Path.components, hparts, List.map_append, components_ofNames hns,
      ← components_join_ofNames root hns]
    rfl
  · intro t
    rw [place_opened_name t _ hn, place_join_ofNames t root hns, names_ofNames hns]

end Path

namespace Checkout

/-- What is above the name of a test is made of names. -/
theorem exists_relativeParent_eq (c : Checkout) (test : Path) :
    ∃ ns, (∀ n ∈ ns, IsName n) ∧ c.relativeParent test = ofNames ns := by
  refine ⟨(c.relativeNames test).dropLast, ?_, c.relativeParent_eq test⟩
  intro n hn
  exact isName_of_mem_relativeNames (List.dropLast_subset _ hn)

end Checkout

namespace Writer

variable {w : Writer} {test : Path} {tag extension suffix modifier : String}

/-- The marks of all artifacts. -/
def marks : List String := [actualMark, expectedMark, diffMark, wordDiffMark]

theorem modifier_of_mark (ht : '/' ∉ tag.toList) (he : '/' ∉ extension.toList) {mark : String}
    (h : mark ∈ marks) : slash ∉ Utf8.encode (tag ++ mark ++ extension) ∧
      dash ∈ Utf8.encode (tag ++ mark ++ extension) := by
  have hmark : ∀ mark ∈ marks, slash ∉ Utf8.encode mark ∧ dash ∈ Utf8.encode mark := by decide
  obtain ⟨hslash, hdash⟩ := hmark mark h
  simp only [Utf8.encode_append, List.mem_append, not_or]
  exact ⟨⟨⟨no_slash_encode ht, hslash⟩, no_slash_encode he⟩, Or.inl (Or.inr hdash)⟩

/-! ### Where artifacts and baselines stand -/

/-- The directory of the artifacts, opened, is the parent of the relative path below the root. -/
theorem opened_artifactDir (w : Writer) (test : Path) :
    (w.artifactDir test).opened = (w.outputDir.join (w.checkout.relativeParent test)).opened := by
  unfold artifactDir Checkout.relativeParent
  cases (w.checkout.relative test).parent? with
  | some parent => rfl
  | none =>
    have hjoin : w.outputDir.join .empty = ⟨w.outputDir.opened⟩ := by
      rw [join_eq rfl]
      simp [Path.empty]
    have hopened : opened ⟨w.outputDir.opened⟩ = w.outputDir.opened :=
      opened_of_takesName (takesName_opened w.outputDir)
    show w.outputDir.opened = (w.outputDir.join .empty).opened
    rw [hjoin, hopened]

theorem nameUnder_artifactPath (w : Writer) (test : Path) (hs : slash ∉ Utf8.encode modifier)
    (hd : dash ∈ Utf8.encode modifier) :
    NameUnder w.outputDir (w.checkout.relativeParent test)
      (w.artifactStem test ++ Utf8.encode modifier) (w.artifactPath test modifier) := by
  obtain ⟨ns, hns, hparent⟩ := w.checkout.exists_relativeParent_eq test
  rw [artifactPath_eq w test hs, opened_artifactDir, hparent]
  exact nameUnder_ofNames w.outputDir hns (w.isName_artifactName test hs hd)

theorem nameUnder_baselinePath (w : Writer) (test : Path) (h : '/' ∉ suffix.toList) :
    NameUnder (w.checkout.platformRoot w.platform) (w.checkout.relativeParent test)
      (Checkout.expectedName test suffix) (w.baselinePath test suffix) := by
  obtain ⟨ns, hns, hparent⟩ := w.checkout.exists_relativeParent_eq test
  rw [baselinePath_eq w test h, baselineDir, Checkout.platformDirectory, hparent]
  exact nameUnder_ofNames _ hns (Checkout.isName_expectedName test h)

/-- **The parent of an artifact** has the components of the directory of the artifacts. -/
theorem components_parent?_artifactPath (w : Writer) (test : Path)
    (hs : slash ∉ Utf8.encode modifier) (hd : dash ∈ Utf8.encode modifier) :
    ∃ dir, (w.artifactPath test modifier).parent? = some dir ∧
      dir.components = (w.artifactDir test).components := by
  have hname := (nameUnder_artifactPath w test hs hd).isName
  refine ⟨_, ?_, components_last_part (w.artifactDir test)⟩
  rw [artifactPath_eq w test hs, parent?_opened_name _ hname]

/-! ### What a call writes -/

theorem inside_of_mem_resultPaths (ht : '/' ∉ tag.toList) (he : '/' ∉ extension.toList)
    {p : Path} (hp : p ∈ w.resultPaths test tag extension) (t : FileTree) :
    Inside (t.place p) (t.place w.outputDir) := by
  rw [resultPaths_eq] at hp
  obtain ⟨m, hm, rfl⟩ := List.mem_map.mp hp
  have hunder :=
    nameUnder_artifactPath w test (no_slash_resultMarks ht he hm) (dash_mem_resultMarks hm)
  exact hunder.inside t

/-- **Where a call writes.**  However it ends, files change inside the output directory only, if the
tool that is called for a word diff spares them. -/
theorem inside_of_writeResults (ht : '/' ∉ tag.toList) (he : '/' ∉ extension.toList)
    (actual expected : Option Bytes) (diffs : Diffs) {r : Run} {l : Location}
    (hs : w.ToolSparesResults test tag extension (wantsWords actual expected diffs) r)
    (hl : (endOf (w.writeResults test tag extension actual expected diffs r)).files.content? l ≠
      r.files.content? l) : Inside l (r.files.place w.outputDir) := by
  obtain ⟨p, hp, rfl⟩ := (changesOnly_of_writeResults hs).exists_place hl
  exact inside_of_mem_resultPaths ht he (mem_resultPaths_of_written hp) r.files

/-- **Where a baseline is written.**  However it ends, no other file changes. -/
theorem place_of_saveBaseline (w : Writer) (test : Path) (data : Bytes) (suffix : String)
    {r : Run} {l : Location}
    (hl : (endOf (w.saveBaseline test data suffix r)).files.content? l ≠ r.files.content? l) :
    r.files.place (w.baselinePath test suffix) = l := by
  have hwork := w.saveBaseline_fileWork test data suffix (List.mem_singleton_self _)
    (fun _ hq => hq) r
  obtain ⟨p, hp, rfl⟩ := hwork.files.exists_place hl
  rw [List.mem_singleton.mp hp]

/-! ### The whole of it -/

/-- The artifacts and baselines of a test stand inside their roots. -/
structure Contained (w : Writer) (test : Path) (tag extension suffix : String) : Prop where
  /-- What is above the name of the test is made of names. -/
  relative : ∃ ns : List Name, (∀ n ∈ ns, IsName n) ∧
    (w.checkout.relativeParent test).components = ns.map .normal
  artifact : ∀ mark ∈ marks, ∃ n, NameUnder w.outputDir (w.checkout.relativeParent test) n
    (w.artifactPath test (tag ++ mark ++ extension))
  /-- The parent of an artifact is the directory of the artifacts. -/
  parent : ∀ mark ∈ marks, ∃ dir,
    (w.artifactPath test (tag ++ mark ++ extension)).parent? = some dir ∧
    dir.components = (w.artifactDir test).components
  /-- It is there once the directory of the artifacts has been made. -/
  made : ∀ mark ∈ marks, ∀ dir,
    (w.artifactPath test (tag ++ mark ++ extension)).parent? = some dir →
    ∀ r r', w.ensureOutputDirectory test r = .ok () r' →
      r'.files.place dir = r'.files.place (w.artifactDir test) ∧
        r'.files.node? (r'.files.place dir) = some .directory
  baseline : ∃ n, NameUnder (w.checkout.platformRoot w.platform) (w.checkout.relativeParent test) n
    (w.baselinePath test suffix)
  /-- A baseline is written there. -/
  saved : ∀ data r path r', w.saveBaseline test data suffix r = .ok path r' →
    path = w.baselinePath test suffix ∧ r'.files.readFile path = .ok data
  /-- However the results are written, files change inside the output directory only, if the tool
  that is called for a word diff spares them. -/
  results : ∀ actual expected diffs r l,
    w.ToolSparesResults test tag extension (wantsWords actual expected diffs) r →
    (endOf (w.writeResults test tag extension actual expected diffs r)).files.content? l ≠
      r.files.content? l → Inside l (r.files.place w.outputDir)
  /-- However a baseline is saved, a file changes inside the directory of the platform only. -/
  baselines : ∀ data r l,
    (endOf (w.saveBaseline test data suffix r)).files.content? l ≠ r.files.content? l →
      Inside l (r.files.place (w.checkout.platformRoot w.platform))

/-- **No test makes a write leave its root.** -/
theorem contained_of_no_slash (w : Writer) (test : Path) (ht : '/' ∉ tag.toList)
    (he : '/' ∉ extension.toList) (hs : '/' ∉ suffix.toList) :
    w.Contained test tag extension suffix := by
  have hbaseline := w.nameUnder_baselinePath test hs
  obtain ⟨ns, hns, hparent⟩ := w.checkout.exists_relativeParent_eq test
  refine
    { relative := ⟨ns, hns, hparent ▸ components_ofNames hns⟩
      artifact := ?_, parent := ?_, made := ?_, baseline := ⟨_, hbaseline⟩, saved := ?_
      results := ?_, baselines := ?_ }
  · intro mark hm
    obtain ⟨hslash, hdash⟩ := modifier_of_mark ht he hm
    exact ⟨_, w.nameUnder_artifactPath test hslash hdash⟩
  · intro mark hm
    obtain ⟨hslash, hdash⟩ := modifier_of_mark ht he hm
    exact w.components_parent?_artifactPath test hslash hdash
  · intro mark hm dir hdir r r' h
    obtain ⟨hslash, hdash⟩ := modifier_of_mark ht he hm
    obtain ⟨dir', hdir', hcomponents⟩ := w.components_parent?_artifactPath test hslash hdash
    obtain rfl : dir' = dir := Option.some.inj (hdir'.symm.trans hdir)
    obtain ⟨files, hfiles, rfl⟩ := Run.ensureDirectory_eq_ok.mp h
    have hplace := place_eq_of_components hcomponents files
    exact ⟨hplace, hplace ▸ directory_of_ensureDirectory hfiles⟩
  · intro data r path r' h
    obtain ⟨rfl, -⟩ := saveBaseline_eq_ok.mp h
    exact ⟨rfl, readFile_of_saveBaseline h⟩
  · intro actual expected diffs r l hspare hl
    exact inside_of_writeResults ht he actual expected diffs hspare hl
  · intro data r l hl
    rw [← w.place_of_saveBaseline test data suffix hl]
    exact hbaseline.inside r.files

/-- A test outside the checkout, with a way up. -/
theorem contained_of_way_up :
    '/' ∉ "-tag".toList ∧ '/' ∉ ".txt".toList ∧
      Contained ⟨"linux", .ofString "out", .ofDirectory (.ofString "tests")⟩
        (.ofString "/../../etc/passwd.html") "-tag" ".txt" ".txt" :=
  ⟨by decide, by decide, contained_of_no_slash _ _ (by decide) (by decide) (by decide)⟩

example : artifactPath ⟨"linux", .ofString "out", .ofDirectory (.ofString "tests")⟩
    (.ofString "/../../etc/passwd.html") "-actual.txt" = .ofString "out/etc/passwd-actual.txt" := by
  decide

end Writer

end Baseline
