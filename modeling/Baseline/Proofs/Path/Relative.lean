import Baseline.Proofs.Artifact.Path
import Baseline.Proofs.Path.Names

/-!
# Relative paths of tests

A test that is named relative to the tests' directory and one that is named by its full path are
the same test (`same_of_join`): what is behind the directory is what was joined to it, up to
pieces that are no names, and of both paths only the names are left.

That a path is below the directory is said of components, so the slashes and dots between
them do not matter, and a directory whose name only begins like the last one of the tests'
directory is another directory (`not_prefix_of_sibling`).
-/

namespace Baseline.Checkout

open Component Path

variable {c : Checkout} {test : Path}

/-! ### What is behind the tests' directory -/

theorem relativeNames_of_below {more : List Component}
    (h : test.components = c.testsDir.components ++ more) :
    c.relativeNames test = more.filterMap name? := by
  have hbelow : componentsBelow? c.testsDir test = some more := by
    rw [componentsBelow?, h]
    simp
  rw [relativeNames, hbelow]
  rfl

theorem relativeNames_of_not_below (h : ¬ c.testsDir.components <+: test.components) :
    c.relativeNames test = test.names := by
  have hbelow : componentsBelow? c.testsDir test = none := by
    rw [componentsBelow?, if_neg (by simpa using h)]
  rw [relativeNames, hbelow]
  rfl

theorem components_relative (c : Checkout) (test : Path) :
    (c.relative test).components = (c.relativeNames test).map .normal :=
  components_ofNames fun _ => isName_of_mem_relativeNames

/-- **A path joined to the tests' directory** is known by its own names. -/
theorem relative_join (c : Checkout) {t : Path} (ht : t.isAbsolute = false) :
    c.relative (c.testsDir.join t) = t.normalize := by
  obtain ⟨more, hcomponents, hnames⟩ := exists_components_join c.testsDir ht
  rw [relative, relativeNames_of_below hcomponents, hnames, Path.normalize]

/-- Paths that part at one name are not below each other, however alike the two names are. -/
theorem not_prefix_of_sibling {above rest : List Component} {n more : Name}
    (hdir : c.testsDir.components = above ++ [.normal n])
    (htest : test.components = above ++ .normal (n ++ more) :: rest) (hmore : more ≠ []) :
    ¬ c.testsDir.components <+: test.components := by
  rw [hdir, htest, List.prefix_append_right_inj, List.cons_prefix_cons]
  rintro ⟨hname, -⟩
  have hsame : n = n ++ more := Component.normal.inj hname
  exact hmore (List.self_eq_append_right.mp hsame)

/-! ### One test, two names -/

/-- What is left of the path of a test. -/
structure NamesLeft (c : Checkout) (test : Path) : Prop where
  /-- Every component is a name. -/
  names : ∀ component ∈ (c.relative test).components, ∃ n, component = .normal n
  /-- Of a path below the tests' directory the names behind it are left, in their order. -/
  below : ∀ more, test.components = c.testsDir.components ++ more →
    (c.relative test).components = more.filter isName
  /-- Of any other path all names are left, in their order. -/
  elsewhere : ¬ c.testsDir.components <+: test.components →
    c.relative test = test.normalize ∧
      (c.relative test).components = test.components.filter isName
  /-- A directory beside the tests' directory, with a name that goes on from its name, is not taken
  for it. -/
  sibling : ∀ above n more rest, c.testsDir.components = above ++ [.normal n] →
    test.components = above ++ .normal (n ++ more) :: rest → more ≠ [] →
    componentsBelow? c.testsDir test = none ∧ c.relative test = test.normalize

theorem namesLeft (c : Checkout) (test : Path) : c.NamesLeft test := by
  have helsewhere : ¬ c.testsDir.components <+: test.components →
      c.relative test = test.normalize := by
    intro h
    rw [relative, relativeNames_of_not_below h, Path.normalize]
  refine ⟨?_, ?_, ?_, ?_⟩
  · intro component hmem
    rw [components_relative] at hmem
    obtain ⟨n, -, hn⟩ := List.mem_map.mp hmem
    exact ⟨n, hn.symm⟩
  · intro more h
    rw [components_relative, relativeNames_of_below h, filterMap_name?_map]
  · intro h
    exact ⟨helsewhere h, helsewhere h ▸ components_normalize test⟩
  · intro above n more rest hdir htest hmore
    have hnot := not_prefix_of_sibling hdir htest hmore
    exact ⟨by rw [componentsBelow?, if_neg (by simpa using hnot)], helsewhere hnot⟩

/-- **A test is the same by both of its names**: relative to the tests' directory, and as the full
path that this stands for.  Only names are left of any path, and joining paths puts the names of
one behind those of the other. -/
theorem same_of_join (c : Checkout) {t : Path} (ht : t.isAbsolute = false) :
    c.relative (c.testsDir.join t) = t.normalize ∧ (∀ test, c.NamesLeft test) ∧
      (∀ p : Path, p.normalize.normalize = p.normalize) ∧
      ∀ p : Path,
        (p.join t).normalize.components = p.normalize.components ++ t.normalize.components :=
  ⟨c.relative_join ht, c.namesLeft, Path.normalize_normalize, fun p => components_normalize_join p ht⟩

/-- A directory with dots and slashes, and a test that starts with a way up. -/
theorem same_of_first_join :
    (Path.ofString "../d/.//a.html/").isAbsolute = false ∧
      (ofDirectory (.ofString "./x/../Layout//")).relative
          ((Path.ofString "./x/../Layout//").join (.ofString "../d/.//a.html/")) =
        (Path.ofString "../d/.//a.html/").normalize ∧
      (Path.ofString "../d/.//a.html/").normalize = .ofString "d/a.html" :=
  ⟨by decide, (same_of_join (ofDirectory (.ofString "./x/../Layout//")) (by decide)).1, by decide⟩

example : (ofDirectory (.ofString "a/Layout")).relative (.ofString "a/LayoutTests/x") =
    .ofString "a/LayoutTests/x" := by decide

end Baseline.Checkout
