import Mathlib.Data.List.Basic
import Baseline.Proofs.Artifact.Path
import Baseline.Proofs.Path.Relative

/-!
# Names of artifacts and of baselines

The name of an artifact is worked out from the relative path of its test, and the name of a
baseline from the path of the test as it is given.  Both go back to one name, the last of either
path (`getLast?_relativeNames`), and both leave its extension out.

They do so in two ways.  The artifact gets the bare name of the test (`fileName?_artifactPath`), the
baseline gets its stem (`fileName?_baselinePath`), and these differ for one kind of name only: two
dots with text behind them in which there is no dot (`bareName_eq_stemOf_iff`).
-/

namespace Baseline

open Path

namespace Path

variable {n : Name}

theorem getLast?_components {p : Path} (h : p.fileName? = some n) :
    p.components.getLast? = some (.normal n) := by
  unfold fileName? at h
  split at h
  · rename_i m through hlast
    obtain rfl : m = n := Option.some.inj h
    rw [components, List.getLast?_map, hlast]
    rfl
  · simp at h

/-- The names whose stem is a dot. -/
theorem stemOf_eq_dot_iff (h : IsName n) :
    stemOf n = [dot] ↔ ∃ text, dot ∉ text ∧ n = dot :: dot :: text := by
  constructor
  · intro hstem
    unfold stemOf at hstem
    split at hstem
    · exact absurd hstem h.ne_dot
    · rename_i before after _ hsplit
      subst hstem
      exact ⟨after, dot_notMem_of_splitLastDot? hsplit, splitLastDot?_eq_some hsplit⟩
    · exact absurd hstem h.ne_dot
  · rintro ⟨text, htext, rfl⟩
    have hsplit : splitLastDot? (dot :: dot :: text) = some ([dot], text) :=
      splitLastDot?_append [dot] htext
    rw [stemOf, hsplit]

theorem bareName_eq_stemOf_iff (h : IsName n) :
    bareName n = stemOf n ↔ ¬ ∃ text, dot ∉ text ∧ n = dot :: dot :: text := by
  rw [← stemOf_eq_dot_iff h, bareName]
  split
  · rename_i hstem
    simp [hstem]
  · rename_i hstem
    simp [hstem]

end Path

namespace Checkout

/-- **The last name of a test's relative path** is that of the test. -/
theorem getLast?_relativeNames {c : Checkout} {test : Path} {n : Name}
    (hn : test.fileName? = some n) (hne : c.relativeNames test ≠ []) :
    (c.relativeNames test).getLast? = some n := by
  have hlast := getLast?_components hn
  -- what is left of a list of components keeps its end as long as there is a name in it
  have hkept : ∀ cs : List Component, cs.getLast? = some (.normal n) →
      (cs.filterMap Component.name?).getLast? = some n := by
    intro cs hcs
    obtain ⟨before, rfl⟩ := List.getLast?_eq_some_iff.mp hcs
    rw [List.filterMap_append]
    exact List.getLast?_concat
  by_cases hbelow : c.testsDir.components <+: test.components
  · obtain ⟨more, hmore⟩ := hbelow
    rw [relativeNames_of_below hmore.symm] at hne ⊢
    have hnil : more ≠ [] := by
      rintro rfl
      exact hne rfl
    rw [← hmore, List.getLast?_append_of_ne_nil _ hnil] at hlast
    exact hkept more hlast
  · rw [relativeNames_of_not_below hbelow, names_eq_filterMap]
    exact hkept _ hlast

end Checkout

namespace Writer

variable (w : Writer) {test : Path} {n : Name} {suffix modifier : String}

theorem fileName?_artifactPath (test : Path) (hs : slash ∉ Utf8.encode modifier)
    (hd : dash ∈ Utf8.encode modifier) :
    (w.artifactPath test modifier).fileName? =
      some (w.artifactStem test ++ Utf8.encode modifier) := by
  rw [artifactPath_eq w test hs]
  exact fileName?_append (takesName_opened _) (w.isName_artifactName test hs hd)

theorem fileName?_baselinePath (test : Path) (hs : '/' ∉ suffix.toList) :
    (w.baselinePath test suffix).fileName? = some (Checkout.expectedName test suffix) := by
  rw [baselinePath_eq w test hs]
  exact fileName?_append (takesName_opened _) (Checkout.isName_expectedName test hs)

theorem artifactStem_eq_bareName (hn : test.fileName? = some n)
    (hrelative : (w.checkout.relative test).bytes ≠ []) : w.artifactStem test = bareName n := by
  rw [artifactStem, Checkout.getLast?_relativeNames hn (Checkout.relativeNames_ne_nil hrelative)]

/-- **The artifact of an expected output and the baseline of a test have one name**, unless the
test is called after two dots and a text without any. -/
theorem sameName_iff (hn : test.fileName? = some n)
    (hrelative : (w.checkout.relative test).bytes ≠ []) (hs : '/' ∉ suffix.toList) :
    ((w.artifactPath test (expectedMark ++ suffix)).fileName? =
        some (Checkout.expectedName test suffix) ↔
      ¬ ∃ text, dot ∉ text ∧ n = dot :: dot :: text) ∧
    ((w.expectedPath test "" suffix).fileName? = (w.baselinePath test suffix).fileName? ↔
      ¬ ∃ text, dot ∉ text ∧ n = dot :: dot :: text) := by
  have hmark : Utf8.encode (expectedMark ++ suffix) = Checkout.expectedMark ++ Utf8.encode suffix :=
    Utf8.encode_append _ _
  have hexpected : Checkout.expectedName test suffix =
      stemOf n ++ Utf8.encode (expectedMark ++ suffix) := by
    rw [Checkout.expectedName, fileStem?, hn, hmark, List.append_assoc]
    rfl
  have hslash : slash ∉ Utf8.encode (expectedMark ++ suffix) := by
    rw [hmark, List.mem_append, not_or]
    exact ⟨by decide, no_slash_encode hs⟩
  have hdash : dash ∈ Utf8.encode (expectedMark ++ suffix) := by
    rw [hmark]
    exact List.mem_append_left _ (by decide)
  have hiff : (w.artifactPath test (expectedMark ++ suffix)).fileName? =
      some (Checkout.expectedName test suffix) ↔
        ¬ ∃ text, dot ∉ text ∧ n = dot :: dot :: text := by
    rw [fileName?_artifactPath w test hslash hdash, artifactStem_eq_bareName w hn hrelative,
      hexpected, Option.some.injEq, List.append_left_inj]
    exact bareName_eq_stemOf_iff (isName_of_fileName? hn)
  refine ⟨hiff, ?_⟩
  rw [expectedPath, String.empty_append, fileName?_baselinePath w test hs]
  exact hiff

/-- A test with two dots in its name, and a slash and a dot behind it. -/
theorem sameName_of_two_extensions :
    let w : Writer := ⟨"linux", .ofString "out", .ofDirectory (.ofString "tests")⟩
    let test := Path.ofString "tests/d/a.tar.gz/."
    test.fileName? = some (Utf8.encode "a.tar.gz") ∧ (w.checkout.relative test).bytes ≠ [] ∧
      '/' ∉ ".txt".toList ∧
      (w.artifactPath test "-expected.txt").fileName? = some (Utf8.encode "a.tar-expected.txt") ∧
      (w.expectedPath test "" ".txt").fileName? = (w.baselinePath test ".txt").fileName? := by
  intro w test
  have hn : test.fileName? = some (Utf8.encode "a.tar.gz") := by decide
  have hrelative : (w.checkout.relative test).bytes ≠ [] := by decide
  have hs : '/' ∉ ".txt".toList := by decide
  have hname : ¬ ∃ text, dot ∉ text ∧ Utf8.encode "a.tar.gz" = dot :: dot :: text := by
    rintro ⟨text, -, htext⟩
    have hhead : (Utf8.encode "a.tar.gz").head? = some dot := congrArg List.head? htext
    exact absurd hhead (by decide)
  obtain ⟨hartifact, hbaseline⟩ := sameName_iff w hn hrelative hs
  exact ⟨hn, hrelative, hs, (hartifact.mpr hname).trans (by decide), hbaseline.mpr hname⟩

/-- A test called after two dots and a text has a baseline with one dot less. -/
example : (artifactPath ⟨"linux", .ofString "out", .ofDirectory (.ofString "tests")⟩
      (.ofString "tests/..x") "-expected.txt").fileName? = some (Utf8.encode "..-expected.txt") ∧
    Checkout.expectedName (.ofString "tests/..x") ".txt" = Utf8.encode ".-expected.txt" := by
  decide

end Writer

end Baseline
