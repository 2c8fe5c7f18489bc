import Baseline.Proofs.Artifact.Path

/-!
# Artifacts of different tests

An artifact is called after the relative path of its test, without the extension of the
last name: `bare` is what is left (`artifactPath_of_bare`).  So two tests whose relative paths
differ in that extension only have the same artifacts, and two tests with different
bare paths have no artifact in common (`apart_iff`).

The proof reads an artifact's name from its end.  Two places are the same only if the directories
are, so the stems of the two names differ; then the names can be the same only if
one mark ends in the other, and no mark of a text does.  A word diff has an extension of its own,
which a text can have too: `a-actual` has its word diff where `a` has its output when outputs are
given the extension `-wdiff.html`.
-/

namespace Baseline

open Path

namespace Path

/-- A path with names joined to it, opened. -/
theorem opened_join_ofNames {p : Path} {ns : List Name} (hns : ∀ n ∈ ns, IsName n) :
    (p.join (ofNames ns)).opened = p.opened ++ (ofNames ns).opened := by
  rw [join_eq (isAbsolute_ofNames hns)]
  by_cases hnil : ns = []
  · have hp : opened ⟨p.opened⟩ = p.opened := opened_of_takesName (takesName_opened p)
    have he : (ofNames []).opened = [] := rfl
    rw [hnil, he]
    simpa [ofNames, empty] using hp
  · have hne := ofNames_bytes_ne_nil hnil hns
    have hlast := getLast?_ofNames_ne_slash hns
    have hall : opened ⟨p.opened ++ (ofNames ns).bytes⟩ =
        p.opened ++ (ofNames ns).bytes ++ [slash] := if_neg (by simp [hne, hlast])
    have hnames : (ofNames ns).opened = (ofNames ns).bytes ++ [slash] :=
      if_neg (by simp [hne, hlast])
    rw [hall, hnames, List.append_assoc]

theorem ofNames_concat {ns : List Name} (hns : ∀ m ∈ ns, IsName m) (n : Name) :
    ofNames (ns ++ [n]) = ⟨(ofNames ns).opened ++ n⟩ := by
  by_cases hnil : ns = []
  · subst hnil
    rfl
  · have hne := ofNames_bytes_ne_nil hnil hns
    have hlast := getLast?_ofNames_ne_slash hns
    have hopened : (ofNames ns).opened = (ofNames ns).bytes ++ [slash] :=
      if_neg (by simp [hne, hlast])
    rw [ofNames_append_singleton hnil, hopened]
    simp

end Path

namespace Checkout

/-- The path of a test relative to the tests' directory, without the extension of its last name. -/
def bare (c : Checkout) (test : Path) : Path := (c.relative test).withoutExtension

/-- The names of a relative path that is not empty, the last one apart. -/
theorem exists_relativeNames_eq {c : Checkout} {test : Path} (h : (c.relative test).bytes ≠ []) :
    ∃ before last, c.relativeNames test = before ++ [last] ∧ (∀ n ∈ before, IsName n) ∧
      IsName last := by
  have hnil := relativeNames_ne_nil h
  have hnames : ∀ n ∈ c.relativeNames test, IsName n := fun _ => isName_of_mem_relativeNames
  refine ⟨_, _, (List.dropLast_concat_getLast hnil).symm, fun n hn => ?_, ?_⟩
  · exact hnames n (List.dropLast_subset _ hn)
  · exact hnames _ (List.getLast_mem hnil)

theorem bare_eq {c : Checkout} {test : Path} {before : List Name} {last : Name}
    (h : c.relativeNames test = before ++ [last]) (hbefore : ∀ n ∈ before, IsName n)
    (hlast : IsName last) : c.bare test = ⟨(ofNames before).opened ++ bareName last⟩ := by
  rw [bare, relative, h, ofNames_concat hbefore]
  exact withoutExtension_append (takesName_opened _) hlast

end Checkout

namespace Writer

variable {w : Writer} {test test' : Path} {tag extension : String}

/-! ### What an artifact is called after -/

/-- **An artifact is called after the bare path of its test.** -/
theorem artifactPath_of_bare (h : (w.checkout.relative test).bytes ≠ []) (modifier : String) :
    w.artifactPath test modifier =
      ⟨w.outputDir.opened ++ (w.checkout.bare test).bytes ++ Utf8.encode modifier⟩ := by
  obtain ⟨before, last, hnames, hbefore, hlast⟩ := Checkout.exists_relativeNames_eq h
  rw [Checkout.bare_eq hnames hbefore hlast, artifactPath, if_neg h, Checkout.relative, hnames,
    join_ofNames_concat hbefore hlast, withoutExtension_append (takesName_opened _) hlast,
    opened_join_ofNames hbefore]
  simp [append]

/-- Artifacts with one place are in one directory and have one name, so with different bare paths
their stems differ. -/
theorem stem_of_place_eq (h : (w.checkout.relative test).bytes ≠ [])
    (h' : (w.checkout.relative test').bytes ≠ [])
    (hne : w.checkout.bare test ≠ w.checkout.bare test')
    {m m' : String} (hm : slash ∉ Utf8.encode m ∧ dash ∈ Utf8.encode m)
    (hm' : slash ∉ Utf8.encode m' ∧ dash ∈ Utf8.encode m') {t : FileTree}
    (he : t.place (w.artifactPath test m) = t.place (w.artifactPath test' m')) :
    w.artifactStem test ≠ w.artifactStem test' ∧
      w.artifactStem test ++ Utf8.encode m = w.artifactStem test' ++ Utf8.encode m' := by
  obtain ⟨before, last, hnames, hbefore, hlast⟩ := Checkout.exists_relativeNames_eq h
  obtain ⟨before', last', hnames', hbefore', hlast'⟩ := Checkout.exists_relativeNames_eq h'
  have hstem : w.artifactStem test = bareName last := by simp [artifactStem, hnames]
  have hstem' : w.artifactStem test' = bareName last' := by simp [artifactStem, hnames']
  rw [w.place_artifactPath test hm.1 hm.2, w.place_artifactPath test' hm'.1 hm'.2,
    w.place_artifactDir, w.place_artifactDir, hnames, hnames', List.dropLast_concat,
    List.dropLast_concat] at he
  obtain ⟨hname, habove⟩ := List.cons.inj he
  have hsame : before = before' := List.reverse_inj.mp (List.append_cancel_right habove)
  refine ⟨fun hs => hne ?_, hname⟩
  rw [Checkout.bare_eq hnames hbefore hlast, Checkout.bare_eq hnames' hbefore' hlast', hsame,
    ← hstem, ← hstem', hs]

/-! ### Marks told apart by their ends -/

/-- The marks of the texts of a call. -/
def textMarks : List String := [actualMark, expectedMark, diffMark]

theorem exists_textMark {p : Path} (hp : p ∈ w.textPaths test tag extension) :
    ∃ mark ∈ textMarks, p = w.artifactPath test (tag ++ mark ++ extension) := by
  simp only [textPaths, List.mem_cons, List.not_mem_nil, or_false] at hp
  rcases hp with rfl | rfl | rfl
  · exact ⟨actualMark, by simp [textMarks], rfl⟩
  · exact ⟨expectedMark, by simp [textMarks], rfl⟩
  · exact ⟨diffMark, by simp [textMarks], rfl⟩

theorem suffix_or_of_append_eq {α : Type} {a b s u : List α} (h : a ++ s = b ++ u) :
    s <:+ u ∨ u <:+ s :=
  List.suffix_or_suffix_of_suffix (h ▸ List.suffix_append a s) (List.suffix_append b u)

/-- No text's mark ends in another's. -/
theorem textMarks_unsuffixed : ∀ mark ∈ textMarks, ∀ mark' ∈ textMarks,
    Utf8.encode mark <:+ Utf8.encode mark' → mark = mark' := by decide

/-- No text's mark ends in the beginning of a word diff's mark, nor the other way round. -/
theorem textMarks_unlike_wordDiffMark :
    ∀ n < (Utf8.encode wordDiffMark).length, ∀ mark ∈ textMarks,
      ¬ Utf8.encode mark <:+ (Utf8.encode wordDiffMark).take (n + 1) ∧
      ¬ (Utf8.encode wordDiffMark).take (n + 1) <:+ Utf8.encode mark := by decide

/-- Different stems give the texts of one extension different names. -/
theorem textName_ne {s s' : Name} (hs : s ≠ s') {mark mark' : String} (hm : mark ∈ textMarks)
    (hm' : mark' ∈ textMarks) :
    s ++ Utf8.encode (tag ++ mark ++ extension) ≠
      s' ++ Utf8.encode (tag ++ mark' ++ extension) := by
  intro he
  simp only [Utf8.encode_append, ← List.append_assoc] at he
  have hmarks := List.append_cancel_right he
  obtain rfl : mark = mark' := by
    rcases suffix_or_of_append_eq hmarks with h | h
    · exact textMarks_unsuffixed mark hm mark' hm' h
    · exact (textMarks_unsuffixed mark' hm' mark hm h).symm
  exact hs (List.append_cancel_right (List.append_cancel_right hmarks))

/-- A text is not named like a word diff, unless its extension ends like one. -/
theorem textName_ne_wordDiffName {s s' : Name} {mark : String} (hm : mark ∈ textMarks)
    (hext : ¬ Utf8.encode wordDiffMark <:+ Utf8.encode extension) :
    s ++ Utf8.encode (tag ++ mark ++ extension) ≠ s' ++ Utf8.encode (tag ++ wordDiffMark) := by
  intro he
  simp only [Utf8.encode_append, ← List.append_assoc] at he
  -- the extension is an end of the word diff's mark, and a text's mark ends like what is before it
  obtain ⟨begin, hbegin⟩ := (suffix_or_of_append_eq he).resolve_right hext
  rw [← hbegin, ← List.append_assoc] at he
  cases begin with
  | nil => exact hext (by rw [← hbegin]; simp)
  | cons b begin =>
    have htake : (Utf8.encode wordDiffMark).take (begin.length + 1) = b :: begin := by
      rw [← hbegin]
      simp
    have hlength : begin.length < (Utf8.encode wordDiffMark).length := by
      rw [← hbegin, List.length_append, List.length_cons]
      omega
    have hunlike := textMarks_unlike_wordDiffMark begin.length hlength mark hm
    rw [htake] at hunlike
    rcases suffix_or_of_append_eq (List.append_cancel_right he) with h | h
    · exact hunlike.1 h
    · exact hunlike.2 h

/-! ### Two tests -/

/-- Two tests that have no artifact in common, wherever the paths lead; when texts have an extension
that ends like the name of a word diff, a text may be where the other test has its word diff. -/
structure Apart (w : Writer) (test test' : Path) (tag extension : String) : Prop where
  texts : ∀ p ∈ w.textPaths test tag extension, ∀ p' ∈ w.textPaths test' tag extension,
    ∀ t : FileTree, t.place p ≠ t.place p'
  words : ∀ t : FileTree, t.place (w.wordDiffPath test tag) ≠ t.place (w.wordDiffPath test' tag)
  all : ¬ Utf8.encode wordDiffMark <:+ Utf8.encode extension →
    ∀ p ∈ w.resultPaths test tag extension, ∀ p' ∈ w.resultPaths test' tag extension,
      ∀ t : FileTree, t.place p ≠ t.place p'

/-- Tests with one bare path have all artifacts in common. -/
theorem resultPaths_of_bare_eq (h : (w.checkout.relative test).bytes ≠ [])
    (h' : (w.checkout.relative test').bytes ≠ [])
    (hbare : w.checkout.bare test = w.checkout.bare test') :
    w.resultPaths test tag extension = w.resultPaths test' tag extension := by
  rw [resultPaths_eq, resultPaths_eq]
  refine List.map_congr_left fun m _ => ?_
  rw [artifactPath_of_bare h, artifactPath_of_bare h', hbare]

theorem mem_resultMarks_of_textMark {mark : String} (h : mark ∈ textMarks) :
    tag ++ mark ++ extension ∈ resultMarks tag extension := by
  simp only [textMarks, List.mem_cons, List.not_mem_nil, or_false] at h
  rcases h with rfl | rfl | rfl <;> simp [resultMarks]

/-- Tests with different bare paths have none in common. -/
theorem apart_of_bare_ne (ht : '/' ∉ tag.toList) (he : '/' ∉ extension.toList)
    (h : (w.checkout.relative test).bytes ≠ []) (h' : (w.checkout.relative test').bytes ≠ [])
    (hne : w.checkout.bare test ≠ w.checkout.bare test') :
    w.Apart test test' tag extension := by
  have hmark : ∀ m ∈ resultMarks tag extension, slash ∉ Utf8.encode m ∧ dash ∈ Utf8.encode m :=
    fun m hm => ⟨no_slash_resultMarks ht he hm, dash_mem_resultMarks hm⟩
  have htext : ∀ mark ∈ textMarks, slash ∉ Utf8.encode (tag ++ mark ++ extension) ∧
      dash ∈ Utf8.encode (tag ++ mark ++ extension) :=
    fun mark hm => hmark _ (mem_resultMarks_of_textMark hm)
  have hword := hmark (tag ++ wordDiffMark) (by simp [resultMarks])
  have htexts : ∀ p ∈ w.textPaths test tag extension, ∀ p' ∈ w.textPaths test' tag extension,
      ∀ t : FileTree, t.place p ≠ t.place p' := by
    intro p hp p' hp' t hplace
    obtain ⟨mark, hm, rfl⟩ := exists_textMark hp
    obtain ⟨mark', hm', rfl⟩ := exists_textMark hp'
    obtain ⟨hstem, hname⟩ := stem_of_place_eq h h' hne (htext mark hm) (htext mark' hm') hplace
    exact textName_ne hstem hm hm' hname
  have hwords : ∀ t : FileTree,
      t.place (w.wordDiffPath test tag) ≠ t.place (w.wordDiffPath test' tag) := by
    intro t hplace
    obtain ⟨hstem, hname⟩ := stem_of_place_eq h h' hne hword hword hplace
    exact hstem (List.append_cancel_right hname)
  refine ⟨htexts, hwords, fun hext p hp p' hp' t hplace => ?_⟩
  rcases List.mem_append.mp hp with hp | hp <;> rcases List.mem_append.mp hp' with hp' | hp'
  · exact htexts p hp p' hp' t hplace
  · obtain ⟨mark, hm, rfl⟩ := exists_textMark hp
    rw [List.mem_singleton.mp hp'] at hplace
    exact textName_ne_wordDiffName hm hext
      (stem_of_place_eq h h' hne (htext mark hm) hword hplace).2
  · obtain ⟨mark, hm, rfl⟩ := exists_textMark hp'
    rw [List.mem_singleton.mp hp] at hplace
    exact textName_ne_wordDiffName hm hext
      (stem_of_place_eq h h' hne hword (htext mark hm) hplace).2.symm
  · rw [List.mem_singleton.mp hp, List.mem_singleton.mp hp'] at hplace
    exact hwords t hplace

/-- **Two tests have no artifact in common when their bare paths differ**, and all of them when
they do not. -/
theorem apart_iff (ht : '/' ∉ tag.toList) (he : '/' ∉ extension.toList)
    (h : (w.checkout.relative test).bytes ≠ []) (h' : (w.checkout.relative test').bytes ≠ []) :
    (w.Apart test test' tag extension ↔ w.checkout.bare test ≠ w.checkout.bare test') ∧
    (w.checkout.bare test = w.checkout.bare test' →
      w.resultPaths test tag extension = w.resultPaths test' tag extension) := by
  refine ⟨⟨fun hapart hbare => ?_, apart_of_bare_ne ht he h h'⟩, resultPaths_of_bare_eq h h'⟩
  have hpaths : w.textPaths test tag extension ++ [w.wordDiffPath test tag] =
      w.textPaths test' tag extension ++ [w.wordDiffPath test' tag] :=
    resultPaths_of_bare_eq h h' hbare
  obtain ⟨-, hlast⟩ := List.append_inj' hpaths rfl
  have hword : w.wordDiffPath test tag = w.wordDiffPath test' tag := List.singleton_inj.mp hlast
  exact hapart.words .empty (by rw [hword])

/-- Two tests in different directories. -/
theorem apart_in_two_directories :
    let w : Writer := ⟨"linux", .ofString "results", .ofDirectory (.ofString "LayoutTests")⟩
    w.checkout.bare (.ofString "LayoutTests/a.html") ≠
        w.checkout.bare (.ofString "LayoutTests/d/a.html") ∧
      w.Apart (.ofString "LayoutTests/a.html") (.ofString "LayoutTests/d/a.html") "" ".txt" := by
  have hne : Checkout.bare (.ofDirectory (.ofString "LayoutTests"))
      (.ofString "LayoutTests/a.html") ≠ Checkout.bare (.ofDirectory (.ofString "LayoutTests"))
        (.ofString "LayoutTests/d/a.html") := by decide
  exact ⟨hne, ((apart_iff (by decide) (by decide) (by decide) (by decide)).1).mpr hne⟩

/-- **Different tests may have an artifact in common**: when only the extensions of their names
differ, and when a text has an extension that ends like the name of a word diff. -/
theorem not_always_apart :
    let w : Writer := ⟨"linux", .ofString "results", .ofDirectory (.ofString "LayoutTests")⟩
    (let test := Path.ofString "LayoutTests/a.html"
      let test' := Path.ofString "LayoutTests/a.svg"
      (w.checkout.relative test).bytes ≠ [] ∧ (w.checkout.relative test').bytes ≠ [] ∧
        w.checkout.relative test ≠ w.checkout.relative test' ∧
        w.actualPath test "" ".txt" = w.actualPath test' "" ".txt") ∧
    (let test := Path.ofString "LayoutTests/a.html"
      let test' := Path.ofString "LayoutTests/a-actual.html"
      (w.checkout.relative test).bytes ≠ [] ∧ (w.checkout.relative test').bytes ≠ [] ∧
        w.checkout.bare test ≠ w.checkout.bare test' ∧
        w.actualPath test "" "-wdiff.html" = w.wordDiffPath test' "") := by
  decide

end Writer

end Baseline
