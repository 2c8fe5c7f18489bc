import Baseline.Artifact
import Baseline.Proofs.Path.NoParent
import Baseline.Proofs.Run
import Baseline.Proofs.Text.Encoding

/-!
# The places of artifacts

Every artifact of a test stands in the directory of the test's artifacts, under
the test's name without its extension followed by what tells the artifact from
the others (`artifactPath_eq`, `place_artifactPath`).  What tells them apart
starts with a dash, so none of these names is empty, `.` or `..`, and no two of
the four are equal (`nodup_resultPlaces`).  A baseline stands in the platform's
directory for the test in the same way (`place_baselinePath`).
-/

namespace Baseline

open Path

/-- The byte that every mark of an artifact starts with. -/
def dash : UInt8 := 45

theorem isName_of_dash {n : Name} (hs : slash ∉ n) (hd : dash ∈ n) : IsName n := by
  refine ⟨?_, hs, ?_, ?_⟩ <;> rintro rfl
  · simp at hd
  · simp [dash, dot] at hd
  · simp [dash, dot] at hd

theorem no_slash_encode {s : String} (h : '/' ∉ s.toList) : slash ∉ Utf8.encode s := by
  intro hs
  obtain ⟨c, hc, hv⟩ := Utf8.mem_encode hs (by decide)
  have : c = '/' := Char.ext (UInt32.toNat_inj.mp hv)
  exact h (this ▸ hc)

namespace Checkout

/-- The names of a test below the tests' directory are names of the test. -/
theorem mem_parts_of_mem_relativeNames {c : Checkout} {test : Path} {n : Name}
    (h : n ∈ c.relativeNames test) : ∃ through, (.normal n, through) ∈ test.parts := by
  obtain ⟨component, hc, hn⟩ := List.mem_filterMap.mp h
  have hmem : component ∈ test.components := by
    unfold componentsBelow? at hc
    split at hc
    · exact List.mem_of_mem_drop hc
    · exact hc
  cases component with
  | normal m =>
    obtain rfl : m = n := Option.some.inj hn
    obtain ⟨⟨c', through⟩, hpart, rfl⟩ := List.mem_map.mp hmem
    exact ⟨through, hpart⟩
  | root | current | parent => simp [Component.name?] at hn

theorem isName_of_mem_relativeNames {c : Checkout} {test : Path} {n : Name}
    (h : n ∈ c.relativeNames test) : IsName n := by
  obtain ⟨through, hpart⟩ := mem_parts_of_mem_relativeNames h
  exact isName_of_mem_parts hpart

theorem relativeNames_ne_nil {c : Checkout} {test : Path} (h : (c.relative test).bytes ≠ []) :
    c.relativeNames test ≠ [] := by
  intro hnil
  rw [relative, hnil] at h
  exact h rfl

/-- The parent of a test's relative path has all names but the last. -/
theorem parent?_relative (c : Checkout) (test : Path) :
    (c.relative test).parent? =
      if c.relativeNames test = [] then none
      else some (ofNames (c.relativeNames test).dropLast) :=
  parent?_ofNames fun _ => isName_of_mem_relativeNames

theorem relativeParent_eq (c : Checkout) (test : Path) :
    c.relativeParent test = ofNames (c.relativeNames test).dropLast := by
  rw [relativeParent, parent?_relative]
  by_cases hnil : c.relativeNames test = []
  · simp [hnil, ofNames]
  · rw [if_neg hnil]
    rfl

theorem isName_expectedName (test : Path) {suffix : String} (h : '/' ∉ suffix.toList) :
    IsName (expectedName test suffix) := by
  have hmark : expectedMark = [45, 101, 120, 112, 101, 99, 116, 101, 100] := by decide
  have hstem : slash ∉ test.fileStem?.getD [] := by
    unfold fileStem?
    cases hn : test.fileName? with
    | none => simp
    | some n => exact no_slash_stemOf (isName_of_fileName? hn).no_slash
  refine isName_of_dash ?_ ?_
  · simp only [expectedName, List.mem_append, not_or]
    exact ⟨⟨hstem, hmark ▸ by decide⟩, no_slash_encode h⟩
  · simp [expectedName, hmark, dash]

end Checkout

namespace Writer

/-! ### Artifacts -/

/-- What the names of a test's artifacts begin with. -/
def artifactStem (w : Writer) (test : Path) : Name :=
  match (w.checkout.relativeNames test).getLast? with
  | some n => bareName n
  | none => []

theorem no_slash_artifactStem (w : Writer) (test : Path) : slash ∉ w.artifactStem test := by
  unfold artifactStem
  cases h : (w.checkout.relativeNames test).getLast? with
  | none => simp
  | some n =>
    exact no_slash_bareName (Checkout.isName_of_mem_relativeNames (List.mem_of_getLast? h)).no_slash

/-- **An artifact stands in the directory of the test's artifacts**, under one name. -/
theorem artifactPath_eq (w : Writer) (test : Path) {modifier : String}
    (h : slash ∉ Utf8.encode modifier) :
    w.artifactPath test modifier =
      ⟨(w.artifactDir test).opened ++ (w.artifactStem test ++ Utf8.encode modifier)⟩ := by
  have hnames : ∀ n ∈ w.checkout.relativeNames test, IsName n :=
    fun _ => Checkout.isName_of_mem_relativeNames
  unfold artifactPath artifactDir artifactStem
  rw [Checkout.parent?_relative]
  by_cases hnil : w.checkout.relativeNames test = []
  · simp only [Checkout.relative, hnil, ofNames, empty, if_true, List.getLast?_nil]
    exact join_name h
  · obtain ⟨before, last, hsplit⟩ :
        ∃ before last, w.checkout.relativeNames test = before ++ [last] :=
      ⟨_, _, (List.dropLast_concat_getLast hnil).symm⟩
    have hbefore : ∀ n ∈ before, IsName n := fun n hn => hnames n (by simp [hsplit, hn])
    have hlast : IsName last := hnames last (by simp [hsplit])
    have hne : (w.checkout.relative test).bytes ≠ [] := ofNames_bytes_ne_nil hnil hnames
    have hconcat : before ++ [last] ≠ [] := by simp
    simp only [if_neg hne, hsplit, if_neg hconcat, List.dropLast_concat, List.getLast?_concat]
    rw [Checkout.relative, hsplit, join_ofNames_concat hbefore hlast,
      withoutExtension_append (takesName_opened _) hlast, append, List.append_assoc]

theorem isName_artifactName (w : Writer) (test : Path) {modifier : String}
    (hs : slash ∉ Utf8.encode modifier) (hd : dash ∈ Utf8.encode modifier) :
    IsName (w.artifactStem test ++ Utf8.encode modifier) := by
  apply isName_of_dash
  · simp [no_slash_artifactStem, hs]
  · simp [hd]

theorem place_artifactPath (w : Writer) (test : Path) {modifier : String}
    (hs : slash ∉ Utf8.encode modifier) (hd : dash ∈ Utf8.encode modifier) (t : FileTree) :
    t.place (w.artifactPath test modifier) =
      (w.artifactStem test ++ Utf8.encode modifier) :: t.place (w.artifactDir test) := by
  rw [artifactPath_eq w test hs]
  exact FileTree.place_opened_name t _ (w.isName_artifactName test hs hd)

/-- **The directory of a test's artifacts** is below the output directory, under the names of the
test's relative path but the last. -/
theorem place_artifactDir (w : Writer) (test : Path) (t : FileTree) :
    t.place (w.artifactDir test) =
      (w.checkout.relativeNames test).dropLast.reverse ++ t.place w.outputDir := by
  unfold artifactDir
  rw [Checkout.parent?_relative]
  by_cases hnil : w.checkout.relativeNames test = []
  · simp [hnil]
  · rw [if_neg hnil]
    exact FileTree.place_join_ofNames t w.outputDir fun n hn =>
      Checkout.isName_of_mem_relativeNames (List.dropLast_subset _ hn)

/-! ### Baselines -/

/-- Where a baseline of a test is saved. -/
def baselinePath (w : Writer) (test : Path) (suffix : String) : Path :=
  w.checkout.platformBaseline w.platform test suffix

/-- The directory that it is saved in. -/
def baselineDir (w : Writer) (test : Path) : Path :=
  w.checkout.platformDirectory w.platform test

theorem baselinePath_eq (w : Writer) (test : Path) {suffix : String} (h : '/' ∉ suffix.toList) :
    w.baselinePath test suffix =
      ⟨(w.baselineDir test).opened ++ Checkout.expectedName test suffix⟩ :=
  join_name (Checkout.isName_expectedName test h).no_slash

/-- **A baseline stands in the platform's directory for the test**, under one name. -/
theorem place_baselinePath (w : Writer) (test : Path) {suffix : String} (h : '/' ∉ suffix.toList)
    (t : FileTree) :
    t.place (w.baselinePath test suffix) =
      Checkout.expectedName test suffix :: t.place (w.baselineDir test) := by
  rw [baselinePath_eq w test h]
  exact FileTree.place_opened_name t _ (Checkout.isName_expectedName test h)

/-- That directory is below the platform's, under the names of the test's relative path but the
last. -/
theorem place_baselineDir (w : Writer) (test : Path) (t : FileTree) :
    t.place (w.baselineDir test) =
      (w.checkout.relativeNames test).dropLast.reverse ++
        t.place (w.checkout.platformRoot w.platform) := by
  rw [baselineDir, Checkout.platformDirectory, Checkout.relativeParent_eq]
  exact FileTree.place_join_ofNames t _ fun n hn =>
    Checkout.isName_of_mem_relativeNames (List.dropLast_subset _ hn)

theorem noParent_baselineDir {w : Writer} (hdir : w.checkout.baselineDir.NoParent)
    (hplatform : (Path.ofString w.platform).NoParent) (test : Path) :
    (w.baselineDir test).NoParent := by
  refine NoParent.join (hdir.join hplatform) ?_
  rw [Checkout.relativeParent_eq]
  exact noParent_ofNames fun n hn =>
    Checkout.isName_of_mem_relativeNames (List.dropLast_subset _ hn)

theorem noParent_baselinePath {w : Writer} {test : Path} (hdir : (w.baselineDir test).NoParent)
    {suffix : String} (hs : '/' ∉ suffix.toList) : (w.baselinePath test suffix).NoParent :=
  hdir.join (noParent_name (Checkout.isName_expectedName test hs))

theorem exists_withFileName_eq (p : Path) {n : Name} (h : slash ∉ n) :
    ∃ q : Path, p.withFileName n = ⟨q.opened ++ n⟩ := by
  unfold withFileName
  cases p.fileName? with
  | none => exact ⟨_, join_name h⟩
  | some _ => exact ⟨_, join_name h⟩

/-- Whichever baseline a test is compared with, it has the name of one. -/
theorem place_expectedBaseline (w : Writer) (files : FileTree) (test : Path) {suffix : String}
    (h : '/' ∉ suffix.toList) (t : FileTree) : ∃ above,
    t.place (w.expectedBaseline files test suffix) = Checkout.expectedName test suffix :: above := by
  have hname := Checkout.isName_expectedName test h
  have hplatform : ∃ above, t.place (w.checkout.platformBaseline w.platform test suffix) =
      Checkout.expectedName test suffix :: above := ⟨_, w.place_baselinePath test h t⟩
  unfold expectedBaseline Checkout.expectedBaseline
  split
  · exact hplatform
  · split
    · obtain ⟨q, hq⟩ := exists_withFileName_eq test hname.no_slash
      exact ⟨_, by rw [Checkout.sharedBaseline, hq, FileTree.place_opened_name t q hname]⟩
    · exact hplatform

/-! ### Artifacts told apart -/

/-- Artifacts with different marks have different places. -/
theorem place_artifactPath_ne (w : Writer) (test : Path) {m m' : String}
    (h : slash ∉ Utf8.encode m ∧ dash ∈ Utf8.encode m)
    (h' : slash ∉ Utf8.encode m' ∧ dash ∈ Utf8.encode m') (hne : Utf8.encode m ≠ Utf8.encode m')
    (t : FileTree) : t.place (w.artifactPath test m) ≠ t.place (w.artifactPath test m') := by
  rw [w.place_artifactPath test h.1 h.2, w.place_artifactPath test h'.1 h'.2]
  intro he
  exact hne (List.append_cancel_left (List.cons.inj he).1)

/-- An artifact is no baseline when neither of the two ends of their names ends in the other. -/
theorem place_artifactPath_ne_baseline (w : Writer) (files : FileTree) (test : Path)
    {m suffix : String} (h : slash ∉ Utf8.encode m ∧ dash ∈ Utf8.encode m)
    (hs : '/' ∉ suffix.toList)
    (hne : ¬ Utf8.encode m <:+ Checkout.expectedMark ++ Utf8.encode suffix)
    (hne' : ¬ Checkout.expectedMark ++ Utf8.encode suffix <:+ Utf8.encode m) (t : FileTree) :
    t.place (w.artifactPath test m) ≠ t.place (w.expectedBaseline files test suffix) := by
  obtain ⟨above, hbaseline⟩ := w.place_expectedBaseline files test hs t
  rw [w.place_artifactPath test h.1 h.2, hbaseline]
  intro he
  have hname : w.artifactStem test ++ Utf8.encode m =
      test.fileStem?.getD [] ++ (Checkout.expectedMark ++ Utf8.encode suffix) := by
    rw [(List.cons.inj he).1, Checkout.expectedName, List.append_assoc]
  have hend : Checkout.expectedMark ++ Utf8.encode suffix <:+
      w.artifactStem test ++ Utf8.encode m := hname ▸ List.suffix_append _ _
  rcases List.suffix_or_suffix_of_suffix (List.suffix_append _ _) hend with hle | hle
  · exact hne hle
  · exact hne' hle

/-! ### The four of a call -/

/-- The paths of a test's output, baseline and line diff. -/
def textPaths (w : Writer) (test : Path) (tag extension : String) : List Path :=
  [w.actualPath test tag extension, w.expectedPath test tag extension,
    w.diffPath test tag extension]

/-- The paths of a test's output, baseline, line diff and word diff. -/
def resultPaths (w : Writer) (test : Path) (tag extension : String) : List Path :=
  w.textPaths test tag extension ++ [w.wordDiffPath test tag]

/-- What follows a test's name in each of the four. -/
def resultMarks (tag extension : String) : List String :=
  [tag ++ actualMark ++ extension, tag ++ expectedMark ++ extension, tag ++ diffMark ++ extension,
    tag ++ wordDiffMark]

theorem resultPaths_eq (w : Writer) (test : Path) (tag extension : String) :
    w.resultPaths test tag extension = (resultMarks tag extension).map (w.artifactPath test) := rfl

theorem encode_actualMark : Utf8.encode actualMark = [45, 97, 99, 116, 117, 97, 108] := by decide
theorem encode_expectedMark :
    Utf8.encode expectedMark = [45, 101, 120, 112, 101, 99, 116, 101, 100] := by decide
theorem encode_diffMark : Utf8.encode diffMark = [45, 100, 105, 102, 102] := by decide
theorem encode_wordDiffMark :
    Utf8.encode wordDiffMark = [45, 119, 100, 105, 102, 102, 46, 104, 116, 109, 108] := by decide

variable {tag extension : String}

theorem dash_mem_resultMarks {m : String} (h : m ∈ resultMarks tag extension) :
    dash ∈ Utf8.encode m := by
  simp only [resultMarks, List.mem_cons, List.not_mem_nil, or_false] at h
  rcases h with rfl | rfl | rfl | rfl <;>
    simp [encode_actualMark, encode_expectedMark, encode_diffMark, encode_wordDiffMark, dash]

theorem no_slash_resultMarks (ht : '/' ∉ tag.toList) (he : '/' ∉ extension.toList) {m : String}
    (h : m ∈ resultMarks tag extension) : slash ∉ Utf8.encode m := by
  have htag : 47 ∉ Utf8.encode tag := no_slash_encode ht
  have hext : 47 ∉ Utf8.encode extension := no_slash_encode he
  simp only [resultMarks, List.mem_cons, List.not_mem_nil, or_false] at h
  rcases h with rfl | rfl | rfl | rfl <;>
    simp [encode_actualMark, encode_expectedMark, encode_diffMark, encode_wordDiffMark, htag, hext,
      slash]

/-- The byte behind the dash tells the four apart. -/
theorem nodup_resultMarks (s : Name) :
    ((resultMarks tag extension).map fun m => s ++ Utf8.encode m).Nodup := by
  simp [resultMarks, encode_actualMark, encode_expectedMark, encode_diffMark, encode_wordDiffMark]

/-- **The four artifacts of a call have different places.** -/
theorem nodup_resultPlaces (w : Writer) (test : Path) (ht : '/' ∉ tag.toList)
    (he : '/' ∉ extension.toList) (t : FileTree) :
    ((w.resultPaths test tag extension).map t.place).Nodup := by
  have hplaces : (w.resultPaths test tag extension).map t.place =
      ((resultMarks tag extension).map fun m => w.artifactStem test ++ Utf8.encode m).map
        (· :: t.place (w.artifactDir test)) := by
    rw [resultPaths_eq, List.map_map, List.map_map]
    exact List.map_congr_left fun m hm =>
      w.place_artifactPath test (no_slash_resultMarks ht he hm) (dash_mem_resultMarks hm) t
  rw [hplaces]
  refine List.Pairwise.map (R := (· ≠ ·)) (S := (· ≠ ·)) _ ?_ (nodup_resultMarks _)
  intro a b hab hcons
  exact hab (List.cons.inj hcons).1

theorem place_ne_of_mem_textPaths (w : Writer) (test : Path) (ht : '/' ∉ tag.toList)
    (he : '/' ∉ extension.toList) (t : FileTree) {p : Path}
    (hp : p ∈ w.textPaths test tag extension) :
    t.place p ≠ t.place (w.wordDiffPath test tag) := by
  have hnodup := w.nodup_resultPlaces test ht he t
  rw [resultPaths, List.map_append, List.nodup_append] at hnodup
  exact hnodup.2.2 _ (List.mem_map_of_mem hp) _ (by simp)

end Writer

end Baseline
