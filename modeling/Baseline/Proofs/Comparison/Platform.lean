import Baseline.Proofs.Artifact.Saving
import Baseline.Proofs.Comparison.Verdict
import Baseline.Proofs.FileTree.Aside
import Baseline.Proofs.FileTree.Component
import Baseline.Proofs.Text.Decoding

/-!
# Promoting for one platform

A baseline is saved for one platform and looked for by another one (`Writer.Neighbours`).  Both
look in directories of their own, below the directory of all platforms, and then beside the
test.  The file that is saved is in neither place (`Neighbours.baselinePath_not_above`,
`place_baselinePath_ne_sharedBaseline`), and the directories that are made for it are not on
the way to the other platform's place once this has left the directory of all platforms
(`Neighbours.aside_baselinePath`).  One of them may stand beside the test, where a baseline of
that name would be; it is no file, before or after.

So the other platform finds the baseline that it found before, and judges the test as before,
whether the baseline could be saved or not (`isolated_of_saveBaseline`).  What may change is why
there is no baseline: a name that is too long is found out only in a directory that is there
(`not_always_isolated`).
-/

namespace Baseline

open Action FileTree Path

/-- A test is in a checkout: some names below the tests' directory, which holds the directory of
all platforms and does not lead up. -/
structure Checkout.Holds (c : Checkout) (test : Path) : Prop where
  baselines : c.baselineDir = c.testsDir.join (.ofString "platform")
  down : c.testsDir.NoParent
  below : ∃ ns, ns ≠ [] ∧ (∀ n ∈ ns, IsName n) ∧ test = c.testsDir.join (ofNames ns)

/-! ### Two ways down from one place -/

namespace FileTree

/-- What is below one name of a place is not below another. -/
theorem not_cons_suffix {x y : Name} (h : x ≠ y) (above : Location) (below : List Name) :
    ¬ x :: above <:+ below ++ y :: above := by
  intro hx
  have hy : y :: above <:+ below ++ y :: above := List.suffix_append _ _
  have hle : x :: above <:+ y :: above := List.suffix_of_suffix_length_le hx hy (by simp)
  exact h (List.cons.inj (hle.eq_of_length (by simp))).1

/-- What is on the way below two names of one place is on the way to it. -/
theorem suffix_of_two_ways {x y : Name} (h : x ≠ y) {l above : Location} {below below' : List Name}
    (hl : l <:+ below ++ x :: above) (hl' : l <:+ below' ++ y :: above) : l <:+ above := by
  have hx : x :: above <:+ below ++ x :: above := List.suffix_append _ _
  rcases List.suffix_or_suffix_of_suffix hl hx with hle | hle
  · rcases List.suffix_cons_iff.mp hle with rfl | hle
    · exact absurd hl' (not_cons_suffix h above below')
    · exact hle
  · exact absurd (hle.trans hl') (not_cons_suffix h above below')

end FileTree

/-! ### Beside the test -/

namespace Checkout

variable {c : Checkout} {test : Path} {suffix : String}

/-- The directory of all platforms, as a name. -/
theorem isName_platform : IsName (Utf8.encode "platform") :=
  ⟨by decide, by decide, by decide, by decide⟩

theorem isAbsolute_relativeParent (c : Checkout) (test : Path) :
    (c.relativeParent test).isAbsolute = false := by
  rw [relativeParent_eq]
  exact isAbsolute_ofNames fun n hn => isName_of_mem_relativeNames (List.dropLast_subset _ hn)

theorem Holds.baselineDir_noParent (h : c.Holds test) : c.baselineDir.NoParent := by
  rw [h.baselines]
  exact h.down.join (noParent_name isName_platform)

theorem Holds.place_baselineDir (h : c.Holds test) (t : FileTree) :
    t.place c.baselineDir = Utf8.encode "platform" :: t.place c.testsDir := by
  rw [h.baselines, ofString, join_name isName_platform.no_slash]
  exact place_opened_name t _ isName_platform

/-- The names of a test below the tests' directory, the last one apart. -/
theorem Holds.exists_names (h : c.Holds test) : ∃ before last, (∀ n ∈ before, IsName n) ∧
    IsName last ∧ test = c.testsDir.join (ofNames (before ++ [last])) ∧
    c.relativeNames test = before ++ [last] := by
  obtain ⟨ns, hne, hnames, rfl⟩ := h.below
  have hsplit : ns.dropLast ++ [ns.getLast hne] = ns := List.dropLast_concat_getLast hne
  refine ⟨ns.dropLast, ns.getLast hne, fun n hn => hnames n (List.dropLast_subset _ hn),
    hnames _ (List.getLast_mem hne), by rw [hsplit], ?_⟩
  rw [hsplit, relativeNames, componentsBelow?_join_ofNames _ hnames]
  simp [Function.comp_def, Component.name?]

/-- **The shared baseline stands beside its test.** -/
theorem Holds.place_sharedBaseline (h : c.Holds test) (hs : '/' ∉ suffix.toList) (t : FileTree) :
    t.place (sharedBaseline test suffix) = expectedName test suffix ::
      ((c.relativeNames test).dropLast.reverse ++ t.place c.testsDir) := by
  obtain ⟨before, last, hbefore, hlast, htest, hnames⟩ := h.exists_names
  have hname := isName_expectedName test hs
  have hopened : test = ⟨(c.testsDir.join (ofNames before)).opened ++ last⟩ :=
    htest.trans (join_ofNames_concat hbefore hlast)
  have hfile : test.fileName? = some last := hopened ▸ fileName?_append (takesName_opened _) hlast
  have hparent := congrArg parent? hopened
  rw [parent?_opened_name _ hlast] at hparent
  unfold sharedBaseline withFileName
  simp only [hfile, hparent, Option.getD_some]
  rw [join_name hname.no_slash, place_opened_name t _ hname, place_last_part,
    place_join_ofNames t _ hbefore, hnames, List.dropLast_concat]

theorem Holds.sharedBaseline_noParent (h : c.Holds test) (hs : '/' ∉ suffix.toList) :
    (sharedBaseline test suffix).NoParent := by
  obtain ⟨ns, -, hnames, rfl⟩ := h.below
  exact (h.down.join (noParent_ofNames hnames)).withFileName (isName_expectedName _ hs)

end Checkout

namespace Writer

/-! ### The directories of two platforms -/

/-- Two writers of one checkout, for platforms of different names. -/
structure Neighbours (w w' : Writer) : Prop where
  checkout : w'.checkout = w.checkout
  name : IsName (Utf8.encode w.platform)
  name' : IsName (Utf8.encode w'.platform)
  ne : w.platform ≠ w'.platform

variable {w w' : Writer} {test : Path} {suffix suffix' : String}

theorem Neighbours.encode_ne (h : w.Neighbours w') :
    Utf8.encode w.platform ≠ Utf8.encode w'.platform := fun he =>
  h.ne (by rw [← Utf8.decodeLossy_encode w.platform, he, Utf8.decodeLossy_encode])

/-- The directory of a platform's baselines of a test is below the platform's name in the directory
of all platforms. -/
theorem place_baselineDir_of_isName (h : IsName (Utf8.encode w.platform)) (test : Path)
    (t : FileTree) : t.place (w.baselineDir test) =
      (w.checkout.relativeNames test).dropLast.reverse ++
        Utf8.encode w.platform :: t.place w.checkout.baselineDir := by
  rw [place_baselineDir, Checkout.platformRoot, ofString, join_name h.no_slash,
    place_opened_name t _ h]

theorem stepsOf_platformRoot (h : IsName (Utf8.encode w.platform)) :
    stepsOf (w.checkout.platformRoot w.platform) =
      stepsOf w.checkout.baselineDir ++ [.down (Utf8.encode w.platform)] := by
  have hplatform : (ofString w.platform).isAbsolute = false := isAbsolute_name h.no_slash
  rw [Checkout.platformRoot, stepsOf_join hplatform, ofString, stepsOf_name h]

/-- A baseline's path goes down by the platform's name from the directory of all platforms. -/
theorem steps_baselinePath (h : IsName (Utf8.encode w.platform)) (test : Path)
    (hs : '/' ∉ suffix.toList) :
    (∃ after, stepsOf (w.baselinePath test suffix) =
      stepsOf w.checkout.baselineDir ++ [.down (Utf8.encode w.platform)] ++ after) ∧
    ∀ t : FileTree, t.origin (w.baselinePath test suffix) = t.origin w.checkout.baselineDir := by
  have hplatform : (ofString w.platform).isAbsolute = false := isAbsolute_name h.no_slash
  have hparent := w.checkout.isAbsolute_relativeParent test
  have hname := isAbsolute_name (Checkout.isName_expectedName test hs).no_slash
  unfold baselinePath Checkout.platformBaseline Checkout.platformDirectory
  refine ⟨?_, fun t => ?_⟩
  · rw [stepsOf_join hname, stepsOf_join hparent, stepsOf_platformRoot h, List.append_assoc]
    exact ⟨_, rfl⟩
  · rw [origin_join t hname, origin_join t hparent, Checkout.platformRoot, origin_join t hplatform]

variable {t : FileTree}

/-- **No platform has its baseline of a test at another's or above it.** -/
theorem Neighbours.baselinePath_not_above (h : w.Neighbours w')
    (hs : '/' ∉ suffix.toList) (hs' : '/' ∉ suffix'.toList) :
    ¬ t.place (w.baselinePath test suffix) <:+ t.place (w'.baselinePath test suffix') := by
  rw [place_baselinePath w test hs, place_baselinePath w' test hs',
    place_baselineDir_of_isName h.name, place_baselineDir_of_isName h.name', h.checkout,
    ← List.cons_append, ← List.cons_append]
  exact fun hl => not_cons_suffix h.encode_ne _ _ ((List.suffix_append _ _).trans hl)

/-- **No platform has its baseline of a test beside the test.** -/
theorem place_baselinePath_ne_sharedBaseline (h : IsName (Utf8.encode w.platform))
    (ht : w.checkout.Holds test) (hs : '/' ∉ suffix.toList) (hs' : '/' ∉ suffix'.toList) :
    t.place (w.baselinePath test suffix) ≠ t.place (Checkout.sharedBaseline test suffix') := by
  rw [place_baselinePath w test hs, place_baselineDir_of_isName h, ht.place_baselineDir,
    ht.place_sharedBaseline hs']
  intro he
  have hlength := congrArg List.length he
  simp only [List.length_cons, List.length_append] at hlength
  omega

/-- **A platform's baseline is beside the work of saving another platform's.** -/
theorem Neighbours.aside_baselinePath (h : w.Neighbours w') (ht : w.checkout.Holds test)
    (hs : '/' ∉ suffix.toList) (hs' : '/' ∉ suffix'.toList) :
    t.Aside [w.baselinePath test suffix] (w.baselineDir test).ancestors w.checkout.baselineDir
      (Utf8.encode w'.platform) (w'.baselinePath test suffix') := by
  obtain ⟨hsteps, horigin⟩ := steps_baselinePath h.name' test hs'
  rw [h.checkout] at hsteps horigin
  have hdown : (w.baselineDir test).NoParent :=
    noParent_baselineDir ht.baselineDir_noParent (noParent_name h.name) test
  have hdown' : (w'.baselineDir test).NoParent :=
    noParent_baselineDir (h.checkout ▸ ht.baselineDir_noParent) (noParent_name h.name') test
  refine ⟨noParent_baselinePath hdown' hs', hsteps, horigin t, fun q hq => ?_, fun q hq hl' => ?_⟩
  · rw [List.mem_singleton.mp hq]
    exact h.baselinePath_not_above hs hs'
  · have hl := place_of_mem_ancestors hdown hq t
    rw [place_baselineDir_of_isName h.name] at hl
    rw [place_baselinePath w' test hs', place_baselineDir_of_isName h.name', h.checkout,
      ← List.cons_append] at hl'
    exact suffix_of_two_ways h.encode_ne hl hl'

/-! ### After a baseline was saved -/

theorem expectedBaseline_eq_or (w : Writer) (t : FileTree) (test : Path) (suffix : String) :
    w.expectedBaseline t test suffix = w.baselinePath test suffix ∨
      w.expectedBaseline t test suffix = Checkout.sharedBaseline test suffix ∧
        t.isFile (Checkout.sharedBaseline test suffix) = true := by
  unfold expectedBaseline Checkout.expectedBaseline
  split
  · exact Or.inl rfl
  · split
    · rename_i hshared
      exact Or.inr ⟨rfl, hshared⟩
    · exact Or.inl rfl

/-- **Another platform's baselines** are those that they were. -/
theorem sameBaseline_of_changesOnly (h : w.Neighbours w') (ht : w.checkout.Holds test)
    (hs : '/' ∉ suffix.toList) (hs' : '/' ∉ suffix'.toList) {t' : FileTree}
    (hc : t.ChangesOnly [w.baselinePath test suffix] (w.baselineDir test).ancestors t') :
    w'.SameBaseline test suffix' t t' := by
  have haside : t.Aside _ _ _ _ (w'.baselinePath test suffix') := h.aside_baselinePath ht hs hs'
  have hshared : ∀ q ∈ [w.baselinePath test suffix],
      t.place q ≠ t.place (Checkout.sharedBaseline test suffix') := fun q hq =>
    List.mem_singleton.mp hq ▸ place_baselinePath_ne_sharedBaseline h.name ht hs hs'
  have hfile : t'.isFile (w'.checkout.platformBaseline w'.platform test suffix') =
      t.isFile (w'.checkout.platformBaseline w'.platform test suffix') :=
    hc.isFile_eq haside.noParent fun q hq he => haside.past q hq (he ▸ List.suffix_rfl)
  have hfile' := hc.isFile_eq (ht.sharedBaseline_noParent hs') hshared
  constructor
  · unfold expectedBaseline Checkout.expectedBaseline
    rw [hfile, hfile']
  · rcases w'.expectedBaseline_eq_or t test suffix' with he | ⟨he, hthere⟩
    · rw [he]
      refine (readFile_eq_or_of_aside hc haside).imp_right ?_
      rintro ⟨hmissed, hrefused, hd, hlong⟩
      refine ⟨⟨h.checkout ▸ hd, ?_⟩, hmissed, hrefused⟩
      rwa [stepsOf_platformRoot h.name', h.checkout]
    · obtain ⟨data, hdata⟩ := isFile_iff.mp hthere
      rw [he, hdata]
      exact Or.inl (hc.readFile hdata hshared)

/-- **Platforms are isolated**: after a baseline of a test was saved for one platform, or could not
be saved, the test has the same baselines for another platform, and is judged alike. -/
theorem isolated_of_saveBaseline (h : w.Neighbours w') (ht : w.checkout.Holds test)
    (hs : '/' ∉ suffix.toList) (data : Bytes) (r : Run) :
    (∀ suffix', '/' ∉ suffix'.toList →
      w'.SameBaseline test suffix' r.files (endOf (w.saveBaseline test data suffix r)).files) ∧
    ∀ (e : Engine) (output : Bytes) (request : Request) (s s' : Run),
      request.newBaseline = false → s.files = r.files →
      s'.files = (endOf (w.saveBaseline test data suffix r)).files →
      (∀ image ∈ request.image, s'.files.readFile image = s.files.readFile image) →
      e.SameVerdict w' test output request s s' := by
  have hc : r.files.ChangesOnly [w.baselinePath test suffix] (w.baselineDir test).ancestors
      (endOf (w.saveBaseline test data suffix r)).files :=
    (w.saveBaseline_fileWork test data suffix (List.mem_singleton_self _) (fun _ hq => hq) r).files
  have hsame : ∀ suffix', '/' ∉ suffix'.toList →
      w'.SameBaseline test suffix' r.files (endOf (w.saveBaseline test data suffix r)).files :=
    fun suffix' hs' => sameBaseline_of_changesOnly h ht hs hs' hc
  refine ⟨hsame, fun e output request s s' hnew hfiles hfiles' himage => ?_⟩
  refine e.sameVerdict_of_sameBaseline hnew himage fun suffix' hsuffix => ?_
  rw [hfiles, hfiles']
  exact hsame suffix' (Engine.no_slash_of_extension hsuffix)

/-- A writer for a platform whose tests are in `LayoutTests`. -/
def forPlatform (platform : String) : Writer :=
  ⟨platform, .ofString "results", .ofDirectory (.ofString "LayoutTests")⟩

theorem holds_layoutTests :
    (Checkout.ofDirectory (.ofString "LayoutTests")).Holds (.ofString "LayoutTests/d/a.html") where
  baselines := rfl
  down := by decide
  below := by
    refine ⟨[Utf8.encode "d", Utf8.encode "a.html"], by simp, fun n hn => ?_, by decide⟩
    simp only [List.mem_cons, List.not_mem_nil, or_false] at hn
    rcases hn with rfl | rfl <;> exact ⟨by decide, by decide, by decide, by decide⟩

theorem neighbours_forPlatform {platform platform' : String} (h : IsName (Utf8.encode platform))
    (h' : IsName (Utf8.encode platform')) (hne : platform ≠ platform') :
    (forPlatform platform).Neighbours (forPlatform platform') := ⟨rfl, h, h', hne⟩

theorem isName_linux : IsName (Utf8.encode "linux") :=
  ⟨by decide, by decide, by decide, by decide⟩

/-- A baseline saved for one of two platforms, where there was no file. -/
theorem isolated_of_first_baseline :
    (∀ suffix', '/' ∉ suffix'.toList →
      (forPlatform "win").SameBaseline (.ofString "LayoutTests/d/a.html") suffix' .empty
        (endOf ((forPlatform "linux").saveBaseline (.ofString "LayoutTests/d/a.html") [97] ".txt"
          (.begin .empty .empty (.scripted [] [])))).files) ∧
    ∀ (e : Engine) (output : Bytes) (request : Request) (s s' : Run),
      request.newBaseline = false → s.files = .empty →
      s'.files = (endOf ((forPlatform "linux").saveBaseline (.ofString "LayoutTests/d/a.html") [97]
        ".txt" (.begin .empty .empty (.scripted [] [])))).files →
      (∀ image ∈ request.image, s'.files.readFile image = s.files.readFile image) →
      e.SameVerdict (forPlatform "win") (.ofString "LayoutTests/d/a.html") output request s s' :=
  have hwin : IsName (Utf8.encode "win") := ⟨by decide, by decide, by decide, by decide⟩
  isolated_of_saveBaseline (neighbours_forPlatform isName_linux hwin (by decide)) holds_layoutTests
    (by decide) [97] (.begin .empty .empty (.scripted [] []))

/-- A platform whose name has so many letters. -/
def longPlatform (n : Nat) : String := String.ofList (List.replicate n 'n')

theorem encode_longPlatform (n : Nat) : Utf8.encode (longPlatform n) = List.replicate n 110 := by
  have hletter : String.utf8EncodeChar 'n' = [110] := by decide
  rw [Utf8.encode, longPlatform, String.toList_ofList, List.flatMap_replicate, hletter,
    List.flatten_replicate_singleton]

theorem isName_longPlatform {n : Nat} (h : 2 < n) : IsName (Utf8.encode (longPlatform n)) := by
  have hne : ∀ s : Bytes, s.length ≤ 2 → Utf8.encode (longPlatform n) ≠ s := by
    rintro s hs rfl
    rw [encode_longPlatform, List.length_replicate] at hs
    exact absurd hs (Nat.not_le_of_lt h)
  refine ⟨hne _ (by simp), ?_, hne _ (by simp), hne _ (by simp)⟩
  rw [encode_longPlatform]
  simp [slash]

/-- **Why a baseline is missing may change**: a directory that was not there was made, and a name
is too long for it. -/
theorem not_always_isolated :
    ¬ ∀ (w w' : Writer) (test : Path) (suffix : String) (data : Bytes) (r : Run),
      w.Neighbours w' → w.checkout.Holds test → '/' ∉ suffix.toList →
        (endOf (w.saveBaseline test data suffix r)).files.readFile
            (w'.expectedBaseline r.files test suffix) =
          r.files.readFile (w'.expectedBaseline r.files test suffix) := by
  intro h
  have hne : "linux" ≠ longPlatform 256 := by
    intro he
    have hlength := congrArg (fun s => (Utf8.encode s).length) he
    simp only [encode_longPlatform, List.length_replicate] at hlength
    exact absurd hlength (by decide)
  have hsame := h (forPlatform "linux") (forPlatform (longPlatform 256))
    (.ofString "LayoutTests/d/a.html") ".txt" [97] (.begin .empty .empty (.scripted [] []))
    (neighbours_forPlatform isName_linux (isName_longPlatform (by decide)) hne) holds_layoutTests
    (by decide)
  have hplatform : Path.ofString (forPlatform (longPlatform 256)).platform =
      ⟨List.replicate 256 110⟩ := congrArg Path.mk (encode_longPlatform 256)
  simp only [expectedBaseline, Checkout.expectedBaseline, Checkout.platformBaseline,
    Checkout.platformDirectory, Checkout.platformRoot, hplatform] at hsame
  revert hsame
  decide +kernel

end Writer

end Baseline
