import Baseline.Proofs.Artifact.Writing
import Baseline.Proofs.FileTree.Again

/-!
# Actions done again

An action that ended well is done again later (`Action.Again`): when other work has
come in between, but none at the paths that matter to the action, it ends well again, with
the same answer, and leaves the files looking as they did.

That goes from the parts of an action to the whole when no later part writes what matters to
an earlier one (`Again.bind`).  Writing, copying and making a directory can be done again, and
so can several writes in a row whose places differ (`Run.writeAll_again`), and all that
is written for a test when no word diff is wanted (`Writer.writeResults_again`).
-/

namespace Baseline

open Action FileTree

namespace Action

variable {α β : Type} {t₀ : FileTree} {uses uses' writes writes' dirs : List Path}

/-- File work at `writes` which, done again after other work that is nowhere at `uses`, ends the
same and changes nothing that can be seen.  All that is done starts where `t₀` does. -/
structure Again (t₀ : FileTree) (uses writes dirs : List Path) (x : Action α) : Prop where
  work : Leads (Run.FileWork writes dirs) x
  again : ∀ {r r' : Run} {a : α}, r.files.start = t₀.start → x r = .ok a r' →
    ∀ {writes' dirs' : List Path} {s : Run}, r'.files.ChangesOnly writes' dirs' s.files →
      (∀ p ∈ uses, ∀ q ∈ writes', t₀.place q ≠ t₀.place p) →
      ∃ s', x s = .ok a s' ∧ Same s.files s'.files

theorem Again.mono {x : Action α} (h : Again t₀ uses writes dirs x)
    (hu : ∀ p ∈ uses, p ∈ uses') (hw : ∀ p ∈ writes, p ∈ writes') :
    Again t₀ uses' writes' dirs x :=
  ⟨h.work.mono fun _ _ hr => hr.mono hw fun _ hq => hq,
    fun hstart hx _ _ _ hc happart => h.again hstart hx hc fun p hp => happart p (hu p hp)⟩

theorem Again.pure (a : α) : Again t₀ [] [] dirs (Pure.pure a : Action α) where
  work := Leads.pure (Run.FileWork.order _ _) a
  again _ hx _ _ s _ _ := by
    rw [pure_apply, EStateM.Result.ok.injEq] at hx
    exact ⟨s, by rw [pure_apply, hx.1], .refl _⟩

/-- **One action after another can be done again** when the second one writes nothing that matters
to the first. -/
theorem Again.bind {x : Action α} {f : α → Action β} (hx : Again t₀ uses writes dirs x)
    (hf : ∀ a, Again t₀ uses' writes' dirs (f a))
    (happart : ∀ p ∈ uses, ∀ q ∈ writes', t₀.place q ≠ t₀.place p) :
    Again t₀ (uses ++ uses') (writes ++ writes') dirs (x >>= f) where
  work := Leads.bind (Run.FileWork.order _ _)
    (hx.work.mono fun _ _ hr => hr.mono (fun _ hp => List.mem_append_left _ hp) fun _ hq => hq)
    fun a => (hf a).work.mono fun _ _ hr =>
      hr.mono (fun _ hp => List.mem_append_right _ hp) fun _ hq => hq
  again := by
    intro r r' b hstart hr later dirs' s hc hlater
    obtain ⟨a, m, hm, hr⟩ := bind_eq_ok.mp hr
    have hbefore := (hx.work.of_ok hm).files
    have hafter := ((hf a).work.of_ok hr).files
    -- what comes after the first action is the second one and the work in between
    have hsince : m.files.ChangesOnly (writes' ++ later) (dirs ++ dirs') s.files :=
      (hafter.mono (by simp +contextual) (by simp +contextual)).trans
        (hc.mono (by simp +contextual) (by simp +contextual))
    obtain ⟨s₁, hs₁, hsame₁⟩ := hx.again hstart hm hsince fun p hp q hq =>
      (List.mem_append.mp hq).elim (happart p hp q) (hlater p (List.mem_append_left _ hp) q)
    obtain ⟨s₂, hs₂, hsame₂⟩ := (hf a).again (hbefore.start.trans hstart) hr
      (hc.trans hsame₁.changesOnly) fun p hp => hlater p (List.mem_append_right _ hp)
    exact ⟨s₂, bind_eq_ok.mpr ⟨a, s₁, hs₁, hs₂⟩, hsame₁.trans hsame₂⟩

/-- What depends on a file being there can be done again when it does not write that file. -/
theorem Again.isFile {f : Bool → Action α} {p : Path} (hp : p.NoParent)
    (hf : ∀ isThere, Again t₀ uses writes dirs (f isThere))
    (happart : ∀ q ∈ writes, t₀.place q ≠ t₀.place p) :
    Again t₀ (p :: uses) writes dirs (get >>= fun r => f (r.files.isFile p)) where
  work r := (hf _).work r
  again := by
    intro r r' a hstart hr later dirs' s hc hlater
    have hwork := ((hf (r.files.isFile p)).work.of_ok hr).files
    have hplace : ∀ q, r.files.place q = t₀.place q := place_congr hstart
    have hplace' : ∀ q, r'.files.place q = t₀.place q := place_congr (hwork.start.trans hstart)
    have hthere : s.files.isFile p = r.files.isFile p := by
      rw [hc.isFile_eq hp fun q hq => ?_, hwork.isFile_eq hp fun q hq => ?_]
      · rw [hplace, hplace]
        exact happart q hq
      · rw [hplace', hplace']
        exact hlater p (by simp) q hq
    obtain ⟨s', hs', hsame⟩ := (hf _).again hstart hr hc fun q hq => hlater q (by simp [hq])
    exact ⟨s', by rw [bind_of_ok (get_apply s), hthere]; exact hs', hsame⟩

end Action

namespace Run

variable {t₀ : FileTree} {dirs : List Path}

theorem write_again (p : Path) (data : Bytes) : Again t₀ [p] [p] dirs (write p data) where
  work := write_fileWork (by simp) data
  again := by
    intro r r' a hstart hr later dirs' s hc hlater
    obtain ⟨files, hwrite, rfl⟩ := write_eq_ok.mp hr
    obtain ⟨files', hwrite', hsame⟩ := writeFile_later hwrite hc fun q hq => by
      rw [place_congr hstart, place_congr hstart]
      exact hlater p (by simp) q hq
    exact ⟨_, write_eq_ok.mpr ⟨files', hwrite', rfl⟩, hsame⟩

theorem copy_again (source destination : Path) :
    Again t₀ [source, destination] [destination] dirs (copy source destination) where
  work := copy_fileWork source (by simp)
  again := by
    intro r r' a hstart hr later dirs' s hc hlater
    obtain ⟨files, hcopy, rfl⟩ := copy_eq_ok.mp hr
    have happart : ∀ p ∈ [source, destination], ∀ q ∈ later, r.files.place q ≠ r.files.place p := by
      intro p hp q hq
      rw [place_congr hstart, place_congr hstart]
      exact hlater p hp q hq
    obtain ⟨files', hcopy', hsame⟩ := copyFile_later hcopy hc (happart source (by simp))
      (happart destination (by simp))
    exact ⟨_, copy_eq_ok.mpr ⟨files', hcopy', rfl⟩, hsame⟩

theorem ensureDirectory_again {p : Path} (hp : ∀ q ∈ p.ancestors, q ∈ dirs) :
    Again t₀ [] [] dirs (ensureDirectory p) where
  work := ensureDirectory_fileWork hp
  again := by
    intro r r' a hstart hr later dirs' s hc hlater
    obtain ⟨files, hmade, rfl⟩ := ensureDirectory_eq_ok.mp hr
    exact ⟨s, ensureDirectory_eq_ok.mpr ⟨s.files, FileTree.ensureDirectory_again hmade hc, rfl⟩,
      .refl _⟩

/-- **Files written in a row** can be written again when their places differ. -/
theorem writeAll_again {ps : List (Path × Bytes)}
    (hn : ((ps.map Prod.fst).map t₀.place).Nodup) :
    Again t₀ (ps.map Prod.fst) (ps.map Prod.fst) dirs (writeAll ps) := by
  induction ps with
  | nil => exact Again.pure ()
  | cons pd ps ih =>
    rw [List.map_cons, List.map_cons, List.nodup_cons] at hn
    refine Again.bind (write_again pd.1 pd.2) (fun _ => ih hn.2) fun p hp q hq he => hn.1 ?_
    rw [List.mem_singleton.mp hp] at he
    exact he ▸ List.mem_map_of_mem hq

end Run

/-- **What is written for a test** can be written again, when no word diff is wanted. -/
theorem Writer.writeResults_again {t₀ : FileTree} (w : Writer) (test : Path)
    {tag extension : String} (ht : '/' ∉ tag.toList) (he : '/' ∉ extension.toList)
    (actual expected : Option Bytes) {diffs : Diffs} (hwords : diffs.words = false) :
    Again t₀ ((w.texts test tag extension actual expected diffs.lines).map Prod.fst)
      ((w.texts test tag extension actual expected diffs.lines).map Prod.fst)
      (w.artifactDir test).ancestors
      (w.writeResults test tag extension actual expected diffs) := by
  have hsub := (w.map_fst_texts_sublist test tag extension actual expected diffs.lines).trans
    (List.sublist_append_left _ [w.wordDiffPath test tag])
  have hn := (w.nodup_resultPlaces test ht he t₀).sublist (hsub.map t₀.place)
  rw [writeResults_eq, if_neg (by simp [wantsWords, hwords])]
  have htexts : Again t₀ _ _ _ (w.writeTexts test tag extension actual expected diffs.lines) :=
    Again.bind (Run.ensureDirectory_again fun _ hq => hq) (fun _ => Run.writeAll_again hn)
      (by simp)
  exact (htexts.bind (fun _ => Again.bind (Again.pure ()) (fun _ => Again.pure _) (by simp))
    (by simp)).mono (by simp) (by simp)

end Baseline
