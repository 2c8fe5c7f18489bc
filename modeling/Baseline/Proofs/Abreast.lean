import Baseline.Proofs.FileTree.Ahead
import Baseline.Proofs.Run

/-!
# Actions abreast

An action runs abreast in two runs (`Action.Abreast`) when it ends the same in both:
with one value or with one error.  What it starts from and what it ends in are
relations of the files of the two runs, so actions that run abreast are put
together by `Abreast.bind`.

The relations for which the parts of an action are looked at are those of one tree
ahead of another (`Run.Keeps`).  Making a directory brings the two trees closer: from
then on nothing on the way to it tells them apart (`Run.ensureDirectory_abreast`).
-/

namespace Baseline

namespace Action

variable {α β : Type} {E E' R R' S S' T : FileTree → FileTree → Prop}

/-- The same result, in files that are related by `S` if it is a value and by `E` if it is an
error. -/
inductive EndsAlike (E S : FileTree → FileTree → Prop) :
    EStateM.Result RunError Run α → EStateM.Result RunError Run α → Prop
  | ok {a : α} {r r' : Run} (h : S r.files r'.files) : EndsAlike E S (.ok a r) (.ok a r')
  | error {e : RunError} {r r' : Run} (h : E r.files r'.files) :
    EndsAlike E S (.error e r) (.error e r')

theorem EndsAlike.mono {s s' : EStateM.Result RunError Run α} (h : EndsAlike E S s s')
    (hE : ∀ t t', E t t' → E' t t') (hS : ∀ t t', S t t' → S' t t') : EndsAlike E' S' s s' := by
  cases h with
  | ok h => exact .ok (hS _ _ h)
  | error h => exact .error (hE _ _ h)

/-- What an action comes to: a value or an error. -/
def outcome : EStateM.Result RunError Run α → Except RunError α
  | .ok a _ => .ok a
  | .error e _ => .error e

theorem outcome_ne {s s' : EStateM.Result RunError Run α} (h : endedWell s ≠ endedWell s') :
    outcome s ≠ outcome s' := by
  cases s <;> cases s' <;> simp_all [outcome, endedWell]

theorem EndsAlike.outcome_eq {s s' : EStateM.Result RunError Run α} (h : EndsAlike E S s s') :
    outcome s' = outcome s := by
  cases h <;> rfl

theorem EndsAlike.endOf {s s' : EStateM.Result RunError Run α} (h : EndsAlike E E s s') :
    E (endOf s).files (endOf s').files := by
  cases h with
  | ok h => exact h
  | error h => exact h

/-- The action ends the same in two runs whose files are related by `R`. -/
def Abreast (E R S : FileTree → FileTree → Prop) (x : Action α) : Prop :=
  ∀ r r' : Run, R r.files r'.files → EndsAlike E S (x r) (x r')

theorem Abreast.mono {x : Action α} (h : Abreast E R S x) (hE : ∀ t t', E t t' → E' t t')
    (hR : ∀ t t', R' t t' → R t t') (hS : ∀ t t', S t t' → S' t t') : Abreast E' R' S' x :=
  fun r r' hr => (h r r' (hR _ _ hr)).mono hE hS

theorem Abreast.pure (a : α) : Abreast E R R (Pure.pure a : Action α) := fun _ _ hr => .ok hr

/-- **Actions that run abreast** do so one after the other. -/
theorem Abreast.bind_of_ok {x : Action α} {f : α → Action β} (hx : Abreast E R S x)
    (hf : ∀ a, (∃ r r', x r = .ok a r') → Abreast E S T (f a)) : Abreast E R T (x >>= f) := by
  intro r r' hr
  have hends := hx r r' hr
  generalize hxr : x r = s at hends
  generalize hxr' : x r' = s' at hends
  cases hends with
  | ok h =>
    rw [Action.bind_of_ok hxr, Action.bind_of_ok hxr']
    exact hf _ ⟨r, _, hxr⟩ _ _ h
  | error h =>
    rw [bind_of_error hxr, bind_of_error hxr']
    exact .error h

theorem Abreast.bind {x : Action α} {f : α → Action β} (hx : Abreast E R S x)
    (hf : ∀ a, Abreast E S T (f a)) : Abreast E R T (x >>= f) := hx.bind_of_ok fun a _ => hf a

/-- What is worked out from the run has to come out the same in both. -/
theorem Abreast.get {f : Run → Action β} (h : ∀ r r' : Run, R r.files r'.files → f r = f r')
    (hf : ∀ r, Abreast E R S (f r)) : Abreast E R S (MonadState.get >>= f) := by
  intro r r' hr
  show EndsAlike E S (f r r) (f r' r')
  rw [← h r r' hr]
  exact hf r r r' hr

theorem Abreast.ite {c : Prop} [Decidable c] {x y : Action α} (hx : c → Abreast E R S x)
    (hy : ¬ c → Abreast E R S y) : Abreast E R S (if c then x else y) := by
  split
  · exact hx ‹_›
  · exact hy ‹_›

end Action

open Action FileTree

namespace Run

variable {t₀ : FileTree} {written made : Location → Prop}

/-- The action runs abreast when the files of one run are ahead of those of the other, and they
stay so. -/
abbrev Keeps (t₀ : FileTree) (written made : Location → Prop) {α : Type} (x : Action α) : Prop :=
  Abreast (t₀.AheadBy written made) (t₀.AheadBy written made) (t₀.AheadBy written made) x

/-! ### The parts of an action -/

theorem report_abreast {E R : FileTree → FileTree → Prop} (e : Event) :
    Abreast E R R (report e) := fun _ _ hr => .ok hr

theorem read_keeps {p : Path} (hp : t₀.Untouched written made p) :
    Keeps t₀ written made (read p) := by
  intro r r' hr
  unfold read
  rw [readFile_of_aheadBy hr hp]
  cases r.files.readFile p with
  | ok data => exact .ok hr
  | error fault => exact .error hr

theorem readIfThere_keeps {p : Path} (hp : t₀.Untouched written made p) :
    Keeps t₀ written made (readIfThere p) := by
  intro r r' hr
  unfold readIfThere
  rw [readFile_of_aheadBy hr hp]
  cases r.files.readFile p with
  | ok data => exact .ok hr
  | error fault =>
    dsimp only
    split
    · exact .ok hr
    · exact .error hr

theorem write_keeps {p : Path} (hp : t₀.Clear written made p) (data : Bytes) :
    Keeps t₀ written made (write p data) := by
  intro r r' hr
  have halike := writeFile_of_aheadBy hr hp data
  rw [write_apply, write_apply]
  generalize r.files.writeFile p data = s at halike
  generalize r'.files.writeFile p data = s' at halike
  cases halike with
  | error e => exact .error hr
  | ok h => exact .ok h

theorem copy_keeps {source destination : Path} (hs : t₀.Untouched written made source)
    (hd : t₀.Clear written made destination) : Keeps t₀ written made (copy source destination) := by
  intro r r' hr
  have halike := copyFile_of_aheadBy hr hs hd
  unfold copy
  generalize r.files.copyFile source destination = s at halike
  generalize r'.files.copyFile source destination = s' at halike
  cases halike with
  | error e => exact .error hr
  | ok h => exact .ok h

/-- **A directory is made abreast**, and then nothing on the way to it tells the files apart. -/
theorem ensureDirectory_abreast {p : Path} (hp : p.NoParent)
    (hw : ∀ l, l <:+ t₀.place p → ¬ written l)
    (hlast : (stepsOf p).getLast? ≠ some .stay ∨ t₀.node? (t₀.place p) = some .directory) :
    Abreast (t₀.AheadBy written made) (t₀.AheadBy written made)
      (t₀.AheadBy written fun l => made l ∧ ¬ l <:+ t₀.place p) (ensureDirectory p) := by
  intro r r' hr
  obtain ⟨houtcome, hahead⟩ := ensureDirectory_of_aheadBy hr hp hw hlast
  unfold ensureDirectory
  cases hmake : r.files.ensureDirectory p with
  | mk outcome files =>
    cases hmake' : r'.files.ensureDirectory p with
    | mk outcome' files' =>
      rw [hmake, hmake'] at houtcome hahead
      obtain rfl : outcome' = outcome := houtcome
      cases outcome' with
      | error fault => exact .error hahead
      | ok =>
        have hd := directory_of_ensureDirectory hmake
        rw [place_congr hahead.start] at hd
        exact .ok (hahead.settle hd)

end Run

end Baseline
