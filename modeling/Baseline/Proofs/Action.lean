import Baseline.Run
import Baseline.Proofs.FileTree.Change

/-!
# Actions

An action takes a run to its end, well or badly.  `Leads R x` says that
every run is related by `R` to the one in which `x` ends.  When `R` is reflexive
and transitive (`RunOrder`), an action built by `>>=` leads along `R` as soon as
its parts do (`Leads.bind`), so a fact about a comparison comes down to one fact
for each of the few things an action can do.

What an action ends with is read off its parts by `bind_eq_ok` and
`bind_eq_error`.
-/

namespace Baseline

/-- The run in which an action ends. -/
def endOf {α : Type} : EStateM.Result RunError Run α → Run
  | .ok _ r => r
  | .error _ r => r

/-- A relation of runs that is reflexive and transitive. -/
structure RunOrder (R : Run → Run → Prop) : Prop where
  refl : ∀ r, R r r
  trans : ∀ {a b c}, R a b → R b c → R a c

namespace Action

variable {α β : Type} {R : Run → Run → Prop} {x : Action α} {f : α → Action β}

/-! ### Results -/

theorem bind_of_ok {r r' : Run} {a : α} (h : x r = .ok a r') : (x >>= f) r = f a r' := by
  show EStateM.bind x f r = _
  simp [EStateM.bind, h]

theorem bind_of_error {r r' : Run} {e : RunError} (h : x r = .error e r') :
    (x >>= f) r = .error e r' := by
  show EStateM.bind x f r = _
  simp [EStateM.bind, h]

theorem bind_eq_ok {r r'' : Run} {b : β} :
    (x >>= f) r = .ok b r'' ↔ ∃ a r', x r = .ok a r' ∧ f a r' = .ok b r'' := by
  cases h : x r with
  | ok a r' =>
    rw [bind_of_ok h]
    exact ⟨fun hf => ⟨a, r', rfl, hf⟩, fun ⟨_, _, he, hf⟩ => by cases he; exact hf⟩
  | error e r' =>
    rw [bind_of_error h]
    simp

theorem bind_eq_error {r r'' : Run} {e : RunError} :
    (x >>= f) r = .error e r'' ↔
      x r = .error e r'' ∨ ∃ a r', x r = .ok a r' ∧ f a r' = .error e r'' := by
  cases h : x r with
  | ok a r' =>
    rw [bind_of_ok h]
    simp only [reduceCtorEq, false_or]
    exact ⟨fun hf => ⟨a, r', rfl, hf⟩, fun ⟨_, _, he, hf⟩ => by cases he; exact hf⟩
  | error e' r' =>
    rw [bind_of_error h]
    simp

/-- Whether a result is one of an action that ended well. -/
def endedWell : EStateM.Result RunError Run α → Bool
  | .ok _ _ => true
  | .error _ _ => false

theorem exists_of_endedWell {r : Run} (h : endedWell (x r) = true) : ∃ a r', x r = .ok a r' := by
  cases hx : x r with
  | ok a r' => exact ⟨a, r', rfl⟩
  | error e r' => simp [hx, endedWell] at h

/-- What an action that ended well ended with. -/
def answer? : EStateM.Result RunError Run α → Option α
  | .ok a _ => some a
  | .error _ _ => none

theorem exists_of_answer? {r : Run} {a : α} (h : answer? (x r) = some a) :
    ∃ r', x r = .ok a r' := by
  cases hx : x r with
  | ok a' r' =>
    rw [hx] at h
    exact ⟨r', by rw [Option.some.inj h]⟩
  | error e r' => simp [hx, answer?] at h

theorem exists_of_endedBadly {r : Run} (h : endedWell (x r) = false) :
    ∃ e r', x r = .error e r' := by
  cases hx : x r with
  | ok a r' => simp [hx, endedWell] at h
  | error e r' => exact ⟨e, r', rfl⟩

theorem endOf_ok {r r' : Run} {a : α} (h : x r = .ok a r') : endOf (x r) = r' := by
  rw [h]
  rfl

theorem endOf_error {r r' : Run} {e : RunError} (h : x r = .error e r') : endOf (x r) = r' := by
  rw [h]
  rfl

@[simp] theorem pure_apply (a : α) (r : Run) : (pure a : Action α) r = .ok a r := rfl

@[simp] theorem get_apply (r : Run) : (get : Action Run) r = .ok r r := rfl

/-! ### Relations kept by actions -/

/-- Every run is related to the one in which the action ends. -/
def Leads (R : Run → Run → Prop) (x : Action α) : Prop := ∀ r, R r (endOf (x r))

theorem Leads.of_ok (h : Leads R x) {r r' : Run} {a : α} (hx : x r = .ok a r') : R r r' := by
  have := h r
  rwa [hx] at this

theorem Leads.of_error (h : Leads R x) {r r' : Run} {e : RunError} (hx : x r = .error e r') :
    R r r' := by
  have := h r
  rwa [hx] at this

theorem Leads.mono {S : Run → Run → Prop} (h : Leads R x) (hs : ∀ r r', R r r' → S r r') :
    Leads S x := fun r => hs _ _ (h r)

theorem Leads.pure (hR : RunOrder R) (a : α) : Leads R (Pure.pure a : Action α) :=
  fun r => hR.refl r

theorem Leads.get (hR : RunOrder R) : Leads R (MonadState.get : Action Run) := fun r => hR.refl r

/-- **From one run** an action leads where its parts lead from the runs that they are given. -/
theorem endOf_bind (hR : RunOrder R) {r : Run} (hx : R r (endOf (x r)))
    (hf : ∀ a r', x r = .ok a r' → R r' (endOf (f a r'))) : R r (endOf ((x >>= f) r)) := by
  cases h : x r with
  | ok a r' =>
    rw [h] at hx
    rw [bind_of_ok h]
    exact hR.trans hx (hf a r' h)
  | error e r' =>
    rw [h] at hx
    rwa [bind_of_error h]

/-- **An action leads where its parts lead.** -/
theorem Leads.bind (hR : RunOrder R) (hx : Leads R x) (hf : ∀ a, Leads R (f a)) :
    Leads R (x >>= f) := fun r => endOf_bind hR (hx r) fun a r' _ => hf a r'

theorem Leads.ite {c : Prop} [Decidable c] {y : Action α} (hx : c → Leads R x)
    (hy : ¬ c → Leads R y) : Leads R (if c then x else y) := by
  split
  · exact hx ‹_›
  · exact hy ‹_›

end Action

end Baseline
