import Baseline.Proofs.Action
import Baseline.Proofs.FileTree.Content

/-!
# What actions do to a run

Reading and reporting (`Run.Looks`) leaves the files and the tool alone.  All an
action does but calling the word-diff tool is file work (`Run.FileWork writes
dirs`): files are written at the paths `writes`, directories are made at the
paths `dirs`, and whatever concerns the tool stays as it is.  Both are orders, so
they hold of an action as soon as they hold of its parts.

A tool may do what it likes with the files.  `Run.CallSpares c P` says that one call of
it leaves the files alone that `P` holds of; a call with a scripted answer always does
(`callSpares_scripted`).
-/

namespace Baseline

/-- Whether an event says that the word-diff tool is not called again. -/
def Event.isToolUnavailable : Event → Bool
  | .toolUnavailable _ _ => true
  | _ => false

namespace Run

open Action

/-! ### What the parts of an action end with -/

theorem report_apply (e : Event) (r : Run) :
    report e r = .ok () { r with events := r.events ++ [e] } := rfl

/-- The run after an event was reported, when that is asked for. -/
def reported (r : Run) (wanted : Bool) (e : Event) : Run :=
  { r with events := r.events ++ if wanted then [e] else [] }

theorem report_if_apply {α : Type} (wanted : Bool) (e : Event) (x : Action α) (r : Run) :
    (if wanted then report e >>= fun _ => x else x) r = x (r.reported wanted e) := by
  cases wanted with
  | false => simp [reported]
  | true => rw [if_pos rfl, bind_of_ok (report_apply e r), reported, if_pos rfl]

theorem write_apply (p : Path) (data : Bytes) (r : Run) :
    write p data r =
      match r.files.writeFile p data with
      | .ok files =>
        .ok () { r with files := files, events := r.events ++ [.writingArtifact p data.length] }
      | .error fault =>
        .error (.file p fault) { r with events := r.events ++ [.writingArtifact p data.length] } :=
  rfl

theorem write_eq_ok {p : Path} {data : Bytes} {r r' : Run} :
    write p data r = .ok () r' ↔ ∃ files, r.files.writeFile p data = .ok files ∧
      r' = { r with files := files, events := r.events ++ [.writingArtifact p data.length] } := by
  rw [write_apply]
  cases r.files.writeFile p data with
  | ok files => simp [eq_comm]
  | error fault => simp

theorem write_eq_error {p : Path} {data : Bytes} {e : RunError} {r r' : Run} :
    write p data r = .error e r' ↔ ∃ fault, r.files.writeFile p data = .error fault ∧
      e = .file p fault ∧
      r' = { r with events := r.events ++ [.writingArtifact p data.length] } := by
  rw [write_apply]
  cases r.files.writeFile p data with
  | ok files => simp
  | error fault => simp [eq_comm]

theorem read_eq_ok {p : Path} {data : Bytes} {r r' : Run} :
    read p r = .ok data r' ↔ r.files.readFile p = .ok data ∧ r' = r := by
  unfold read
  cases r.files.readFile p with
  | ok data => simp [eq_comm]
  | error fault => simp

theorem read_eq_error {p : Path} {e : RunError} {r r' : Run} :
    read p r = .error e r' ↔
      ∃ fault, r.files.readFile p = .error fault ∧ e = .file p fault ∧ r' = r := by
  unfold read
  cases r.files.readFile p with
  | ok data => simp
  | error fault => simp [eq_comm]

theorem readIfThere_eq_ok {p : Path} {data : Bytes} {r r' : Run} :
    readIfThere p r = .ok data r' ↔ r.files.CountsAs p data ∧ r' = r := by
  unfold readIfThere FileTree.CountsAs FileTree.Missing
  cases r.files.readFile p with
  | ok data => simp [eq_comm]
  | error fault =>
    by_cases hkind : fault.kind = .notFound
    · simp [hkind, eq_comm]
    · simp [hkind]

theorem readIfThere_eq_error {p : Path} {e : RunError} {r r' : Run} :
    readIfThere p r = .error e r' ↔ ∃ fault, r.files.readFile p = .error fault ∧
      fault.kind ≠ .notFound ∧ e = .file p fault ∧ r' = r := by
  unfold readIfThere
  cases r.files.readFile p with
  | ok data => simp
  | error fault =>
    by_cases hkind : fault.kind = .notFound
    · simp [hkind]
    · dsimp only
      rw [if_neg hkind]
      constructor
      · intro h
        cases h
        exact ⟨fault, rfl, hkind, rfl, rfl⟩
      · rintro ⟨fault', hfault, -, rfl, rfl⟩
        rw [Except.error.inj hfault]

theorem copy_eq_ok {source destination : Path} {r r' : Run} :
    copy source destination r = .ok () r' ↔
      ∃ files, r.files.copyFile source destination = .ok files ∧ r' = { r with files := files } := by
  unfold copy
  cases r.files.copyFile source destination with
  | ok files => simp [eq_comm]
  | error fault => simp

theorem ensureDirectory_eq_ok {p : Path} {r r' : Run} :
    ensureDirectory p r = .ok () r' ↔
      ∃ files, r.files.ensureDirectory p = (.ok (), files) ∧ r' = { r with files := files } := by
  unfold ensureDirectory
  rcases r.files.ensureDirectory p with ⟨fault | done, files⟩
  · simp
  · simp [eq_comm]

theorem ensureDirectory_eq_error {p : Path} {e : RunError} {r r' : Run} :
    ensureDirectory p r = .error e r' ↔
      ∃ fault, r.files.ensureDirectory p = (.error fault, r'.files) ∧ e = .file p fault ∧
        r' = { r with files := r'.files } := by
  unfold ensureDirectory
  rcases r.files.ensureDirectory p with ⟨fault | done, files⟩
  · simp only [EStateM.Result.error.injEq, Prod.mk.injEq, Except.error.injEq]
    constructor
    · rintro ⟨rfl, rfl⟩
      exact ⟨fault, ⟨rfl, rfl⟩, rfl, rfl⟩
    · rintro ⟨fault', ⟨rfl, rfl⟩, rfl, hr⟩
      exact ⟨rfl, hr.symm⟩
  · simp

/-! ### Reading and reporting -/

/-- Nothing changes but what was reported, and that the tool is missing was not. -/
structure Looks (r r' : Run) : Prop where
  files : r'.files = r.files
  environment : r'.environment = r.environment
  tools : r'.tools = r.tools
  availability : r'.availability = r.availability
  calls : r'.calls = r.calls
  warnings : r'.events.filter Event.isToolUnavailable = r.events.filter Event.isToolUnavailable

theorem Looks.order : RunOrder Looks where
  refl _ := ⟨rfl, rfl, rfl, rfl, rfl, rfl⟩
  trans h h' :=
    { files := h'.files.trans h.files
      environment := h'.environment.trans h.environment
      tools := h'.tools.trans h.tools
      availability := h'.availability.trans h.availability
      calls := h'.calls.trans h.calls
      warnings := h'.warnings.trans h.warnings }

theorem report_looks {e : Event} (he : e.isToolUnavailable = false) : Leads Looks (report e) := by
  intro r
  rw [report_apply]
  exact ⟨rfl, rfl, rfl, rfl, rfl, by simp [endOf, he]⟩

theorem reported_looks {e : Event} (he : e.isToolUnavailable = false) (wanted : Bool) (r : Run) :
    r.Looks (r.reported wanted e) := by
  refine ⟨rfl, rfl, rfl, rfl, rfl, ?_⟩
  cases wanted <;> simp [reported, he]

theorem read_looks (p : Path) : Leads Looks (read p) := by
  intro r
  unfold read
  cases r.files.readFile p <;> exact Looks.order.refl r

theorem readIfThere_looks (p : Path) : Leads Looks (readIfThere p) := by
  intro r
  unfold readIfThere
  cases r.files.readFile p with
  | ok data => exact Looks.order.refl r
  | error fault =>
    dsimp only
    split <;> exact Looks.order.refl r

/-! ### File work -/

/-- Files change at the given paths only, and nothing that concerns the tool changes. -/
structure FileWork (writes dirs : List Path) (r r' : Run) : Prop where
  files : r.files.ChangesOnly writes dirs r'.files
  environment : r'.environment = r.environment
  tools : r'.tools = r.tools
  availability : r'.availability = r.availability
  calls : r'.calls = r.calls
  warnings : r'.events.filter Event.isToolUnavailable = r.events.filter Event.isToolUnavailable

variable {writes dirs : List Path}

theorem FileWork.order (writes dirs : List Path) : RunOrder (FileWork writes dirs) where
  refl _ := ⟨.refl _ _ _, rfl, rfl, rfl, rfl, rfl⟩
  trans h h' :=
    { files := h.files.trans h'.files
      environment := h'.environment.trans h.environment
      tools := h'.tools.trans h.tools
      availability := h'.availability.trans h.availability
      calls := h'.calls.trans h.calls
      warnings := h'.warnings.trans h.warnings }

theorem FileWork.mono {writes' dirs' : List Path} {r r' : Run} (h : FileWork writes dirs r r')
    (hw : ∀ p ∈ writes, p ∈ writes') (hd : ∀ p ∈ dirs, p ∈ dirs') :
    FileWork writes' dirs' r r' := { h with files := h.files.mono hw hd }

theorem Looks.fileWork {r r' : Run} (h : Looks r r') : FileWork writes dirs r r' :=
  ⟨h.files ▸ .refl _ _ _, h.environment, h.tools, h.availability, h.calls, h.warnings⟩

/-- What only looks is file work. -/
theorem leads_fileWork {α : Type} {x : Action α} (h : Leads Looks x) :
    Leads (FileWork writes dirs) x := h.mono fun _ _ hr => hr.fileWork

theorem write_fileWork {p : Path} (hp : p ∈ writes) (data : Bytes) :
    Leads (FileWork writes dirs) (write p data) := by
  intro r
  rw [write_apply]
  cases h : r.files.writeFile p data with
  | ok files =>
    exact ⟨(FileTree.ChangesOnly.of_writeFile h).mono (by simp [hp]) (by simp), rfl, rfl, rfl, rfl,
      by simp [endOf, Event.isToolUnavailable]⟩
  | error fault =>
    exact ⟨.refl _ _ _, rfl, rfl, rfl, rfl, by simp [endOf, Event.isToolUnavailable]⟩

theorem copy_fileWork (source : Path) {destination : Path} (hp : destination ∈ writes) :
    Leads (FileWork writes dirs) (copy source destination) := by
  intro r
  unfold copy
  cases h : r.files.copyFile source destination with
  | ok files =>
    exact ⟨(FileTree.ChangesOnly.of_copyFile h).mono (by simp [hp]) (by simp), rfl, rfl, rfl, rfl,
      rfl⟩
  | error fault => exact (FileWork.order _ _).refl r

theorem ensureDirectory_fileWork {p : Path} (hp : ∀ q ∈ p.ancestors, q ∈ dirs) :
    Leads (FileWork writes dirs) (ensureDirectory p) := by
  intro r
  have hc : r.files.ChangesOnly writes dirs (r.files.ensureDirectory p).2 :=
    (FileTree.changesOnly_ensureDirectory r.files p).mono (by simp) hp
  unfold ensureDirectory
  cases h : r.files.ensureDirectory p with
  | mk outcome files =>
    rw [h] at hc
    cases outcome <;> exact ⟨hc, rfl, rfl, rfl, rfl, rfl⟩

/-! ### Calls of the tool -/

/-- A call leaves all files alone that `P` holds of. -/
def CallSpares (r : Run) (c : Call) (P : FileTree → Prop) : Prop :=
  ∀ files, P files → (r.tools.call files r.environment c).2.2 = files

/-- A call leaves the file at a location alone, and where relative paths start, in all files that
`P` holds of. -/
def CallSparesAt (r : Run) (c : Call) (loc : Location) (P : FileTree → Prop) : Prop :=
  ∀ files, P files →
    (r.tools.call files r.environment c).2.2.content? loc = files.content? loc ∧
      (r.tools.call files r.environment c).2.2.start = files.start

variable {c : Call} {P : FileTree → Prop}

/-- Scripted answers change no file. -/
theorem callSpares_scripted {r : Run} {answers : List (Except Fault Bytes)} {fallback : Bytes}
    (h : r.tools = .scripted answers fallback) (c : Call) (P : FileTree → Prop) :
    r.CallSpares c P := by
  intro files _
  rw [h]
  cases answers <;> rfl

theorem CallSpares.congr {r r' : Run} (h : r.CallSpares c P) (ht : r'.tools = r.tools)
    (he : r'.environment = r.environment) : r'.CallSpares c P := by
  intro files hp
  rw [ht, he]
  exact h files hp

theorem CallSpares.mono {r : Run} {Q : FileTree → Prop} (h : r.CallSpares c Q)
    (hpq : ∀ files, P files → Q files) : r.CallSpares c P := fun files hp => h files (hpq files hp)

theorem CallSparesAt.congr {r r' : Run} {loc : Location} (h : r.CallSparesAt c loc P)
    (ht : r'.tools = r.tools) (he : r'.environment = r.environment) :
    r'.CallSparesAt c loc P := by
  intro files hp
  rw [ht, he]
  exact h files hp

end Run

end Baseline
