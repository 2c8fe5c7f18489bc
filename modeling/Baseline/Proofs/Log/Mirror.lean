import Baseline.Proofs.Log.Session

/-!
# The file of a log

The file of a log mirrors its records: whatever is done with logs, and whatever
happens elsewhere, the file holds what it held when it was opened, and behind that
one line for each record that was made through a log of this file
(`mirrorsRecords_run`).  Clearing a log takes no line away, and opening the file again
adds none.

The file mirrors the records as long as all of them can be written.  One whose path is text fails
only when a device was given to its log that has too little room, and then the fault is that
of the device.

What carries it is `Keeps`: the content of the file, that no log has lost its file or has
anything left over for it, and a bound on how many records a log has, as records are
numbered with 64 bits.
-/

namespace Baseline.LogSession

open Log (Mirrors)

/-- The record that was made through a log of the file at a location, if one was. -/
def Answer.recordAt? (loc : Location) : Answer → Option Record
  | .recorded place (.ok r) => if place = some loc then some r else none
  | _ => none

/-- The records that were made through logs of the file at a location, in order. -/
def recordsAt (loc : Location) (answers : List Answer) : List Record :=
  answers.filterMap (Answer.recordAt? loc)

/-- A record failed that was asked for through a log of the file at a location. -/
def Answer.FailsAt (loc : Location) (a : Answer) : Prop :=
  ∃ fault, a = .recorded (some loc) (.error fault)

/-- What happens elsewhere leaves a location as it is. -/
def Use.Spares (loc : Location) : Use → Prop
  | .elsewhere work => ∀ files : FileTree, (work files).node? loc = files.node? loc
  | _ => True

/-- The path of a test that is recorded is text. -/
def Use.NamesText : Use → Prop
  | .record _ _ _ test _ _ => Utf8.decode? test.bytes ≠ none
  | _ => True

namespace State

variable {loc : Location} {content before : Bytes} {s : State} {n : Nat} {rs : List Record}

/-- A log still has its file, and has nothing left over for the file at a location. -/
structure Sound (loc : Location) (l : Log) : Prop where
  attached : ∀ f, l.file = some f → f.attached = true
  waiting : ∀ f, l.file = some f → f.place = loc → f.waiting = []

theorem Sound.of_file {l l' : Log} (h : Sound loc l) (hfile : l'.file = l.file) : Sound loc l' :=
  ⟨hfile ▸ h.attached, hfile ▸ h.waiting⟩

theorem sound_of_no_file {l : Log} (h : l.file = none) : Sound loc l := ⟨by simp [h], by simp [h]⟩

theorem sound_of_opened (loc above : Location) (name : Name) :
    Sound loc ⟨[], some (.opened above name)⟩ := by
  constructor
  · rintro _ ⟨⟩
    rfl
  · rintro _ ⟨⟩ -
    rfl

theorem Sound.withDevice {l : Log} (h : Sound loc l) (device : Device) :
    Sound loc (l.withDevice device) := by
  have hfile : ∀ f, (l.withDevice device).file = some f →
      ∃ g, l.file = some g ∧ { g with device } = f :=
    fun f hf => Option.map_eq_some_iff.mp hf
  refine ⟨fun f hf => ?_, fun f hf hplace => ?_⟩
  · obtain ⟨g, hg, rfl⟩ := hfile f hf
    exact h.attached g hg
  · obtain ⟨g, hg, rfl⟩ := hfile f hf
    exact h.waiting g hg hplace

/-- What is left over for the file of a log may change when the file is another one. -/
theorem Sound.handed {l : Log} {f : LogFile} (h : Sound loc l) (hfile : l.file = some f)
    (records : List Record) (left : Bytes) (device : Device) (hleft : f.place = loc → left = []) :
    Sound loc ⟨records, some { f with waiting := left, device }⟩ := by
  constructor
  · rintro _ ⟨⟩
    exact h.attached f hfile
  · rintro _ ⟨⟩ hplace
    exact hleft hplace

/-- The file at a location holds a content, all logs are sound, and none has more than some number
of records. -/
structure Keeps (loc : Location) (content : Bytes) (n : Nat) (s : State) : Prop where
  content : s.files.content? loc = some content
  sound : ∀ l ∈ s.logs.logs, Sound loc l
  short : ∀ l ∈ s.logs.logs, l.records.length ≤ n

theorem Keeps.mono {m : Nat} (h : s.Keeps loc content n) (hm : n ≤ m) : s.Keeps loc content m :=
  ⟨h.content, h.sound, fun l hl => Nat.le_trans (h.short l hl) hm⟩

/-- What happens elsewhere. -/
theorem Keeps.withFiles (h : s.Keeps loc content n) {files : FileTree}
    (hf : files.node? loc = s.files.node? loc) : Keeps loc content n ⟨s.logs, files⟩ :=
  ⟨(FileTree.content?_eq_of_node? hf).trans h.content, h.sound, h.short⟩

/-- What is added to the file of a log at another location. -/
theorem Keeps.content?_add_of_ne (h : s.Keeps loc content n) {f : LogFile} (hne : f.place ≠ loc)
    (data : Bytes) : (f.add s.files data).content? loc = some content :=
  (FileTree.content?_eq_of_node? (f.node?_add_of_ne s.files data (Ne.symm hne))).trans h.content

/-- What is added to the file of a log at the location, where nothing is left over. -/
theorem Keeps.content?_add (h : s.Keeps loc content n) {l : Log} {f : LogFile}
    (hl : Sound loc l) (hfile : l.file = some f) (hplace : f.place = loc) (text : Bytes) :
    (f.add s.files (f.due text)).content? loc = some (content ++ (text ++ [Log.newline])) := by
  rw [LogFile.add, if_pos (hl.attached f hfile), LogFile.due, hl.waiting f hfile hplace,
    List.nil_append]
  subst hplace
  exact FileTree.content?_appendAt_of_file h.content _

/-- A log that is added, sound and with an empty list. -/
theorem Keeps.add (h : s.Keeps loc content n) {files : FileTree} (handle : String) {l : Log}
    (hc : files.content? loc = some content) (hl : Sound loc l) (hr : l.records = []) :
    Keeps loc content n ⟨s.logs.add handle l, files⟩ := by
  have hmem : ∀ k ∈ (s.logs.add handle l).logs, k ∈ s.logs.logs ∨ k = l := by
    intro k hk
    simpa [Logs.add] using hk
  refine ⟨hc, fun k hk => ?_, fun k hk => ?_⟩
  · rcases hmem k hk with hk | rfl
    · exact h.sound k hk
    · exact hl
  · rcases hmem k hk with hk | rfl
    · exact h.short k hk
    · simp [hr]

/-- A log that changes. -/
theorem Keeps.update (h : s.Keeps loc content n) {files : FileTree} {content' : Bytes}
    (handle : String) {l : Log} (hc : files.content? loc = some content') (hl : Sound loc l)
    (hr : l.records.length ≤ n) : Keeps loc content' n ⟨s.logs.update handle l, files⟩ := by
  refine ⟨hc, fun k hk => ?_, fun k hk => ?_⟩
  · rcases Logs.mem_logs_update hk with rfl | hk
    · exact hl
    · exact h.sound k hk
  · rcases Logs.mem_logs_update hk with rfl | hk
    · exact hr
    · exact h.short k hk

/-- What one thing does to the file of a location: nothing, or it adds the line of a record. -/
def Mirrored (loc : Location) (before : Bytes) (rs : List Record) (n : Nat)
    (result : Answer × State) : Prop :=
  ∃ content, result.2.Keeps loc content n ∧
    Mirrors before (rs ++ (result.1.recordAt? loc).toList) content

/-- Most things add no line. -/
theorem mirrored_of_keeps {a : Answer} (hs : s.Keeps loc content n) (hm : Mirrors before rs content)
    (ha : a.recordAt? loc = none) : Mirrored loc before rs n (a, s) :=
  ⟨content, hs, by simpa [ha] using hm⟩

/-- **Recording adds one line** to the file of its log, and none to another. -/
theorem mirrored_record (hs : s.Keeps loc content n) (hm : Mirrors before rs content)
    (hn : n < Json.naturalLimit) {handle : String} {l : Log} (hl : s.logs.log? handle = some l)
    {now : Moment} {elapsed : UInt64} {test : Path} {engine : String} {failures : Verdict}
    (hdone : ¬ (s.step (.record handle now elapsed test engine failures)).1.FailsAt loc) :
    Mirrored loc before rs (n + 1)
      (s.step (.record handle now elapsed test engine failures)) := by
  have hmem := Logs.mem_logs_of_log? hl
  have hlength :
      (l.records ++ [l.next now.1 elapsed.toNat test engine failures]).length ≤ n + 1 := by
    rw [List.length_append]
    exact Nat.succ_le_succ (hs.short l hmem)
  have hfits : (l.next now.1 elapsed.toNat test engine failures).Fits :=
    ⟨now.2, Nat.lt_of_le_of_lt (hs.short l hmem) hn, elapsed.toNat_lt⟩
  have hs' := hs.mono (Nat.le_succ n)
  rw [step_record hl] at hdone ⊢
  have hrecords := l.records_record s.files now.1 elapsed.toNat test engine failures
  generalize l.record s.files now.1 elapsed.toNat test engine failures = result at hdone hrecords ⊢
  cases hrecords with
  | listed hfile =>
    exact mirrored_of_keeps (hs'.update handle hs.content (sound_of_no_file hfile) hlength) hm
      (by simp [Answer.recordAt?, Log.place?, hfile])
  | @written f text hfile htext hroom =>
    have hsound := (hs.sound l hmem).handed hfile
      (l.records ++ [l.next now.1 elapsed.toNat test engine failures]) []
      (f.device.after (f.due text).length) fun _ => rfl
    by_cases hplace : f.place = loc
    · obtain ⟨hnewline, hread⟩ := Log.ofLine?_of_textOf? hfits htext
      have hcontent := hs.content?_add (hs.sound l hmem) hfile hplace text
      refine ⟨_, hs'.update handle hcontent hsound hlength, ?_⟩
      simpa [Answer.recordAt?, Log.place?, hfile, hplace] using hm.concat hnewline hread
    · have hcontent := hs.content?_add_of_ne hplace (f.due text)
      exact mirrored_of_keeps (hs'.update handle hcontent hsound hlength) hm
        (by simp [Answer.recordAt?, Log.place?, hfile, hplace])
  | @refused f text left fault hfile htext hroom hleft =>
    -- a record that is refused is one of another file
    have hplace : f.place ≠ loc := by
      rintro rfl
      exact hdone ⟨fault, by simp [Log.place?, hfile]⟩
    have hcontent := hs.content?_add_of_ne hplace (f.device.taken (f.due text))
    have hsound := (hs.sound l hmem).handed hfile
      (l.records ++ [l.next now.1 elapsed.toNat test engine failures]) left
      (f.device.after (f.due text).length) fun heq => absurd heq hplace
    exact mirrored_of_keeps (hs'.update handle hcontent hsound hlength) hm rfl
  | notText hfile htext =>
    have hsound : Sound loc (l.withRecord (l.next now.1 elapsed.toNat test engine failures)) :=
      (hs.sound l hmem).of_file rfl
    exact mirrored_of_keeps (hs'.update handle hs.content hsound hlength) hm rfl

/-- **One thing adds the line of its record at most.** -/
theorem mirrored_step (hs : s.Keeps loc content n) (hm : Mirrors before rs content)
    (hn : n < Json.naturalLimit) {u : Use} (hu : u.Spares loc)
    (hdone : ¬ (s.step u).1.FailsAt loc) :
    Mirrored loc before rs (n + 1) (s.step u) := by
  have hs' := hs.mono (Nat.le_succ n)
  cases u with
  | make handle =>
    exact mirrored_of_keeps (hs'.add handle hs.content (sound_of_no_file rfl) rfl) hm rfl
  | attach handle path =>
    simp only [step, Log.openFile]
    cases hopen : s.files.openForWriting path with
    | error fault => exact mirrored_of_keeps hs' hm rfl
    | ok place =>
      -- opening makes a file that is missing, and adds nothing to one that is there
      exact mirrored_of_keeps (hs'.add handle (FileTree.content?_appendAt_nil hs.content _ _)
        (sound_of_opened loc _ _) rfl) hm rfl
  | clone handle other =>
    refine mirrored_of_keeps ⟨hs.content, ?_, ?_⟩ hm rfl
    · simpa using hs'.sound
    · simpa using hs'.short
  | record handle now elapsed test engine failures =>
    cases hl : s.logs.log? handle with
    | none =>
      simp only [step, withLog, hl]
      exact mirrored_of_keeps hs' hm rfl
    | some l => exact mirrored_record hs hm hn hl hdone
  | clear handle =>
    simp only [step, withLog]
    cases hl : s.logs.log? handle with
    | none => exact mirrored_of_keeps hs' hm rfl
    | some l =>
      have hsound := hs.sound l (Logs.mem_logs_of_log? hl)
      exact mirrored_of_keeps
        (hs'.update handle hs.content (hsound.of_file rfl) (by simp [Log.clear])) hm rfl
  | refit handle device =>
    simp only [step, withLog]
    cases hl : s.logs.log? handle with
    | none => exact mirrored_of_keeps hs' hm rfl
    | some l =>
      have hmem := Logs.mem_logs_of_log? hl
      exact mirrored_of_keeps (hs'.update handle hs.content
        ((hs.sound l hmem).withDevice device) (hs'.short l hmem)) hm rfl
  | ask handle query =>
    simp only [step, withLog]
    cases hl : s.logs.log? handle with
    | none => exact mirrored_of_keeps hs' hm rfl
    | some l => cases query <;> exact mirrored_of_keeps hs' hm rfl
  | elsewhere work => exact mirrored_of_keeps (hs'.withFiles (hu s.files)) hm rfl

/-- **A run adds the lines of its records**, by induction on what is done. -/
theorem mirrors_run {uses : List Use} (hs : s.Keeps loc content n)
    (hm : Mirrors before rs content) (hn : n + uses.length ≤ Json.naturalLimit)
    (hu : ∀ u ∈ uses, u.Spares loc) (hdone : ∀ a ∈ (s.run uses).1, ¬ a.FailsAt loc) :
    ∃ content, (s.run uses).2.files.content? loc = some content ∧
      Mirrors before (rs ++ recordsAt loc (s.run uses).1) content := by
  induction uses generalizing s content n rs with
  | nil => exact ⟨content, hs.content, by simpa [run, recordsAt] using hm⟩
  | cons u uses ih =>
    rw [List.length_cons] at hn
    have hanswers : (s.run (u :: uses)).1 = (s.step u).1 :: ((s.step u).2.run uses).1 := rfl
    rw [hanswers] at hdone ⊢
    obtain ⟨content', hs', hm'⟩ :=
      mirrored_step hs hm (by omega) (hu u (by simp)) (hdone _ List.mem_cons_self)
    obtain ⟨last, hlast, hmirrors⟩ := ih hs' hm' (by omega) (fun v hv => hu v (by simp [hv]))
      fun a ha => hdone a (List.mem_cons_of_mem _ ha)
    refine ⟨last, hlast, ?_⟩
    rw [List.append_assoc] at hmirrors
    have hrecords : recordsAt loc ((s.step u).1 :: ((s.step u).2.run uses).1) =
        ((s.step u).1.recordAt? loc).toList ++ recordsAt loc ((s.step u).2.run uses).1 := by
      simp only [recordsAt, List.filterMap_cons]
      cases (s.step u).1.recordAt? loc <;> rfl
    rw [hrecords]
    exact hmirrors

/-! ### Faults -/

/-- What the device of a log refuses, it refuses with one of some faults. -/
def RefusesWith (faults : Fault → Prop) (s : State) : Prop :=
  ∀ l ∈ s.logs.logs, ∀ f, l.file = some f → ∀ room fault, f.device = .limited room fault →
    faults fault

variable {faults : Fault → Prop}

theorem RefusesWith.add (h : s.RefusesWith faults) (handle : String) {l : Log} {files : FileTree}
    (hl : ∀ f, l.file = some f → f.device = .endless) :
    RefusesWith faults ⟨s.logs.add handle l, files⟩ := by
  intro k hk f hf room fault hdevice
  rcases (by simpa [Logs.add] using hk : k ∈ s.logs.logs ∨ k = l) with hk | rfl
  · exact h k hk f hf room fault hdevice
  · rw [hl f hf] at hdevice
    cases hdevice

theorem RefusesWith.update (h : s.RefusesWith faults) (handle : String) {l : Log} {files : FileTree}
    (hl : ∀ f, l.file = some f → ∀ room fault, f.device = .limited room fault → faults fault) :
    RefusesWith faults ⟨s.logs.update handle l, files⟩ := by
  intro k hk
  rcases Logs.mem_logs_update hk with rfl | hk
  · exact hl
  · exact h k hk

/-- A record of a text path fails with a fault of its device. -/
theorem refuses_record (h : s.RefusesWith faults) {handle : String} {l : Log}
    (hl : s.logs.log? handle = some l) (now : Moment) (elapsed : UInt64) {test : Path}
    (htest : Utf8.decode? test.bytes ≠ none) (engine : String) (failures : Verdict) :
    (s.step (.record handle now elapsed test engine failures)).2.RefusesWith faults ∧
      ∀ fault, (s.step (.record handle now elapsed test engine failures)).1.fault? = some fault →
        faults fault := by
  have hmem := Logs.mem_logs_of_log? hl
  rw [step_record hl]
  have hrecords := l.records_record s.files now.1 elapsed.toNat test engine failures
  generalize l.record s.files now.1 elapsed.toNat test engine failures = result at hrecords ⊢
  have hafter : ∀ (f : LogFile) (n : Nat), l.file = some f → ∀ room fault,
      f.device.after n = .limited room fault → faults fault := by
    intro f n hfile room fault hdevice
    obtain ⟨before, hbefore⟩ := Device.limited_of_after hdevice
    exact h l hmem f hfile before fault hbefore
  cases hrecords with
  | listed hfile => exact ⟨h.update handle (h l hmem), by simp [Answer.fault?]⟩
  | @written f text hfile htext hroom =>
    refine ⟨h.update handle ?_, by simp [Answer.fault?]⟩
    rintro g ⟨⟩
    exact hafter f _ hfile
  | @refused f text left fault hfile htext hroom hleft =>
    refine ⟨h.update handle ?_, ?_⟩
    · rintro g ⟨⟩
      exact hafter f _ hfile
    · rintro fault' ⟨⟩
      obtain ⟨room, hdevice, -⟩ := Device.refusal?_eq_some.mp hroom
      exact h l hmem f hfile room fault hdevice
  | notText hfile htext => exact absurd (Log.textOf?_eq_none.mp htext) htest

/-- **A fault is one of a device**, and a device comes from outside. -/
theorem refuses_step (h : s.RefusesWith faults) {u : Use} (ht : u.NamesText)
    (hu : ∀ handle room fault, u = .refit handle (.limited room fault) → faults fault) :
    (s.step u).2.RefusesWith faults ∧ ∀ fault, (s.step u).1.fault? = some fault → faults fault := by
  cases u with
  | make handle => exact ⟨h.add handle (by simp [Log.new]), by simp [step, Answer.fault?]⟩
  | attach handle path =>
    simp only [step, Log.openFile]
    cases hopen : s.files.openForWriting path with
    | error fault => exact ⟨h, by simp [Answer.fault?]⟩
    | ok place =>
      refine ⟨h.add handle ?_, by simp [Answer.fault?]⟩
      rintro f ⟨⟩
      rfl
  | clone handle other =>
    refine ⟨?_, by simp [step, Answer.fault?]⟩
    intro l hl
    exact h l (by simpa [step] using hl)
  | record handle now elapsed test engine failures =>
    cases hl : s.logs.log? handle with
    | none =>
      simp only [step, withLog, hl]
      exact ⟨h, by simp [Answer.fault?]⟩
    | some l => exact refuses_record h hl now elapsed ht engine failures
  | clear handle =>
    simp only [step, withLog]
    cases hl : s.logs.log? handle with
    | none => exact ⟨h, by simp [Answer.fault?]⟩
    | some l =>
      exact ⟨h.update handle (h l (Logs.mem_logs_of_log? hl)), by simp [Answer.fault?]⟩
  | refit handle device =>
    simp only [step, withLog]
    cases hl : s.logs.log? handle with
    | none => exact ⟨h, by simp [Answer.fault?]⟩
    | some l =>
      refine ⟨h.update handle ?_, by simp [Answer.fault?]⟩
      intro f hf room fault hdevice
      obtain ⟨g, -, rfl⟩ := Option.map_eq_some_iff.mp hf
      exact hu handle room fault (by rw [← hdevice])
  | ask handle query =>
    simp only [step, withLog]
    cases hl : s.logs.log? handle with
    | none => exact ⟨h, by simp [Answer.fault?]⟩
    | some l => cases query <;> exact ⟨h, by simp [Query.answer, Answer.fault?]⟩
  | elsewhere work => exact ⟨h, by simp [step, Answer.fault?]⟩

/-- **In a run every fault is one of a device** that a log was given, by induction on what is
done. -/
theorem refuses_run {uses : List Use} (h : s.RefusesWith faults) (ht : ∀ u ∈ uses, u.NamesText)
    (hu : ∀ handle room fault, Use.refit handle (.limited room fault) ∈ uses → faults fault) :
    ∀ a ∈ (s.run uses).1, ∀ fault, a.fault? = some fault → faults fault := by
  induction uses generalizing s with
  | nil => simp [run]
  | cons u uses ih =>
    obtain ⟨hs', hfirst⟩ := refuses_step h (ht u (by simp))
      fun handle room fault he => hu handle room fault (he ▸ List.mem_cons_self)
    intro a ha
    rcases List.mem_cons.mp ha with rfl | ha
    · exact hfirst
    · exact ih hs' (fun v hv => ht v (by simp [hv]))
        (fun handle room fault hv => hu handle room fault (List.mem_cons_of_mem _ hv)) a ha

end State

/-- What a session leaves in the file at a location that held `before`: a line for each record that
was made through a log of the file.  Cut at the ends of lines, they stand for the records. -/
structure MirrorsRecords (loc : Location) (before : Bytes) (uses : List Use)
    (result : List Answer × State) : Prop where
  lines : (∀ a ∈ result.1, ¬ a.FailsAt loc) → ∃ lines : List Bytes,
    result.2.files.content? loc = some (before ++ lines.flatMap (· ++ [Log.newline])) ∧
      (lines.flatMap (· ++ [Log.newline])).splitOn Log.newline = lines ++ [[]] ∧
      lines.map Record.ofLine? = (recordsAt loc result.1).map some
  /-- A record fails only when a device that a log was given has refused its line. -/
  refused : ∀ a ∈ result.1, ∀ fault, a.fault? = some fault →
    ∃ handle room, Use.refit handle (.limited room fault) ∈ uses

/-- **The file of a log mirrors its records**, in the order in which they were made through any
handle of any log of the file, whatever else is done. -/
theorem mirrorsRecords_run {files opened : FileTree} {path : Path} {l : Log}
    (h : Log.openFile files path = .ok (l, opened)) (handle : String) {uses : List Use}
    (hshort : uses.length ≤ Json.naturalLimit)
    (hspared : ∀ u ∈ uses, u.Spares (files.place path)) (htext : ∀ u ∈ uses, u.NamesText) :
    MirrorsRecords (files.place path) (files.dataAt (files.place path)) uses
      ((State.mk (Logs.none.add handle l) opened).run uses) := by
  unfold Log.openFile at h
  cases hopen : files.openForWriting path with
  | error fault => simp [hopen] at h
  | ok place =>
    obtain ⟨above, name⟩ := place
    simp only [hopen, Except.ok.injEq, Prod.mk.injEq] at h
    obtain ⟨rfl, rfl⟩ := h
    have hlog : ∀ k ∈ (Logs.none.add handle ⟨[], some (.opened above name)⟩).logs,
        k = ⟨[], some (.opened above name)⟩ := by simp [Logs.add, Logs.none]
    constructor
    · intro hdone
      have hs : State.Keeps (files.place path) (files.dataAt (files.place path)) 0
          ⟨Logs.none.add handle ⟨[], some (.opened above name)⟩, files.appendAt above name []⟩ := by
        refine ⟨FileTree.content?_of_opened hopen, fun k hk => ?_, fun k hk => ?_⟩
        · rw [hlog k hk]
          exact State.sound_of_opened _ above name
        · rw [hlog k hk]
          exact Nat.le_refl 0
      obtain ⟨content, hcontent, lines, rfl, hlines, hread⟩ :=
        State.mirrors_run hs (Log.mirrors_nil _) (by simpa using hshort) hspared hdone
      exact ⟨lines, hcontent, Log.splitOn_lines hlines, hread⟩
    · -- the file of the log is on an endless device to begin with
      have hnone : State.RefusesWith
          (fun fault => ∃ handle room, Use.refit handle (.limited room fault) ∈ uses)
          ⟨Logs.none.add handle ⟨[], some (.opened above name)⟩, files.appendAt above name []⟩ := by
        intro k hk f hf room fault hdevice
        rw [hlog k hk] at hf
        obtain rfl := Option.some.inj hf
        cases hdevice
      exact State.refuses_run hnone htext fun handle room fault hu => ⟨handle, room, hu⟩

/-- A record through a clone, a clear, and a record after the file `l` was opened again. -/
def someUses : List Use :=
  [.clone "a" "b", .record "b" someMoment 6 ⟨[116]⟩ "a\nb" [], .clear "a", .attach "c" ⟨[108]⟩,
    .record "c" someMoment 7 ⟨[117]⟩ "text" []]

/-- A tree whose file `l` holds a line. -/
def heldLine : FileTree := FileTree.empty.setFile [] [108] [120, 10] false

/-- The log and the tree once that file is opened. -/
def openedLine : State :=
  ⟨Logs.none.add "a" ⟨[], some (.opened [] [108])⟩, heldLine.appendAt [] [108] []⟩

/-- Two records through two handles, behind the line that was there. -/
theorem mirrorsRecords_first_run :
    MirrorsRecords [[108]] [120, 10] someUses (openedLine.run someUses) ∧
      (∀ a ∈ (openedLine.run someUses).1, ¬ a.FailsAt [[108]]) ∧
      (recordsAt [[108]] (openedLine.run someUses).1).length = 2 := by
  have hopen : Log.openFile heldLine ⟨[108]⟩ =
      .ok (⟨[], some (.opened [] [108])⟩, heldLine.appendAt [] [108] []) := rfl
  have hmirrors : MirrorsRecords [[108]] [120, 10] someUses (openedLine.run someUses) := by
    refine mirrorsRecords_run hopen "a" (by decide) ?_ ?_
    · intro u hu
      simp only [someUses, List.mem_cons, List.not_mem_nil, or_false] at hu
      rcases hu with rfl | rfl | rfl | rfl | rfl <;> trivial
    · intro u hu
      simp only [someUses, List.mem_cons, List.not_mem_nil, or_false] at hu
      rcases hu with rfl | rfl | rfl | rfl | rfl <;>
        first | trivial | (show _ ≠ none; decide)
  refine ⟨hmirrors, ?_, by decide +kernel⟩
  rintro a ha ⟨fault, rfl⟩
  obtain ⟨handle, room, hrefit⟩ := hmirrors.refused _ ha fault rfl
  simp [someUses] at hrefit

end Baseline.LogSession
