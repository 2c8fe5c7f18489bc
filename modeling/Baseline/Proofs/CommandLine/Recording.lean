import Baseline.CommandLine
import Baseline.Proofs.Log.Session

/-!
# Recording on a command line

A command line opens its log, records one verdict and gives the log up again.  The log takes
the record when it opens, the path of the test is text and the device has room for the line
(`Takes`).  Then the file of the log gains this line (`Work.record_of_takes`); else it gains a
part of the line at most, without its end (`Work.record_of_not_takes`).

Giving up a log hands over what waits.  After a line that was written nothing waits, and after
one that was refused there is no room, so that this makes no difference (`Log.gains_close`).
-/

namespace Baseline

/-- What is in a tree is the same but for the file at a location. -/
structure FileTree.DiffersAt (loc : Location) (t t' : FileTree) : Prop where
  start : t'.start = t.start
  node : ∀ l ≠ loc, t'.node? l = t.node? l

/-- Nothing changes but the file at a location, which gains bytes behind those that it held. -/
structure FileTree.Gains (loc : Location) (data : Bytes) (t t' : FileTree) : Prop
    extends FileTree.DiffersAt loc t t' where
  content : t'.content? loc = some (t.dataAt loc ++ data)

namespace FileTree.Gains

variable {loc : Location} {data more : Bytes} {t t' t'' : FileTree}

theorem trans (h : Gains loc data t t') (h' : Gains loc more t' t'') :
    Gains loc (data ++ more) t t'' := by
  refine ⟨⟨h'.start.trans h.start, fun l hl => (h'.node l hl).trans (h.node l hl)⟩, ?_⟩
  rw [h'.content, dataAt_eq, h.content, Option.getD_some, List.append_assoc]

/-- A file that is opened is made when it is missing. -/
theorem of_opened {p : Path} {above : Location} {name : Name}
    (h : t.openForWriting p = .ok (above, name)) :
    Gains (t.place p) [] t (t.appendAt above name []) := by
  refine ⟨⟨by simp, fun l hl => t.node?_appendAt_of_ne [] (place_of_opened h ▸ hl)⟩, ?_⟩
  rw [content?_of_opened h, List.append_nil]

/-- A file that is there grows. -/
theorem of_add {f : LogFile} (hplace : f.place = loc) (hattached : f.attached = true)
    {before : Bytes} (h : t.content? loc = some before) (data : Bytes) :
    Gains loc data t (f.add t data) := by
  subst hplace
  rw [LogFile.add, if_pos hattached]
  refine ⟨⟨by simp, fun l hl => t.node?_appendAt_of_ne data hl⟩, ?_⟩
  rw [dataAt_eq, h, Option.getD_some]
  exact content?_appendAt_of_file h data

end FileTree.Gains

namespace Log

open FileTree

theorem close_of_file (records : List Record) (f : LogFile) (files : FileTree) :
    close ⟨records, some f⟩ files = f.add files (f.device.taken f.waiting) := by
  unfold close LogFile.deliver Outlet.flush Outlet.hand
  cases hrefusal : f.device.refusal? f.waiting.length <;> simp [hrefusal]

/-- **Giving up a log** adds nothing when the device takes nothing of what waits. -/
theorem gains_close {records : List Record} {f : LogFile} {loc : Location} (hplace : f.place = loc)
    (hattached : f.attached = true) {left : Bytes} {device : Device}
    (hnothing : device.taken left = []) {t t' : FileTree} {data : Bytes}
    (hgains : Gains loc data t t') :
    Gains loc data t (close ⟨records, some { f with waiting := left, device }⟩ t') := by
  rw [close_of_file, hnothing, ← List.append_nil data]
  exact hgains.trans (.of_add hplace hattached hgains.content [])

end Log

namespace CommandLine

open FileTree

/-- The record of a verdict that a command line makes. -/
def recordOf (now : Timestamp) (test : Path) (engine : Engine) (v : Verdict) : Record :=
  ⟨0, now, 0, test, engine.name, v⟩

theorem fits_recordOf (now : LogSession.Moment) (test : Path) (engine : Engine) (v : Verdict) :
    (recordOf now.1 test engine v).Fits :=
  have hzero : 0 < Json.naturalLimit := by decide
  ⟨now.2, hzero, hzero⟩

/-- Whether a log on a device takes a record: it opens, the record is text, and there is room for
its line. -/
def Takes (files : FileTree) (device : Device) (record : Record) (log : Path) : Prop :=
  (∃ place, files.openForWriting log = .ok place) ∧
    ∃ text, Log.textOf? record = some text ∧
      device.refusal? (text ++ [Log.newline]).length = none

/-- The file at a location holds what it held, or more behind that but no end of a line. -/
def Unwritten (loc : Location) (t t' : FileTree) : Prop :=
  t'.content? loc = t.content? loc ∨
    ∃ part, Log.newline ∉ part ∧ t'.content? loc = some (t.dataAt loc ++ part)

/-- The file at a location holds one more line than before, the record of a verdict. -/
def Written (loc : Location) (now : Timestamp) (test : Path) (engine : Engine) (v : Verdict)
    (t t' : FileTree) : Prop :=
  ∃ line record, t'.content? loc = some (t.dataAt loc ++ (line ++ [Log.newline])) ∧
    Log.newline ∉ line ∧ Record.ofLine? line = some record ∧ record.timestamp = now ∧
    record.test = test ∧ record.engine = engine.name ∧ record.failures = v

theorem Unwritten.congr {loc : Location} {s t t' : FileTree} (h : Unwritten loc s t')
    (hs : s.content? loc = t.content? loc) : Unwritten loc t t' := by
  rwa [Unwritten, dataAt_eq, ← hs, ← dataAt_eq]

theorem Written.congr {loc : Location} {now : Timestamp} {test : Path} {engine : Engine}
    {v : Verdict} {s t t' : FileTree} (h : Written loc now test engine v s t')
    (hs : s.content? loc = t.content? loc) : Written loc now test engine v t t' := by
  rwa [Written, dataAt_eq, ← hs, ← dataAt_eq]

/-- What a device takes of a line that it has no room for does not end it. -/
theorem newline_notMem_taken {device : Device} {text : Bytes} {fault : Fault}
    (htext : Log.newline ∉ text)
    (h : device.refusal? (text ++ [Log.newline]).length = some fault) :
    Log.newline ∉ device.taken (text ++ [Log.newline]) := by
  obtain ⟨room, rfl, hroom⟩ := Device.refusal?_eq_some.mp h
  have hshort : room ≤ text.length := by
    rw [List.length_append, List.length_singleton] at hroom
    omega
  show Log.newline ∉ (text ++ [Log.newline]).take room
  rw [List.take_append_of_le_length hshort]
  exact fun hmem => htext (List.mem_of_mem_take hmem)

namespace Work

variable {log test : Path} {r : Run} {engine : Engine} {v : Verdict}

/-- What recording comes to once the log is opened: its line, or a part of that at most. -/
inductive Recorded (log : Path) (record : Record) (r : Run) :
    EStateM.Result Trouble Run Unit → Prop
  | line {text : Bytes} {files : FileTree} (htext : Log.textOf? record = some text)
    (hfits : r.environment.logDevice.refusal? (text ++ [Log.newline]).length = none)
    (hgains : Gains (r.files.place log) (text ++ [Log.newline]) r.files files) :
    Recorded log record r (.ok () { r with files := files })
  | part {part : Bytes} {files : FileTree} {fault : Fault}
    (hnot : ∀ text, Log.textOf? record = some text →
      r.environment.logDevice.refusal? (text ++ [Log.newline]).length ≠ none)
    (hpart : Log.newline ∉ part) (hgains : Gains (r.files.place log) part r.files files) :
    Recorded log record r (.error (.logUnwritten log fault) { r with files := files })

/-- **What recording in an opened log does.** -/
theorem recorded_of_opened {above : Location} {name : Name}
    (hopen : r.files.openForWriting log = .ok (above, name)) (now : LogSession.Moment)
    (test : Path) (engine : Engine) (v : Verdict) :
    Recorded log (recordOf now.1 test engine v) r (record log now.1 test engine v r) := by
  -- the log as it is opened, in the tree where its file is there
  let f : LogFile := ⟨above, name, true, [], r.environment.logDevice⟩
  let files := r.files.appendAt above name []
  have hplace : f.place = r.files.place log := (place_of_opened hopen).symm
  have hopened : Gains (r.files.place log) [] r.files files := .of_opened hopen
  have hadded : ∀ data, Gains (r.files.place log) data r.files (f.add files data) :=
    fun data => hopened.trans (.of_add hplace rfl hopened.content data)
  have hrecords := Log.records_record
    ((⟨[], some (.opened above name)⟩ : Log).withDevice r.environment.logDevice) files now.1 0 test
    engine.name v
  unfold record
  simp only [Log.openFile, hopen]
  generalize Log.record _ files now.1 0 test engine.name v = result at hrecords ⊢
  cases hrecords with
  | listed hfile => cases hfile
  | @written f' text hfile htext hroom =>
    obtain rfl : f = f' := Option.some.inj hfile
    refine .line htext hroom ?_
    exact Log.gains_close hplace rfl (Device.taken_nil _) (hadded (text ++ [Log.newline]))
  | @refused f' text left fault hfile htext hrefused hleft =>
    obtain rfl : f = f' := Option.some.inj hfile
    have hone := (Log.ofLine?_of_textOf? (fits_recordOf now test engine v) htext).1
    refine .part (fun text' htext' hfit => ?_) (newline_notMem_taken hone hrefused) ?_
    · obtain rfl : text = text' := Option.some.inj (htext.symm.trans htext')
      exact Option.some_ne_none fault (hrefused.symm.trans hfit)
    · exact Log.gains_close hplace rfl (Device.taken_after_of_refused hrefused left) (hadded _)
  | notText hfile htext =>
    refine .part (fun text htext' => absurd (htext.symm.trans htext') (by simp)) List.not_mem_nil ?_
    exact Log.gains_close hplace rfl (Device.taken_nil _) hopened

/-- **A record that a log takes** is one more line of its file, and nothing else changes. -/
theorem record_of_takes {now : LogSession.Moment}
    (h : Takes r.files r.environment.logDevice (recordOf now.1 test engine v) log) :
    ∃ files, record log now.1 test engine v r = .ok () { r with files := files } ∧
      DiffersAt (r.files.place log) r.files files ∧
      Written (r.files.place log) now.1 test engine v r.files files := by
  obtain ⟨⟨⟨above, name⟩, hopen⟩, text, htext, hroom⟩ := h
  have hrecorded := recorded_of_opened hopen now test engine v
  generalize record log now.1 test engine v r = result at hrecorded ⊢
  cases hrecorded with
  | part hnot => exact absurd hroom (hnot text htext)
  | @line text files htext hfits hgains =>
    obtain ⟨hone, hread⟩ := Log.ofLine?_of_textOf? (fits_recordOf now test engine v) htext
    exact ⟨files, rfl, hgains.toDiffersAt, text, _, hgains.content, hone, hread, rfl, rfl, rfl, rfl⟩

/-- **A record that a log does not take** leaves no line. -/
theorem record_of_not_takes {now : LogSession.Moment}
    (h : ¬ Takes r.files r.environment.logDevice (recordOf now.1 test engine v) log) :
    ∃ t files, record log now.1 test engine v r = .error t { r with files := files } ∧
      DiffersAt (r.files.place log) r.files files ∧
      Unwritten (r.files.place log) r.files files := by
  cases hopen : r.files.openForWriting log with
  | error fault =>
    refine ⟨.logUnopened log fault, r.files, ?_, ⟨rfl, fun _ _ => rfl⟩, Or.inl rfl⟩
    unfold record
    simp only [Log.openFile, hopen]
  | ok place =>
    obtain ⟨above, name⟩ := place
    have hrecorded := recorded_of_opened hopen now test engine v
    generalize record log now.1 test engine v r = result at hrecorded ⊢
    cases hrecorded with
    | line htext hfits => exact absurd ⟨⟨_, hopen⟩, _, htext, hfits⟩ h
    | part hnot hpart hgains =>
      exact ⟨_, _, rfl, hgains.toDiffersAt, Or.inr ⟨_, hpart, hgains.content⟩⟩

end Work

end CommandLine

end Baseline
