import Baseline.Proofs.Device
import Baseline.Proofs.Log.Line
import Baseline.Proofs.FileTree.Append

/-!
# Logs in use

A session is any list of things done with logs through their handles, and with the
files beside them: `State.step` does one of them and says what came of it,
`State.run` does them in order.

Recording fails for two reasons only, both of them about the file of the log: the path of
the test is no text, and nothing is written, or the device has no room for all that there is
to write, and a part of it is written (`Log.records_record`).
-/

namespace Baseline

namespace LogFile

variable (f : LogFile)

/-- The location of the file of a log. -/
def place : Location := f.name :: f.above

/-- What there is to write when a text is to be a line: what is left over of earlier lines, and the
line. -/
def due (text : Bytes) : Bytes := f.waiting ++ (text ++ [Log.newline])

/-- **A line that there is room for** is in the file, with what was left over before it. -/
theorem writeLine_of_fits (files : FileTree) {text : Bytes}
    (h : f.device.refusal? (f.due text).length = none) :
    f.writeLine files text = (.ok (),
      { f with waiting := [], device := f.device.after (f.due text).length },
      f.add files (f.due text)) := by
  have hput := Outlet.putAll_of_fits ⟨[], f.waiting, f.device⟩ [text, [Log.newline]]
    (by simpa [due] using h)
  unfold writeLine deliver
  rw [hput]
  simp [due]

/-- **A line that there is no room for** is in the file as far as there is. -/
theorem writeLine_of_refused (files : FileTree) {text : Bytes} {fault : Fault}
    (h : f.device.refusal? (f.due text).length = some fault) :
    ∃ left, f.device.taken (f.due text) ++ left <+: f.due text ∧
      f.writeLine files text = (.error fault,
        { f with waiting := left, device := f.device.after (f.due text).length },
        f.add files (f.device.taken (f.due text))) := by
  obtain ⟨left, hput, hleft⟩ := Outlet.putAll_of_refused ⟨[], f.waiting, f.device⟩
    [text, [Log.newline]] (by simpa [due] using h)
  refine ⟨left, by simpa [due] using hleft, ?_⟩
  unfold writeLine deliver
  rw [hput]
  simp [due]

theorem node?_add_of_ne (files : FileTree) (data : Bytes) {l : Location} (h : l ≠ f.place) :
    (f.add files data).node? l = files.node? l := by
  unfold add
  split
  · exact files.node?_appendAt_of_ne data h
  · rfl

end LogFile

namespace Log

/-- The location of the file that a log appends to. -/
def place? (l : Log) : Option Location := l.file.map LogFile.place

/-- The log after one more record. -/
def withRecord (l : Log) (r : Record) : Log := { l with records := l.records ++ [r] }

/-- What recording comes to: the answer, the log and the files.  The record is in the list in any
case. -/
inductive Records (l : Log) (files : FileTree) (r : Record) :
    Except Fault Record × Log × FileTree → Prop
  /-- There is no file. -/
  | listed (hfile : l.file = none) : Records l files r (.ok r, l.withRecord r, files)
  | written {f : LogFile} {text : Bytes} (hfile : l.file = some f) (htext : textOf? r = some text)
    (hfits : f.device.refusal? (f.due text).length = none) :
    Records l files r (.ok r,
      ⟨l.records ++ [r],
        some { f with waiting := [], device := f.device.after (f.due text).length }⟩,
      f.add files (f.due text))
  /-- There is no room for the line. -/
  | refused {f : LogFile} {text left : Bytes} {fault : Fault} (hfile : l.file = some f)
    (htext : textOf? r = some text) (hrefused : f.device.refusal? (f.due text).length = some fault)
    (hleft : f.device.taken (f.due text) ++ left <+: f.due text) :
    Records l files r (.error fault,
      ⟨l.records ++ [r],
        some { f with waiting := left, device := f.device.after (f.due text).length }⟩,
      f.add files (f.device.taken (f.due text)))
  /-- The path of the test is no text. -/
  | notText (hfile : l.file ≠ none) (htext : textOf? r = none) :
    Records l files r (.error .pathNotText, l.withRecord r, files)

/-- **What recording does.** -/
theorem records_record (l : Log) (files : FileTree) (now : Timestamp) (elapsed : Nat) (test : Path)
    (engine : String) (failures : Verdict) :
    l.Records files (l.next now elapsed test engine failures)
      (l.record files now elapsed test engine failures) := by
  unfold record
  cases hfile : l.file with
  | none =>
    have hlisted : l.Records files (l.next now elapsed test engine failures) _ := .listed hfile
    rwa [withRecord, hfile] at hlisted
  | some f =>
    dsimp only
    cases htext : textOf? (l.next now elapsed test engine failures) with
    | none =>
      have hnot : l.Records files _ _ := .notText (by simp [hfile]) htext
      rwa [withRecord, hfile] at hnot
    | some text =>
      cases hfits : f.device.refusal? (f.due text).length with
      | none =>
        simp only [f.writeLine_of_fits files hfits]
        exact .written hfile htext hfits
      | some fault =>
        obtain ⟨left, hleft, hwrite⟩ := f.writeLine_of_refused files hfits
        simp only [hwrite]
        exact .refused hfile htext hfits hleft

end Log

namespace Logs

/-! ### Handles -/

variable {s : Logs} {handle other : String} {l : Log}

/-- The handles of one log. -/
def SameLog (s : Logs) (handle other : String) : Prop :=
  s.handles.lookup other = s.handles.lookup handle

instance (s : Logs) (handle other : String) : Decidable (s.SameLog handle other) :=
  inferInstanceAs (Decidable (_ = _))

theorem exists_place_of_log? (h : s.log? handle = some l) :
    ∃ i, s.handles.lookup handle = some i ∧ s.logs[i]? = some l := by
  simpa only [log?, Option.bind_eq_some_iff] using h

@[simp] theorem handles_update (s : Logs) (handle : String) (l : Log) :
    (s.update handle l).handles = s.handles := by
  unfold update
  split <;> rfl

/-- **A log that is replaced** is replaced for all its handles, and for no other. -/
theorem log?_update (h : s.log? handle = some l) (l' : Log) (other : String) :
    (s.update handle l').log? other = if s.SameLog handle other then some l' else s.log? other := by
  obtain ⟨i, hplace, hlog⟩ := exists_place_of_log? h
  have hbound : i < s.logs.length := (List.getElem?_eq_some_iff.mp hlog).1
  have hlogs : (s.update handle l').logs = s.logs.set i l' := by simp only [update, hplace]
  rw [log?, handles_update, hlogs]
  by_cases hsame : s.SameLog handle other
  · have hother : s.handles.lookup other = some i := hsame.trans hplace
    rw [if_pos hsame, hother, Option.bind_some, List.getElem?_set_self hbound]
  · rw [if_neg hsame, log?]
    cases hother : s.handles.lookup other with
    | none => rfl
    | some j =>
      have hne : i ≠ j := by
        rintro rfl
        exact hsame (hother.trans hplace.symm)
      rw [Option.bind_some, Option.bind_some, List.getElem?_set_ne hne]

theorem mem_logs_update {l' : Log} (h : l ∈ (s.update handle l').logs) :
    l = l' ∨ l ∈ s.logs := by
  unfold update at h
  split at h
  · exact (List.mem_or_eq_of_mem_set h).symm
  · exact Or.inr h

theorem mem_logs_of_log? (h : s.log? handle = some l) : l ∈ s.logs := by
  obtain ⟨i, -, hlog⟩ := exists_place_of_log? h
  exact List.mem_of_getElem? hlog

@[simp] theorem logs_clone (s : Logs) (handle other : String) :
    (s.clone handle other).logs = s.logs := by
  unfold clone
  split <;> rfl

end Logs

namespace LogSession

/-- A moment of the calendar, as the clock shows it. -/
abbrev Moment := { t : Timestamp // t.Valid }

/-- The second of January 2026, five seconds past 3:04. -/
def someMoment : Moment := ⟨⟨2026, 1, 2, 3, 4, 5, 0⟩, by decide⟩

/-- A question about a log. -/
inductive Query
  | results
  | failures
  | last (n : Nat)
  | length

/-- One thing that is done. -/
inductive Use
  /-- Make a log without a file. -/
  | make (handle : String)
  /-- Make a log that appends to a file. -/
  | attach (handle : String) (path : Path)
  /-- Give a log another handle. -/
  | clone (handle other : String)
  /-- Record a verdict, some milliseconds after the log was made. -/
  | record (handle : String) (now : Moment) (elapsed : UInt64) (test : Path) (engine : String)
    (failures : Verdict)
  | clear (handle : String)
  /-- Another device takes what is written to the file of a log, or the device has other room. -/
  | refit (handle : String) (device : Device)
  | ask (handle : String) (query : Query)
  /-- Something else that happens to the files. -/
  | elsewhere (work : FileTree → FileTree)

/-- What comes of it. -/
inductive Answer
  | done
  /-- No log has the handle. -/
  | unknown
  | unopened (fault : Fault)
  /-- What recording gave, and the location of the log's file. -/
  | recorded (place : Option Location) (outcome : Except Fault Record)
  | records (rs : List Record)
  | length (n : Nat)

/-- The fault of a record that was not written. -/
def Answer.fault? : Answer → Option Fault
  | .recorded _ (.error fault) => some fault
  | _ => none

/-- The logs, and the files beside them. -/
structure State where
  logs : Logs
  files : FileTree

/-- What a log answers. -/
def Query.answer (l : Log) : Query → Answer
  | .results => .records l.records
  | .failures => .records l.failures
  | .last n => .records (l.last n)
  | .length => .length l.records.length

namespace State

/-- The state before the first log is made. -/
def start (files : FileTree) : State := ⟨.none, files⟩

/-- Do something with the log of a handle. -/
def withLog (s : State) (handle : String) (f : Log → Answer × State) : Answer × State :=
  match s.logs.log? handle with
  | some l => f l
  | none => (.unknown, s)

/-- Do one thing. -/
def step (s : State) : Use → Answer × State
  | .make handle => (.done, { s with logs := s.logs.add handle .new })
  | .attach handle path =>
    match Log.openFile s.files path with
    | .ok (l, files) => (.done, ⟨s.logs.add handle l, files⟩)
    | .error fault => (.unopened fault, s)
  | .clone handle other => (.done, { s with logs := s.logs.clone handle other })
  | .record handle now elapsed test engine failures =>
    s.withLog handle fun l =>
      let (outcome, l', files) := l.record s.files now.1 elapsed.toNat test engine failures
      (.recorded l.place? outcome, ⟨s.logs.update handle l', files⟩)
  | .clear handle =>
    s.withLog handle fun l => (.done, { s with logs := s.logs.update handle l.clear })
  | .refit handle device =>
    s.withLog handle fun l => (.done, { s with logs := s.logs.update handle (l.withDevice device) })
  | .ask handle query => s.withLog handle fun l => (query.answer l, s)
  | .elsewhere work => (.done, { s with files := work s.files })

/-- Do one thing after the other: what came of each, and the state in the end. -/
def run : State → List Use → List Answer × State
  | s, [] => ([], s)
  | s, u :: us =>
    let (a, s) := s.step u
    let (as, s) := run s us
    (a :: as, s)

theorem step_record {s : State} {handle : String} {l : Log} (h : s.logs.log? handle = some l)
    (now : Moment) (elapsed : UInt64) (test : Path) (engine : String) (failures : Verdict) :
    s.step (.record handle now elapsed test engine failures) =
      let result := l.record s.files now.1 elapsed.toNat test engine failures
      (.recorded l.place? result.1, ⟨s.logs.update handle result.2.1, result.2.2⟩) := by
  simp only [step, withLog, h]

theorem exists_of_fault? {s : State} {u : Use} {fault : Fault}
    (h : (s.step u).1.fault? = some fault) :
    ∃ place, s.step u = (.recorded place (.error fault), (s.step u).2) := by
  generalize s.step u = result at h
  obtain ⟨answer, s'⟩ := result
  unfold Answer.fault? at h
  split at h
  · rename_i place fault' hanswer
    obtain rfl := Option.some.inj h
    exact ⟨place, by rw [← hanswer]⟩
  · cases h

end State

end LogSession

end Baseline
