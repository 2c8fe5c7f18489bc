import Baseline.Proofs.Log.Session

/-!
# Records that cannot be written

Recording fails for two reasons, both about the file of the log: the path of the test is no text,
or the device has no room for the line (`State.Why`).  In the first case no file changes; in the
second the file gains what there is room for, which is not the whole line.

In both the record is in the list all the same: every handle of the log shows it, and the record
that comes next counts it (`State.left_of_failed_record`).  So recording is not all or
nothing (`State.not_atomic`).
-/

namespace Baseline.LogSession.State

/-- What a record that was not written leaves behind in the log of its handle, which was `l` and is
`l'` then. -/
structure Left (s s' : State) (handle : String) (l l' : Log) (r : Record) : Prop where
  /-- The record is in the list, behind those that were there. -/
  listed : l'.records = l.records ++ [r]
  /-- All handles of the log show it. -/
  shown : ∀ other, s.logs.SameLog handle other → s'.logs.log? other = some l'
  /-- The other logs are as they were. -/
  others : ∀ other, ¬ s.logs.SameLog handle other → s'.logs.log? other = s.logs.log? other
  /-- What is recorded next through any of the handles comes after it. -/
  next : ∀ other, s.logs.SameLog handle other →
    ∀ now elapsed test engine failures place later s'',
      s'.step (.record other now elapsed test engine failures) =
          (.recorded place (.ok later), s'') →
        later.seq = r.seq + 1
  /-- No file has changed but that of the log. -/
  elsewhere : s'.files.start = s.files.start ∧
    ∀ loc, l.place? ≠ some loc → s'.files.node? loc = s.files.node? loc

/-- Why a record was not written, and what its file has gained. -/
inductive Why (s s' : State) (l l' : Log) (r : Record) : Fault → Prop
  /-- The path of its test is no text.  The file is as it was. -/
  | notText (hfile : l.file ≠ none) (hkept : l'.file = l.file)
    (htext : Utf8.decode? r.test.bytes = none) (hfiles : s'.files = s.files) :
    Why s s' l l' r .pathNotText
  /-- There is less room than there is to write.  The file has gained as many bytes as there was
  room for, and what is left over of the others goes on from these. -/
  | noRoom {f f' : LogFile} {text : Bytes} {room : Nat} {fault : Fault} (hfile : l.file = some f)
    (hfile' : l'.file = some f') (htext : Log.textOf? r = some text)
    (hdevice : f.device = .limited room fault) (hroom : room < (f.due text).length)
    (hfiles : s'.files = f.add s.files ((f.due text).take room))
    (hfull : f'.device = .limited 0 fault)
    (hleft : (f.due text).take room ++ f'.waiting <+: f.due text) :
    Why s s' l l' r fault

theorem seq_of_record {l : Log} {files : FileTree} {now : Timestamp} {elapsed : Nat} {test : Path}
    {engine : String} {failures : Verdict} {r : Record}
    (h : (l.record files now elapsed test engine failures).1 = .ok r) :
    r.seq = l.records.length := by
  have hrecords := l.records_record files now elapsed test engine failures
  generalize l.record files now elapsed test engine failures = result at h hrecords
  cases hrecords with
  | listed | written => rw [← Except.ok.inj h, Log.next]
  | refused | notText => cases h

theorem start_add (f : LogFile) (files : FileTree) (data : Bytes) :
    (f.add files data).start = files.start := by
  unfold LogFile.add
  split
  · exact files.start_appendAt _ _ _
  · rfl

/-- What recording leaves behind, as soon as the record is in the list. -/
theorem left_of_listed {s : State} {handle : String} {l l' : Log} {r : Record} {files : FileTree}
    (hlog : s.logs.log? handle = some l) (hr : r.seq = l.records.length)
    (hlisted : l'.records = l.records ++ [r])
    (helsewhere : files.start = s.files.start ∧
      ∀ loc, l.place? ≠ some loc → files.node? loc = s.files.node? loc) :
    s.Left ⟨s.logs.update handle l', files⟩ handle l l' r := by
  have hshown : ∀ other, s.logs.SameLog handle other →
      (s.logs.update handle l').log? other = some l' :=
    fun other hsame => by rw [Logs.log?_update hlog, if_pos hsame]
  refine ⟨hlisted, hshown, fun other hother => ?_, ?_, helsewhere⟩
  · exact (Logs.log?_update hlog l' other).trans (if_neg hother)
  · intro other hsame now elapsed test engine failures place later s'' hlater
    rw [step_record (hshown other hsame)] at hlater
    obtain ⟨⟨-, hok⟩, -⟩ : (_ ∧ _) ∧ _ := by simpa using hlater
    rw [seq_of_record hok, hlisted, List.length_append, hr]
    rfl

/-- **A record that is not written stays in the list**, for whichever reason it is not. -/
theorem left_of_failed_record {s s' : State} {handle : String} {now : Moment} {elapsed : UInt64}
    {test : Path} {engine : String} {failures : Verdict} {place : Option Location} {fault : Fault}
    (h : s.step (.record handle now elapsed test engine failures) =
      (.recorded place (.error fault), s')) :
    place ≠ none ∧ ∃ l l', s.logs.log? handle = some l ∧ place = l.place? ∧
      s.Left s' handle l l' (l.next now.1 elapsed.toNat test engine failures) ∧
      s.Why s' l l' (l.next now.1 elapsed.toNat test engine failures) fault := by
  cases hlog : s.logs.log? handle with
  | none => simp [step, withLog, hlog] at h
  | some l =>
    rw [step_record hlog] at h
    have hrecords := l.records_record s.files now.1 elapsed.toNat test engine failures
    generalize l.record s.files now.1 elapsed.toNat test engine failures = result at h hrecords
    cases hrecords with
    | listed | written => simp at h
    | @refused f text left fault' hfile htext hrefused hleft =>
      simp only [Prod.mk.injEq, Answer.recorded.injEq, Except.error.injEq] at h
      obtain ⟨⟨rfl, rfl⟩, rfl⟩ := h
      obtain ⟨room, hdevice, hroom⟩ := Device.refusal?_eq_some.mp hrefused
      rw [hdevice] at hleft ⊢
      have helsewhere : ∀ loc, l.place? ≠ some loc →
          (f.add s.files ((f.due text).take room)).node? loc = s.files.node? loc := by
        intro loc hloc
        refine f.node?_add_of_ne s.files _ fun heq => hloc ?_
        rw [Log.place?, hfile, heq]
        rfl
      refine ⟨by simp [Log.place?, hfile], l, _, rfl, rfl,
        left_of_listed hlog rfl rfl ⟨start_add f s.files _, helsewhere⟩, ?_⟩
      refine .noRoom hfile rfl htext hdevice hroom rfl ?_ hleft
      simp only [Device.after, Nat.sub_eq_zero_of_le (Nat.le_of_lt hroom)]
    | notText hfile htext =>
      simp only [Prod.mk.injEq, Answer.recorded.injEq, Except.error.injEq] at h
      obtain ⟨⟨rfl, rfl⟩, rfl⟩ := h
      exact ⟨by simpa [Log.place?] using hfile, l, _, rfl, rfl,
        left_of_listed hlog rfl rfl ⟨rfl, fun _ _ => rfl⟩,
        .notText hfile rfl (Log.textOf?_eq_none.mp htext) rfl⟩

/-- A log with a file, in a tree that held nothing. -/
def attached : State := ((start .empty).run [.attach "log" (.ofString "log.jsonl")]).2

/-- The same log on a device that takes seven more bytes. -/
def nearlyFull : State :=
  (attached.step (.refit "log" (.limited 7 (.system 28)))).2

/-- A test whose path is the byte 255 leaves its record behind and no line, and another one leaves
seven bytes of its line behind when there is no room for more. -/
theorem left_of_first_failed_record :
    (∃ place s', attached.step (.record "log" someMoment 0 ⟨[255]⟩ "text" []) =
        (.recorded place (.error .pathNotText), s') ∧
      ∃ l l', attached.logs.log? "log" = some l ∧
        attached.Left s' "log" l l' (l.next someMoment.1 0 ⟨[255]⟩ "text" [])) ∧
    ∃ place s', nearlyFull.step (.record "log" someMoment 0 ⟨[116]⟩ "text" []) =
        (.recorded place (.error (.system 28)), s') ∧
      s'.files.content? [Utf8.encode "log.jsonl"] = some (Utf8.encode "\x7b\"seq\":") ∧
      ∃ l l', nearlyFull.logs.log? "log" = some l ∧
        nearlyFull.Left s' "log" l l' (l.next someMoment.1 0 ⟨[116]⟩ "text" []) := by
  have hbad : (attached.step (.record "log" someMoment 0 ⟨[255]⟩ "text" [])).1.fault? =
      some .pathNotText := by decide +kernel
  have hlong : (nearlyFull.step (.record "log" someMoment 0 ⟨[116]⟩ "text" [])).1.fault? =
      some (.system 28) := by decide +kernel
  obtain ⟨place, hbyte⟩ := exists_of_fault? hbad
  obtain ⟨place', hfull⟩ := exists_of_fault? hlong
  obtain ⟨-, l, l', hlog, -, hleft, -⟩ := left_of_failed_record hbyte
  obtain ⟨-, k, k', hlog', -, hleft', -⟩ := left_of_failed_record hfull
  exact ⟨⟨place, _, hbyte, l, l', hlog, hleft⟩, place', _, hfull, by decide +kernel, k, k', hlog',
    hleft'⟩

/-- **Recording is not all or nothing**: a log counts a record that could not be written. -/
theorem not_atomic :
    ¬ ∀ (files : FileTree) (uses : List Use) (handle : String) (now : Moment) (elapsed : UInt64)
      (test : Path) (engine : String) (failures : Verdict) (place : Option Location)
      (fault : Fault) (s' : State),
      ((start files).run uses).2.step (.record handle now elapsed test engine failures) =
          (.recorded place (.error fault), s') →
        ∀ other query, (s'.step (.ask other query)).1 =
          (((start files).run uses).2.step (.ask other query)).1 := by
  intro h
  have hasked := h .empty [.attach "log" (.ofString "log.jsonl")] "log" someMoment 0 ⟨[255]⟩
    "text" [] _ _ _ rfl "log" .length
  have hlength : Answer.length 1 = Answer.length 0 := hasked
  simp at hlength

end Baseline.LogSession.State
