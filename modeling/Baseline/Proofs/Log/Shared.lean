import Baseline.Proofs.Log.Session

/-!
# Handles of one log

A log without a file and all handles that were ever cloned from it act as one list
(`actsAsOneList_of_make`).  The list is worked out from what is done and from nothing else:
`OneList` has the handles that were cloned so far, and the records since the list was last
cleared.  What else goes on beside it, with other logs and with files, does not show.

In the store a handle stands for the place of its log.  The handles of the list are those that
stand for one place, and the log there has the records of the list (`OneList.Represents`).  Every
step keeps this as long as no handle of the list is given to another log; that no older handle
stands for the place when the log is made is `Logs.Sound`.
-/

namespace Baseline

namespace Logs

/-- Every handle stands for a log that is there. -/
def Sound (s : Logs) : Prop :=
  ∀ handle i, s.handles.lookup handle = some i → i < s.logs.length

theorem sound_none : none.Sound := by
  intro handle i h
  simp [none] at h

theorem lookup_add (s : Logs) (handle : String) (l : Log) (other : String) :
    (s.add handle l).handles.lookup other =
      if other = handle then some s.logs.length else s.handles.lookup other := by
  by_cases h : other = handle
  · simp [add, h]
  · have hbeq : (other == handle) = false := beq_false_of_ne h
    simp [add, List.lookup_cons, hbeq, h]

theorem lookup_clone (s : Logs) (handle other third : String) :
    (s.clone handle other).handles.lookup third =
      if third = other then (s.handles.lookup handle).or (s.handles.lookup third)
      else s.handles.lookup third := by
  unfold clone
  cases hplace : s.handles.lookup handle with
  | none => simp
  | some i =>
    by_cases h : third = other
    · simp [h]
    · have hbeq : (third == other) = false := beq_false_of_ne h
      simp [List.lookup_cons, hbeq, h]

theorem Sound.add {s : Logs} (h : s.Sound) (handle : String) (l : Log) :
    (s.add handle l).Sound := by
  intro other i hplace
  have hlength : (s.add handle l).logs.length = s.logs.length + 1 := by simp [Logs.add]
  rw [lookup_add] at hplace
  rw [hlength]
  split at hplace
  · obtain rfl : s.logs.length = i := Option.some.inj hplace
    exact Nat.lt_succ_self _
  · exact Nat.lt_succ_of_lt (h other i hplace)

theorem Sound.clone {s : Logs} (h : s.Sound) (handle other : String) :
    (s.clone handle other).Sound := by
  intro third i hplace
  rw [logs_clone]
  rw [lookup_clone] at hplace
  split at hplace
  · rcases Option.or_eq_some_iff.mp hplace with hplace | ⟨-, hplace⟩
    · exact h handle i hplace
    · exact h third i hplace
  · exact h third i hplace

theorem Sound.update {s : Logs} (h : s.Sound) (handle : String) (l : Log) :
    (s.update handle l).Sound := by
  have hlength : (s.update handle l).logs.length = s.logs.length := by
    unfold Logs.update
    split <;> simp
  intro other i hplace
  rw [handles_update] at hplace
  rw [hlength]
  exact h other i hplace

end Logs

namespace LogSession

/-- What is done with a log of a handle keeps what it keeps for every log. -/
theorem State.logs_withLog {P : Logs → Prop} {s : State} {handle : String}
    {f : Log → Answer × State} (h : P s.logs) (hf : ∀ l, P (f l).2.logs) :
    P (s.withLog handle f).2.logs := by
  unfold withLog
  cases s.logs.log? handle with
  | none => exact h
  | some l => exact hf l

theorem State.sound_step {s : State} (h : s.logs.Sound) (u : Use) : (s.step u).2.logs.Sound := by
  cases u with
  | make handle => exact h.add handle .new
  | attach handle path =>
    simp only [step]
    cases Log.openFile s.files path with
    | error fault => exact h
    | ok opened => exact h.add handle opened.1
  | clone handle other => exact h.clone handle other
  | record handle now elapsed test engine failures =>
    exact logs_withLog h fun _ => h.update handle _
  | clear handle | refit handle device => exact logs_withLog h fun _ => h.update handle _
  | ask handle query => exact logs_withLog h fun _ => h
  | elsewhere work => exact h

theorem State.sound_run {s : State} (h : s.logs.Sound) (uses : List Use) :
    (s.run uses).2.logs.Sound := by
  induction uses generalizing s with
  | nil => exact h
  | cons u uses ih => exact ih (State.sound_step h u)

/-! ### One list -/

/-- Each record has the number of its place. -/
def Numbered (rs : List Record) : Prop := ∀ (i : Nat) (r : Record), rs[i]? = some r → r.seq = i

theorem numbered_nil : Numbered [] := by
  intro i r hr
  simp at hr

/-- A list of records, and the handles through which it is used. -/
structure OneList where
  handles : List String
  records : List Record

namespace OneList

/-- The list of a log that was just made. -/
def new (handle : String) : OneList := ⟨[handle], []⟩

/-- The record that comes next. -/
def next (o : OneList) (now : Moment) (elapsed : UInt64) (test : Path) (engine : String)
    (failures : Verdict) : Record :=
  ⟨o.records.length, now.1, elapsed.toNat, test, engine, failures⟩

/-- What one use does to the list.  What goes on through other handles does nothing to it. -/
def step (o : OneList) : Use → OneList
  | .clone handle other =>
    if handle ∈ o.handles then { o with handles := other :: o.handles } else o
  | .record handle now elapsed test engine failures =>
    if handle ∈ o.handles then
      { o with records := o.records ++ [o.next now elapsed test engine failures] }
    else o
  | .clear handle => if handle ∈ o.handles then { o with records := [] } else o
  | _ => o

/-- The list after one use after the other. -/
def run (o : OneList) (uses : List Use) : OneList := uses.foldl step o

/-- No handle of the list is given to another log. -/
def Spares (o : OneList) : Use → Prop
  | .make handle | .attach handle _ => handle ∉ o.handles
  | .clone handle other => handle ∉ o.handles → other ∉ o.handles
  | _ => True

/-- None is in a whole run. -/
def Undisturbed : OneList → List Use → Prop
  | _, [] => True
  | o, u :: us => o.Spares u ∧ (o.step u).Undisturbed us

/-- What the list answers to a question. -/
def Answers (o : OneList) : Query → Answer → Prop
  | .results, a => a = .records o.records ∧ Numbered o.records
  | .failures, a => a = .records (o.records.filter fun r => r.failures ≠ [])
  | .last n, a =>
    ∃ shown, a = .records shown ∧ shown <:+ o.records ∧ shown.length = min n o.records.length
  | .length, a => a = .length o.records.length

/-- The answer to a use through a handle of the list is the list's. -/
def Explains (o : OneList) : Use → Answer → Prop
  | .clone handle _, a => handle ∈ o.handles → a = .done
  | .record handle now elapsed test engine failures, a =>
    handle ∈ o.handles → a = .recorded none (.ok (o.next now elapsed test engine failures))
  | .clear handle, a => handle ∈ o.handles → a = .done
  | .ask handle query, a => handle ∈ o.handles → o.Answers query a
  | _, _ => True

/-- So are all answers, each from the list as it is by then. -/
def ExplainsAll : OneList → List Use → List Answer → Prop
  | _, [], [] => True
  | o, u :: us, a :: as => o.Explains u a ∧ (o.step u).ExplainsAll us as
  | _, _, _ => False

/-- The log that the handles of the list stand for, and no other handle, has the records of the
list. -/
structure Represents (o : OneList) (s : Logs) : Prop where
  sound : s.Sound
  place : ∃ i, s.logs[i]? = some ⟨o.records, none⟩ ∧
    ∀ handle, handle ∈ o.handles ↔ s.handles.lookup handle = some i
  numbered : Numbered o.records

variable {o : OneList} {s : Logs} {handle other : String}

theorem Represents.log? (h : o.Represents s) (hmem : handle ∈ o.handles) :
    s.log? handle = some ⟨o.records, none⟩ := by
  obtain ⟨i, hlog, hhandles⟩ := h.place
  rw [Logs.log?, (hhandles handle).mp hmem, Option.bind_some, hlog]

/-! ### What the store does -/

/-- A log that is made has one handle: no older one stands for its place. -/
theorem represents_new (h : s.Sound) (handle : String) :
    (new handle).Represents (s.add handle .new) := by
  refine ⟨h.add handle .new, ⟨s.logs.length, by simp [Logs.add, Log.new, new], ?_⟩, numbered_nil⟩
  intro other
  rw [Logs.lookup_add, new, List.mem_singleton]
  constructor
  · intro hother
    rw [if_pos hother]
  · intro hplace
    split at hplace
    · assumption
    · exact absurd (h other _ hplace) (Nat.lt_irrefl _)

/-- Another log is another place. -/
theorem Represents.add (h : o.Represents s) (hfresh : handle ∉ o.handles) (l : Log) :
    o.Represents (s.add handle l) := by
  obtain ⟨i, hlog, hhandles⟩ := h.place
  have hi : i < s.logs.length := (List.getElem?_eq_some_iff.mp hlog).1
  refine ⟨h.sound.add handle l, ⟨i, ?_, ?_⟩, h.numbered⟩
  · rw [Logs.add, List.getElem?_append_left hi, hlog]
  · intro other
    rw [Logs.lookup_add]
    split
    · rename_i hother
      subst hother
      simp only [hfresh, Option.some.injEq, false_iff]
      omega
    · exact hhandles other

/-- A clone of a handle of the list is one more; a clone of another handle is of another log. -/
theorem Represents.clone (h : o.Represents s) (hspares : handle ∉ o.handles → other ∉ o.handles) :
    (o.step (.clone handle other)).Represents (s.clone handle other) := by
  obtain ⟨i, hlog, hhandles⟩ := h.place
  have hsound := h.sound.clone handle other
  rw [← Logs.logs_clone s handle other] at hlog
  simp only [step]
  by_cases hmem : handle ∈ o.handles
  · rw [if_pos hmem]
    refine ⟨hsound, ⟨i, hlog, fun third => ?_⟩, h.numbered⟩
    rw [Logs.lookup_clone, (hhandles handle).mp hmem, List.mem_cons]
    by_cases hthird : third = other
    · simp [hthird]
    · rw [if_neg hthird, ← hhandles third]
      simp [hthird]
  · rw [if_neg hmem]
    refine ⟨hsound, ⟨i, hlog, fun third => ?_⟩, h.numbered⟩
    rw [Logs.lookup_clone]
    by_cases hthird : third = other
    · subst hthird
      rw [if_pos rfl]
      constructor
      · intro hin
        exact absurd hin (hspares hmem)
      · intro hplace
        rcases Option.or_eq_some_iff.mp hplace with hplace | ⟨-, hplace⟩
        · exact absurd ((hhandles handle).mpr hplace) hmem
        · exact (hhandles third).mpr hplace
    · rw [if_neg hthird]
      exact hhandles third

/-- The log is replaced through any handle of the list. -/
theorem Represents.update (h : o.Represents s) (hmem : handle ∈ o.handles) {rs : List Record}
    (hnumbered : Numbered rs) :
    Represents ⟨o.handles, rs⟩ (s.update handle ⟨rs, none⟩) := by
  obtain ⟨i, hlog, hhandles⟩ := h.place
  have hi : i < s.logs.length := (List.getElem?_eq_some_iff.mp hlog).1
  refine ⟨h.sound.update handle _, ⟨i, ?_, ?_⟩, hnumbered⟩
  · rw [Logs.update, (hhandles handle).mp hmem]
    exact List.getElem?_set_self hi
  · intro other
    rw [Logs.handles_update]
    exact hhandles other

/-- Through another handle another log is replaced. -/
theorem Represents.update_other (h : o.Represents s) (hnot : handle ∉ o.handles) (l : Log) :
    o.Represents (s.update handle l) := by
  obtain ⟨i, hlog, hhandles⟩ := h.place
  refine ⟨h.sound.update handle l, ⟨i, ?_, ?_⟩, h.numbered⟩
  · rw [Logs.update]
    cases hplace : s.handles.lookup handle with
    | none => exact hlog
    | some j =>
      have hne : j ≠ i := by
        rintro rfl
        exact hnot ((hhandles handle).mpr hplace)
      rw [List.getElem?_set_ne hne, hlog]
  · intro other
    rw [Logs.handles_update]
    exact hhandles other

/-! ### Questions -/

/-- **A log with the records of the list answers as the list.** -/
theorem Represents.answers (h : o.Represents s) (query : Query) :
    o.Answers query (query.answer ⟨o.records, none⟩) := by
  cases query with
  | results => exact ⟨rfl, h.numbered⟩
  | failures =>
    show Answer.records _ = Answer.records _
    congr 1
    apply List.filter_congr
    intro r _
    rw [Record.passed, Verdict.passes]
    cases r.failures <;> rfl
  | last n =>
    refine ⟨_, rfl, List.drop_suffix _ _, ?_⟩
    show (o.records.drop (o.records.length - n)).length = _
    rw [List.length_drop]
    omega
  | length => rfl

/-- The next record has the number of its place. -/
theorem numbered_concat (h : Numbered o.records) {now : Moment} {elapsed : UInt64} {test : Path}
    {engine : String} {failures : Verdict} :
    Numbered (o.records ++ [o.next now elapsed test engine failures]) := by
  intro i r hr
  by_cases hi : i < o.records.length
  · rw [List.getElem?_append_left hi] at hr
    exact h i r hr
  · rw [List.getElem?_append_right (Nat.le_of_not_lt hi)] at hr
    obtain ⟨hbound, rfl⟩ := List.getElem?_eq_some_iff.mp hr
    simp only [List.length_singleton] at hbound
    simp only [List.getElem_singleton, next]
    omega

/-! ### Step by step -/

variable {t : State}

/-- **One step**: the store goes on as the list does, and answers as the list does. -/
theorem Represents.step (h : o.Represents t.logs) {u : Use} (hspares : o.Spares u) :
    (o.step u).Represents (t.step u).2.logs ∧ o.Explains u (t.step u).1 := by
  cases u with
  | make handle => exact ⟨h.add hspares .new, trivial⟩
  | attach handle path =>
    refine ⟨?_, trivial⟩
    simp only [State.step]
    cases Log.openFile t.files path with
    | error fault => exact h
    | ok opened => exact h.add hspares opened.1
  | clone handle other => exact ⟨h.clone hspares, fun _ => rfl⟩
  | record handle now elapsed test engine failures =>
    by_cases hmem : handle ∈ o.handles
    · rw [State.step_record (h.log? hmem), OneList.step, if_pos hmem]
      exact ⟨h.update hmem (numbered_concat h.numbered), fun _ => rfl⟩
    · rw [OneList.step, if_neg hmem]
      refine ⟨?_, fun hin => absurd hin hmem⟩
      exact State.logs_withLog h fun _ => h.update_other hmem _
  | clear handle =>
    by_cases hmem : handle ∈ o.handles
    · simp only [State.step, State.withLog, h.log? hmem, OneList.step, if_pos hmem]
      exact ⟨h.update hmem numbered_nil, fun _ => rfl⟩
    · rw [OneList.step, if_neg hmem]
      refine ⟨?_, fun hin => absurd hin hmem⟩
      exact State.logs_withLog h fun _ => h.update_other hmem _
  | refit handle device =>
    refine ⟨?_, trivial⟩
    by_cases hmem : handle ∈ o.handles
    · simp only [State.step, State.withLog, h.log? hmem]
      exact h.update hmem h.numbered
    · exact State.logs_withLog h fun _ => h.update_other hmem _
  | ask handle query =>
    refine ⟨State.logs_withLog h fun _ => h, fun hmem => ?_⟩
    simp only [State.step, State.withLog, h.log? hmem]
    exact h.answers query
  | elsewhere work => exact ⟨h, trivial⟩

theorem Undisturbed.take {uses : List Use} (h : o.Undisturbed uses) (k : Nat) :
    o.Undisturbed (uses.take k) := by
  induction uses generalizing o k with
  | nil => rwa [List.take_nil]
  | cons u uses ih =>
    cases k with
    | zero => trivial
    | succ k => exact ⟨h.1, ih h.2 k⟩

/-- **A whole run**, by induction on what is done. -/
theorem Represents.run (h : o.Represents t.logs) {uses : List Use} (hspares : o.Undisturbed uses) :
    (o.run uses).Represents (t.run uses).2.logs ∧ o.ExplainsAll uses (t.run uses).1 := by
  induction uses generalizing o t with
  | nil => exact ⟨h, trivial⟩
  | cons u uses ih =>
    obtain ⟨hnow, hlater⟩ := hspares
    obtain ⟨hstep, hanswer⟩ := h.step hnow
    obtain ⟨hrun, hanswers⟩ := ih hstep hlater
    exact ⟨hrun, hanswer, hanswers⟩

end OneList

/-- The log of a handle acts as one list in what is done from a state on. -/
structure ActsAsOneList (handle : String) (uses : List Use) (s : State) : Prop where
  /-- What is answered through the handle and its clones is what the list answers. -/
  answers : (OneList.new handle).ExplainsAll uses (s.run uses).1
  /-- However far this has gone, each of the handles by then has the records of the list, and
  none when the list is empty. -/
  shown : ∀ k, ∀ other ∈ ((OneList.new handle).run (uses.take k)).handles, ∃ l,
    (s.run (uses.take k)).2.logs.log? other = some l ∧
      l.records = ((OneList.new handle).run (uses.take k)).records ∧
      (l.isEmpty = true ↔ ((OneList.new handle).run (uses.take k)).records = [])

/-- **A log and all its clones act as one list**, whatever was done before it was made and whatever
is done beside it. -/
theorem actsAsOneList_of_make (files : FileTree) (before : List Use) (handle : String)
    {uses : List Use} (hspares : (OneList.new handle).Undisturbed uses) :
    ActsAsOneList handle uses (((State.start files).run before).2.step (.make handle)).2 := by
  have hsound : ((State.start files).run before).2.logs.Sound :=
    State.sound_run Logs.sound_none before
  have hnew : (OneList.new handle).Represents
      (((State.start files).run before).2.step (.make handle)).2.logs :=
    OneList.represents_new hsound handle
  refine ⟨(hnew.run hspares).2, fun k other hmem => ?_⟩
  obtain ⟨hrun, -⟩ := hnew.run (hspares.take k)
  exact ⟨_, hrun.log? hmem, rfl, List.isEmpty_iff⟩

/-- Clones of clones, a clear between records, and another log beside. -/
def sharedUses : List Use :=
  [.record "a" someMoment 5 ⟨[116]⟩ "text" [], .clone "a" "b", .make "x",
    .record "b" someMoment 6 ⟨[255]⟩ "text" [.missingText], .ask "a" (.last 1), .clear "b",
    .record "x" someMoment 7 ⟨[117]⟩ "text" [], .clone "b" "c",
    .record "c" someMoment 8 ⟨[118]⟩ "text" [.missingText], .ask "a" .failures, .ask "b" .results]

/-- Three handles of a log in which one record was made after it was cleared. -/
theorem actsAsOneList_first_log :
    (OneList.new "a").Undisturbed sharedUses ∧
      ActsAsOneList "a" sharedUses (((State.start .empty).run [.make "a"]).2.step (.make "a")).2 ∧
      ((OneList.new "a").run sharedUses).handles = ["c", "b", "a"] ∧
      ((OneList.new "a").run sharedUses).records =
        [⟨0, someMoment.1, 8, ⟨[118]⟩, "text", [.missingText]⟩] := by
  have hspares : (OneList.new "a").Undisturbed sharedUses := by
    simp [OneList.Undisturbed, OneList.Spares, OneList.step, OneList.new, sharedUses]
  exact ⟨hspares, actsAsOneList_of_make .empty [.make "a"] "a" hspares, by decide, by decide⟩

end LogSession

end Baseline
