import Baseline.Json.Record
import Baseline.Proofs.Json.Failure
import Baseline.Proofs.Json.Number
import Baseline.Proofs.Text.Validity
import Baseline.Proofs.Timestamp

/-!
# Records in JSON, read back

A record of a test whose path is text is written on one line (`noControl_toJson`).  It is
read back from any object that has its six members, in any order and among others
(`reads_of_spelledBy`), as long as its moment is one of the calendar and its numbers fit into
64 bits (`Record.Fits`): what has been read at any point is a part of the record that depends
on the names seen so far and not on their order (`part`), and each member adds its own field
to it (`reads_readMember_field`).  So what is written is read back (`decode_write`).
-/

namespace Baseline.Record

open Json

/-- The moment of a record is one of the calendar, and its numbers fit into 64 bits. -/
structure Fits (r : Record) : Prop where
  timestamp : r.timestamp.Valid
  seq : r.seq < naturalLimit
  elapsed : r.elapsed < naturalLimit

/-- The members of a record, when its test and its failures are written so. -/
def members (r : Record) (test : String) (failures : Value) : List (String × Value) :=
  [("seq", .number (.natural r.seq)), ("timestamp", .string (String.ofList r.timestamp.write)),
    ("elapsed_ms", .number (.natural r.elapsed)), ("test", .string test),
    ("engine", .string r.engine), ("failures", failures)]

/-- The names of the members of a record. -/
def fieldNames : List String := ["seq", "timestamp", "elapsed_ms", "test", "engine", "failures"]

theorem map_fst_members (r : Record) (test : String) (failures : Value) :
    (r.members test failures).map Prod.fst = fieldNames := rfl

/-- **How a record is written**, when the path of its test is text. -/
theorem toJson?_eq_some {r : Record} {json : Value} :
    r.toJson? = some json ↔ ∃ test, Utf8.decode? r.test.bytes = some test ∧
      json = .object (r.members test (Verdict.toJson r.failures)) := by
  unfold toJson?
  rw [Option.map_eq_some_iff]
  exact exists_congr fun test => and_congr_right fun _ => eq_comm

/-- **A record is written on one line.** -/
theorem noControl_toJson {r : Record} {json : Value} (h : r.toJson? = some json) :
    NoControl json.write := by
  obtain ⟨test, -, rfl⟩ := toJson?_eq_some.mp h
  refine noControl_object fun m hm => ?_
  simp only [members, List.mem_cons, List.not_mem_nil, or_false] at hm
  rcases hm with rfl | rfl | rfl | rfl | rfl | rfl
  · exact noControl_toDigits _
  · exact noControl_writeString _
  · exact noControl_toDigits _
  · exact noControl_writeString _
  · exact noControl_writeString _
  · exact Verdict.noControl_toJson _

/-- An object that has the members of a record, in any order and among others, and failures that
spell its own. -/
def SpelledBy (r : Record) (v : Value) : Prop :=
  ∃ test failures ms, Utf8.decode? r.test.bytes = some test ∧
    Verdict.SpelledBy r.failures failures ∧ v = .object ms ∧ Extends (r.members test failures) ms

theorem spelledBy_toJson {r : Record} {json : Value} (h : r.toJson? = some json) :
    r.SpelledBy json := by
  obtain ⟨test, htest, rfl⟩ := toJson?_eq_some.mp h
  exact ⟨test, _, _, htest, Verdict.spelledBy_toJson r.failures, rfl, .refl _⟩

/-- The limits of the reader of records: nobody looks at the members that are no fields, so these
are nested to any depth. -/
def WithinLimits (v : Value) : Prop :=
  ∀ ms, v = .object ms → ∀ m ∈ ms, ∃ depth, m.2.Within depth ∧
    (m.1 = "failures" → depth ≤ depthLimit - 2)

theorem withinLimits_of_within {v : Value} (h : v.Within (depthLimit - 1)) : WithinLimits v := by
  rintro ms rfl m hm
  obtain ⟨depth, hdepth, hms⟩ := h.of_object
  exact ⟨depth, hms m hm, fun _ => by omega⟩

theorem within_members {r : Record} (hr : r.Fits) (test : String) {failures : Value} {depth : Nat}
    (h : failures.Within depth) : ∀ m ∈ r.members test failures, m.2.Within depth := by
  intro m hm
  simp only [members, List.mem_cons, List.not_mem_nil, or_false] at hm
  rcases hm with rfl | rfl | rfl | rfl | rfl | rfl
  · exact .number (Number.readable_natural hr.seq)
  · exact .string _
  · exact .number (Number.readable_natural hr.elapsed)
  · exact .string _
  · exact .string _
  · exact h

theorem within_toJson {r : Record} (hr : r.Fits) {json : Value} (h : r.toJson? = some json) :
    json.Within 3 := by
  obtain ⟨test, -, rfl⟩ := toJson?_eq_some.mp h
  exact .object (within_members hr test (Verdict.within_toJson r.failures))

/-! ### Reading -/

/-- **A field is read** where it is still missing. -/
theorem reads_readField {α : Type} {item : Reader α} {text : List Char} {a : α} {name : String}
    {sofar : Option α} {put : α → Draft} {d : Draft} (h : Reads item text a)
    (hsofar : sofar = none) (hput : put a = d) :
    Reads (readField name sofar item put) (':' :: text) d := by
  intro rest hrest
  simp only [readField, hsofar, Option.isSome_none, Bool.false_eq_true, if_false, List.cons_append,
    colon_cons, bind, Except.bind, h rest hrest, ← hput]
  rfl

theorem reads_readTimestamp {t : Timestamp} (h : t.Valid) :
    Reads readTimestamp (writeString (String.ofList t.write)) t := by
  intro rest _
  simp only [readTimestamp, readString_writeString, String.toList_ofList, Timestamp.parse_write h]

theorem reads_readPath {p : Path} {s : String} (h : Utf8.decode? p.bytes = some s) :
    Reads readPath (writeString s) p := by
  intro rest _
  have hp : Path.ofString s = p := congrArg Path.mk (Utf8.encode_of_decode? h)
  simp only [readPath, readString_writeString, Except.map, hp]

section Members

variable {depth : Nat} (d : Draft)

theorem readMember_seq : readMember depth d "seq" =
    readField "seq" d.seq readNatural fun a => { d with seq := some a } := by
  funext s
  simp only [readMember, if_true]

theorem readMember_timestamp : readMember depth d "timestamp" =
    readField "timestamp" d.timestamp readTimestamp fun a => { d with timestamp := some a } := by
  funext s
  simp only [readMember, String.reduceEq, if_false, if_true]

theorem readMember_elapsed : readMember depth d "elapsed_ms" =
    readField "elapsed_ms" d.elapsed readNatural fun a => { d with elapsed := some a } := by
  funext s
  simp only [readMember, String.reduceEq, if_false, if_true]

theorem readMember_test : readMember depth d "test" =
    readField "test" d.test readPath fun a => { d with test := some a } := by
  funext s
  simp only [readMember, String.reduceEq, if_false, if_true]

theorem readMember_engine : readMember depth d "engine" =
    readField "engine" d.engine (readString "a string") fun a => { d with engine := some a } := by
  funext s
  simp only [readMember, String.reduceEq, if_false, if_true]

theorem readMember_failures : readMember depth d "failures" =
    readField "failures" d.failures (Verdict.read depth)
      fun a => { d with failures := some a } := by
  funext s
  simp only [readMember, String.reduceEq, if_false, if_true]

theorem readMember_other {name : String} (h : name ∉ fieldNames) (s : List Char) :
    readMember depth d name s = (colon s).bind fun (_, s) =>
      (skipValue s).map fun (_, s) => (d, s) := by
  simp only [fieldNames, List.mem_cons, List.not_mem_nil, or_false, not_or] at h
  obtain ⟨h₁, h₂, h₃, h₄, h₅, h₆⟩ := h
  simp only [readMember, h₁, h₂, h₃, h₄, h₅, h₆, if_false]
  rfl

end Members

/-- A value that is there once its name has been seen. -/
def onceSeen {α : Type} (seen : List String) (name : String) (a : α) : Option α :=
  if name ∈ seen then some a else none

/-- What has been read of a record when these names have been seen. -/
def part (r : Record) (seen : List String) : Draft where
  seq := onceSeen seen "seq" r.seq
  timestamp := onceSeen seen "timestamp" r.timestamp
  elapsed := onceSeen seen "elapsed_ms" r.elapsed
  test := onceSeen seen "test" r.test
  engine := onceSeen seen "engine" r.engine
  failures := onceSeen seen "failures" r.failures

theorem part_nil (r : Record) : r.part [] = .blank := rfl

theorem onceSeen_cons_of_ne {α : Type} {field name : String} (h : field ≠ name)
    (seen : List String) (a : α) : onceSeen (name :: seen) field a = onceSeen seen field a := by
  simp only [onceSeen, List.mem_cons, h, false_or]

theorem part_cons_of_notMem (r : Record) {name : String} (h : name ∉ fieldNames)
    (seen : List String) : r.part (name :: seen) = r.part seen := by
  have hne : ∀ field ∈ fieldNames, field ≠ name := fun field hfield he => h (he ▸ hfield)
  simp only [fieldNames, List.forall_mem_cons] at hne
  obtain ⟨hseq, htimestamp, helapsed, htest, hengine, hfailures, -⟩ := hne
  simp only [part, onceSeen_cons_of_ne hseq, onceSeen_cons_of_ne htimestamp,
    onceSeen_cons_of_ne helapsed, onceSeen_cons_of_ne htest, onceSeen_cons_of_ne hengine,
    onceSeen_cons_of_ne hfailures]

theorem finish_part (r : Record) {seen : List String} (h : fieldNames ⊆ seen) :
    (r.part seen).finish = .ok r := by
  simp only [fieldNames, List.cons_subset] at h
  obtain ⟨hseq, htimestamp, helapsed, htest, hengine, hfailures, -⟩ := h
  simp only [part, onceSeen, hseq, htimestamp, helapsed, htest, hengine, hfailures, if_true,
    Draft.finish]

section Fields

variable {r : Record} {test : String} {failures : Value} {depth : Nat}

/-- **Each field is added to what has been read.** -/
theorem reads_readMember_field (hr : r.Fits) (htest : Utf8.decode? r.test.bytes = some test)
    (hfailures : Verdict.SpelledBy r.failures failures) (hdepth : failures.Within depth)
    {m : String × Value} (hm : m ∈ r.members test failures) {seen : List String}
    (hseen : m.1 ∉ seen) :
    Reads (readMember (depth + 1) (r.part seen) m.1) (':' :: m.2.write) (r.part (m.1 :: seen)) := by
  simp only [members, List.mem_cons, List.not_mem_nil, or_false] at hm
  rcases hm with rfl | rfl | rfl | rfl | rfl | rfl
  · rw [readMember_seq]
    exact reads_readField (reads_readNatural hr.seq) (if_neg hseen) (by simp [part, onceSeen])
  · rw [readMember_timestamp]
    exact reads_readField (reads_readTimestamp hr.timestamp) (if_neg hseen)
      (by simp [part, onceSeen])
  · rw [readMember_elapsed]
    exact reads_readField (reads_readNatural hr.elapsed) (if_neg hseen) (by simp [part, onceSeen])
  · rw [readMember_test]
    exact reads_readField (reads_readPath htest) (if_neg hseen) (by simp [part, onceSeen])
  · rw [readMember_engine]
    exact reads_readField (reads_readString _ r.engine) (if_neg hseen) (by simp [part, onceSeen])
  · rw [readMember_failures]
    exact reads_readField (Verdict.reads_of_spelledBy hfailures hdepth) (if_neg hseen)
      (by simp [part, onceSeen])

/-- **Any other member is passed over.** -/
theorem reads_readMember_other {m : String × Value} (hm : m.1 ∉ fieldNames) {inner : Nat}
    (hinner : m.2.Within inner) (seen : List String) :
    Reads (readMember (depth + 1) (r.part seen) m.1) (':' :: m.2.write) (r.part (m.1 :: seen)) := by
  intro rest hrest
  rw [readMember_other _ hm, List.cons_append, colon_cons, part_cons_of_notMem r hm]
  simp only [Except.bind, reads_skipValue hinner rest hrest]
  rfl

/-- **The members of a record are read in any order**, each field when its name has not been seen
yet. -/
theorem folds_members (hr : r.Fits) (htest : Utf8.decode? r.test.bytes = some test)
    (hfailures : Verdict.SpelledBy r.failures failures) (hdepth : failures.Within depth)
    {ms : List (String × Value)} (hms : ∀ m ∈ ms, ∃ inner, m.2.Within inner)
    (hmem : ∀ m ∈ ms, m.1 ∈ fieldNames → m ∈ r.members test failures)
    (hapart : ms.Pairwise fun m n => m.1 = n.1 → m.1 ∉ fieldNames) {seen : List String}
    (hseen : ∀ m ∈ ms, m.1 ∈ fieldNames → m.1 ∉ seen) :
    Folds (readMember (depth + 1)) (r.part seen) (memberTexts ms)
      (r.part ((ms.map Prod.fst).reverse ++ seen)) := by
  -- the names seen so far grow with each member, so no field is read twice
  induction ms generalizing seen with
  | nil => exact .nil _
  | cons m ms ih =>
    obtain ⟨hfirst, hapart⟩ := List.pairwise_cons.mp hapart
    have hread : Reads (readMember (depth + 1) (r.part seen) m.1) (':' :: m.2.write)
        (r.part (m.1 :: seen)) := by
      by_cases hm : m.1 ∈ fieldNames
      · exact reads_readMember_field hr htest hfailures hdepth (hmem m (by simp) hm)
          (hseen m (by simp) hm)
      · obtain ⟨inner, hinner⟩ := hms m (by simp)
        exact reads_readMember_other hm hinner seen
    have hlater := ih (fun n hn => hms n (by simp [hn])) (fun n hn => hmem n (by simp [hn])) hapart
      (fun n hn hfield => List.not_mem_cons_of_ne_of_not_mem
        (fun he => hfirst n hn he.symm (he ▸ hfield)) (hseen n (by simp [hn]) hfield))
    rw [List.map_cons, List.reverse_cons, List.append_assoc]
    exact .cons hread hlater

end Fields

/-- **A record is read back** from any object that spells it. -/
theorem reads_of_spelledBy {r : Record} (hr : r.Fits) {v : Value} (hv : r.SpelledBy v)
    (hlimits : WithinLimits v) : Reads read v.write r := by
  intro rest _
  obtain ⟨test, failures, ms, htest, hfailures, rfl, hextends⟩ := hv
  have hmember : ("failures", failures) ∈ ms := hextends.subset (by simp [members])
  obtain ⟨depth, hdepth, hle⟩ := hlimits ms rfl _ hmember
  have hapart : ms.Pairwise fun m n => m.1 = n.1 → m.1 ∉ fieldNames :=
    hextends.pairwise (by rw [map_fst_members]; decide)
  have hfolds := folds_members hr htest hfailures (hdepth.mono (hle rfl))
    (fun m hm => (hlimits ms rfl m hm).imp fun _ h => h.1) (fun m => hextends.mem_of_name) hapart
    (fun m _ _ => List.not_mem_nil)
  have hseen : fieldNames ⊆ (ms.map Prod.fst).reverse ++ [] := by
    rw [List.append_nil, ← map_fst_members r test failures]
    exact fun name hname => List.mem_reverse.mpr (List.map_subset _ hextends.subset hname)
  rw [part_nil] at hfolds
  rw [write_object_append, read, skipBlanks_cons (by decide)]
  simp only [if_true]
  rw [show depthLimit - 1 = depthLimit - 2 + 1 from rfl, members_object hfolds]
  simp only [bind, Except.bind, finish_part r hseen, endObject_cons]
  rfl

/-- **What is written is decoded** to the record. -/
theorem decode_write {r : Record} (hr : r.Fits) {json : Value} (h : r.toJson? = some json) :
    decode (String.ofList json.write) = .ok r :=
  decode_of_reads (reads_of_spelledBy hr (spelledBy_toJson h)
    (withinLimits_of_within ((within_toJson hr h).mono (by decide))))

end Baseline.Record
