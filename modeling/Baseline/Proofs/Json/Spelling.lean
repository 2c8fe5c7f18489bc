import Baseline.Proofs.Json.Record

/-!
# Spellings

A failure, a verdict and a record are each written on one line and decoded from it, and from
every other spelling of it (`decodes_spellings`): the members of each object in any order, and
others among them that are not its fields, as far as a reader takes their values.  The proof
goes from the inside out, by what is read back of a failure (`Failure.reads_of_spelledBy`), of
a verdict (`Verdict.reads_of_spelledBy`) and of a record (`Record.reads_of_spelledBy`).
-/

namespace Baseline.Json

/-- A value is written on one line and decoded from it, and from every spelling of it. -/
structure DecodesSpellings {α : Type} (decode : String → Except Error α) (a : α) (json : Value)
    (spelled : Value → Prop) : Prop where
  line : NoControl json.write
  written : decode (String.ofList json.write) = .ok a
  spelled : ∀ v, spelled v → decode (String.ofList v.write) = .ok a

/-- **Decoding undoes encoding**, whatever the order of the members and whatever stands among
them. -/
theorem decodes_spellings :
    (∀ f : Failure, DecodesSpellings Failure.decode f f.toJson fun v =>
      f.SpelledBy v ∧ v.Within (depthLimit - 1)) ∧
    (∀ fs : Verdict, DecodesSpellings Verdict.decode fs (Verdict.toJson fs) fun v =>
      Verdict.SpelledBy fs v ∧ v.Within (depthLimit - 1)) ∧
    ∀ r : Record, r.Fits → Utf8.decode? r.test.bytes ≠ none → ∃ json, r.toJson? = some json ∧
      DecodesSpellings Record.decode r json fun v => r.SpelledBy v ∧ Record.WithinLimits v := by
  refine ⟨fun f => ?_, fun fs => ?_, fun r hr htest => ?_⟩
  · have hread : ∀ v, f.SpelledBy v ∧ v.Within (depthLimit - 1) →
        Failure.decode (String.ofList v.write) = .ok f := fun v h =>
      decode_of_reads (Failure.reads_of_spelledBy h.1 h.2)
    exact ⟨f.noControl_toJson,
      hread _ ⟨f.spelledBy_toJson, f.within_toJson.mono (by decide)⟩, hread⟩
  · have hread : ∀ v, Verdict.SpelledBy fs v ∧ v.Within (depthLimit - 1) →
        Verdict.decode (String.ofList v.write) = .ok fs := fun v h =>
      decode_of_reads (Verdict.reads_of_spelledBy h.1 h.2)
    exact ⟨Verdict.noControl_toJson fs,
      hread _ ⟨Verdict.spelledBy_toJson fs, (Verdict.within_toJson fs).mono (by decide)⟩, hread⟩
  · obtain ⟨test, htext⟩ := Option.ne_none_iff_exists'.mp htest
    have hjson := Record.toJson?_eq_some.mpr ⟨test, htext, rfl⟩
    exact ⟨_, hjson, Record.noControl_toJson hjson, Record.decode_write hr hjson, fun v h =>
      decode_of_reads (Record.reads_of_spelledBy hr h.1 h.2)⟩

/-- A checksum that differs, in a text of quotes and backslashes. -/
def quotedMismatch : Failure := .checksumMismatch "\"\n" "\\é"

/-- A record of that failure, in a leap second. -/
def quotedRecord : Record :=
  ⟨3, ⟨2016, 12, 31, 23, 59, 60, 500000000⟩, 40, .ofString "a b", "page", [quotedMismatch]⟩

/-- Its failure, with its kind last and with a member of its own. -/
def shuffledMismatch : Value :=
  .object (quotedMismatch.members ++ [("seen", Value.array [.number (.natural 2), .null])]).reverse

/-- The record, with its members in the other order and with one of its own. -/
def shuffledRecord : Value :=
  .object (quotedRecord.members "a b" (.array [shuffledMismatch]) ++
    [("seen", Value.object [("seq", .bool true)])]).reverse

theorem within_shuffledMismatch : shuffledMismatch.Within 2 := by
  refine .object fun m hm => ?_
  rcases List.mem_append.mp (List.mem_reverse.mp hm) with hm | hm
  · exact quotedMismatch.within_members 1 m hm
  · obtain rfl := List.mem_singleton.mp hm
    have hnumber : (Value.number (.natural 2)).Within 0 :=
      .number (Number.readable_natural (by decide))
    exact .array (List.forall_mem_cons.mpr ⟨hnumber, List.forall_mem_singleton.mpr .null⟩)

/-- A record and a failure in it, each in another order and with a member that is no field. -/
theorem decodes_shuffled_record :
    quotedRecord.Fits ∧ Utf8.decode? quotedRecord.test.bytes ≠ none ∧
      Failure.decode (String.ofList shuffledMismatch.write) = .ok quotedMismatch ∧
      Record.decode (String.ofList shuffledRecord.write) = .ok quotedRecord := by
  have hfits : quotedRecord.Fits := ⟨by decide, by decide, by decide⟩
  have htest : Utf8.decode? quotedRecord.test.bytes = some "a b" := Utf8.decode?_encode _
  have hmismatch : quotedMismatch.SpelledBy shuffledMismatch :=
    ⟨_, rfl, _, List.reverse_perm _, by decide⟩
  have hverdict : Verdict.SpelledBy quotedRecord.failures (.array [shuffledMismatch]) :=
    ⟨_, rfl, .cons hmismatch .nil⟩
  have hrecord : quotedRecord.SpelledBy shuffledRecord :=
    ⟨_, _, _, htest, hverdict, rfl, _, List.reverse_perm _, by decide⟩
  have hwithin : shuffledRecord.Within 4 := by
    refine .object fun m hm => ?_
    rcases List.mem_append.mp (List.mem_reverse.mp hm) with hm | hm
    · refine Record.within_members hfits "a b" (.array ?_) m hm
      exact List.forall_mem_singleton.mpr within_shuffledMismatch
    · obtain rfl := List.mem_singleton.mp hm
      exact .object (List.forall_mem_singleton.mpr (.bool true))
  obtain ⟨json, -, hdecodes⟩ := decodes_spellings.2.2 quotedRecord hfits (by simp [htest])
  exact ⟨hfits, by simp [htest],
    (decodes_spellings.1 quotedMismatch).spelled _
      ⟨hmismatch, within_shuffledMismatch.mono (by decide)⟩,
    hdecodes.spelled _ ⟨hrecord, Record.withinLimits_of_within (hwithin.mono (by decide))⟩⟩

end Baseline.Json
