import Baseline.Log
import Baseline.Proofs.Json.Record

/-!
# The lines of a log

A record is written on one line of the file that its log appends to, and the line
is read back as the record (`ofLine?_of_textOf?`).  So a file that mirrors a list of records
(`Mirrors`) holds one line for each, in order, and cutting it at the ends of lines
gives the lines again (`splitOn_lines`).
-/

namespace Baseline

/-- The record that a line stands for. -/
def Record.ofLine? (line : Bytes) : Option Record :=
  (Utf8.decode? line).bind fun s => (Record.decode s).toOption

namespace Log

theorem newline_notMem_encode {text : List Char} (h : Json.NoControl text) :
    newline ∉ Utf8.encode (String.ofList text) := by
  intro hmem
  obtain ⟨c, hc, hvalue⟩ := Utf8.mem_encode hmem (by decide)
  rw [String.toList_ofList] at hc
  have hcontrol : 32 ≤ c.val.toNat := h c hc
  rw [hvalue] at hcontrol
  exact absurd hcontrol (by decide)

theorem textOf?_eq_none {r : Record} : textOf? r = none ↔ Utf8.decode? r.test.bytes = none := by
  simp [textOf?, Record.toJson?]

/-- **A record is one line**, and the line is read back as the record. -/
theorem ofLine?_of_textOf? {r : Record} {text : Bytes} (hr : r.Fits) (h : textOf? r = some text) :
    newline ∉ text ∧ Record.ofLine? text = some r := by
  obtain ⟨json, hjson, rfl⟩ := Option.map_eq_some_iff.mp h
  refine ⟨newline_notMem_encode (Record.noControl_toJson hjson), ?_⟩
  rw [Record.ofLine?, Utf8.decode?_encode, Option.bind_some, Record.decode_write hr hjson]
  rfl

/-- A content that goes on from another with one line for each record, in order. -/
def Mirrors (before : Bytes) (rs : List Record) (content : Bytes) : Prop :=
  ∃ lines : List Bytes, content = before ++ lines.flatMap (· ++ [newline]) ∧
    (∀ line ∈ lines, newline ∉ line) ∧ lines.map Record.ofLine? = rs.map some

theorem mirrors_nil (before : Bytes) : Mirrors before [] before := ⟨[], by simp, by simp, rfl⟩

theorem splitOn_lines {lines : List Bytes} (h : ∀ line ∈ lines, newline ∉ line) :
    (lines.flatMap (· ++ [newline])).splitOn newline = lines ++ [[]] := by
  induction lines with
  | nil => rfl
  | cons line lines ih =>
    have hline : line.splitOn newline = [line] := by
      have hone : ([newline].intercalate [line]).splitOn newline = [line] :=
        List.splitOn_intercalate newline
          (fun l hl => List.mem_singleton.mp hl ▸ h line (by simp)) (by simp)
      rwa [List.intercalate_singleton] at hone
    rw [List.flatMap_cons, List.append_assoc, List.singleton_append, List.splitOn_append_cons_self,
      hline, ih fun l hl => h l (by simp [hl])]
    rfl

/-- **One more line for one more record.** -/
theorem Mirrors.concat {before content : Bytes} {rs : List Record} (h : Mirrors before rs content)
    {r : Record} {line : Bytes} (hline : newline ∉ line) (hr : Record.ofLine? line = some r) :
    Mirrors before (rs ++ [r]) (content ++ (line ++ [newline])) := by
  obtain ⟨lines, rfl, hlines, hread⟩ := h
  refine ⟨lines ++ [line], by simp, ?_, by simp [hread, hr]⟩
  intro l hl
  rcases List.mem_append.mp hl with hl | hl
  · exact hlines l hl
  · exact List.mem_singleton.mp hl ▸ hline

end Log

end Baseline
