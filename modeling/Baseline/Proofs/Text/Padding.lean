import Baseline.Proofs.Text.Decoding
import Baseline.Proofs.Text.Trim

/-!
# Texts in blanks

Characters before and after a byte string are read as they are, whatever the byte
string is (`decodeLossy_encode_append`, `decodeLossy_append_encode`): the first byte of a
character never goes on with a character that has begun before it
(`pieces_append_encode`).  So blanks around a byte string are blanks around its text, and
trimming takes them off again (`trim_decodeLossy_pad`).
-/

namespace Baseline

namespace Utf8

/-! ### Text behind bytes -/

/-- The bytes that a character may go on with are not those that one begins with. -/
def Pending.Bounded (p : Pending) : Prop := 0x80 ≤ p.low.toNat ∧ p.high.toNat ≤ 0xBF

theorem bounded_of_lead {b : UInt8} {p : Pending} (h : lead b = .begun p) : p.Bounded := by
  unfold lead at h
  split_ifs at h <;> cases h <;> simp [Pending.Bounded]

theorem bounded_of_step {p : Option Pending} {b : UInt8} {q : Pending}
    (h : (step p b).2 = some q) : q.Bounded := by
  have hfresh : ∀ c : UInt8, (stepFresh c).2 = some q → q.Bounded := by
    intro c hc
    unfold stepFresh at hc
    cases hlead : lead c with
    | whole | refused => simp [hlead] at hc
    | begun p =>
      obtain rfl : p = q := by simpa [hlead] using hc
      exact bounded_of_lead hlead
  cases p with
  | none => exact hfresh b h
  | some p =>
    simp only [step] at h
    split at h
    · split at h
      · simp at h
      · obtain rfl := Option.some.inj h
        simp [Pending.Bounded]
    · exact hfresh b h

/-- A character begins with a byte that none goes on with. -/
theorem head_encodeChar (c : Char) :
    ∃ b rest, String.utf8EncodeChar c = b :: rest ∧ (b.toNat < 0x80 ∨ 0xC0 ≤ b.toNat) := by
  unfold String.utf8EncodeChar
  dsimp only
  split
  · refine ⟨_, _, rfl, ?_⟩
    rw [UInt8.toNat_ofNat']
    omega
  · split
    · refine ⟨_, _, rfl, ?_⟩
      rw [UInt8.toNat_ofNat']
      omega
    · split <;> refine ⟨_, _, rfl, ?_⟩ <;> rw [UInt8.toNat_ofNat'] <;> omega

/-- A character that has begun is not completed by what another begins with. -/
theorem pieces_pending_encodeChar {p : Pending} (hp : p.Bounded) (c : Char) (rest : Bytes) :
    pieces (some p) (String.utf8EncodeChar c ++ rest) =
      none :: pieces none (String.utf8EncodeChar c ++ rest) := by
  obtain ⟨b, more, hbytes, hb⟩ := head_encodeChar c
  have hout : ¬ (p.low ≤ b ∧ b ≤ p.high) := by
    rw [UInt8.le_iff_toNat_le, UInt8.le_iff_toNat_le]
    have hlow := hp.1
    have hhigh := hp.2
    omega
  rw [hbytes, List.cons_append]
  simp only [pieces, step, if_neg hout, List.cons_append]

/-- **Characters behind bytes** are read as they are; by induction on the bytes, where what
is pending keeps its bounds. -/
theorem pieces_append_encode (b : Bytes) (cs : List Char) {p : Option Pending}
    (hp : ∀ q, p = some q → q.Bounded) :
    pieces p (b ++ cs.flatMap String.utf8EncodeChar) = pieces p b ++ cs.map some := by
  induction b generalizing p with
  | nil =>
    cases p with
    | none => exact pieces_encode cs
    | some q =>
      cases cs with
      | nil => rfl
      | cons c cs =>
        rw [List.nil_append, List.flatMap_cons, pieces_pending_encodeChar (hp q rfl),
          pieces_encodeChar, pieces_encode]
        rfl
  | cons x b ih =>
    have hnext : ∀ q, (step p x).2 = some q → q.Bounded := fun _ => bounded_of_step
    cases p <;> simp only [List.cons_append, pieces, ih hnext, List.append_assoc]

theorem decodeLossy_append_encode (b : Bytes) (s : String) :
    decodeLossy (b ++ encode s) = decodeLossy b ++ s := by
  have hpieces := pieces_append_encode b s.toList (p := none) (by simp)
  have hget : (fun c : Option Char => c.getD '\ufffd') ∘ some = id := rfl
  rw [decodeLossy, decodeChars, encode, hpieces, List.map_append, List.map_map, hget, List.map_id,
    String.ofList_append, String.ofList_toList]
  rfl

theorem decodeLossy_encode_append (s : String) (b : Bytes) :
    decodeLossy (encode s ++ b) = s ++ decodeLossy b := by
  have hpieces : ∀ cs : List Char, pieces none (cs.flatMap String.utf8EncodeChar ++ b) =
      cs.map some ++ pieces none b := by
    intro cs
    induction cs with
    | nil => rfl
    | cons c cs ih =>
      rw [List.flatMap_cons, List.append_assoc, pieces_encodeChar, ih]
      rfl
  have hget : (fun c : Option Char => c.getD '\ufffd') ∘ some = id := rfl
  rw [decodeLossy, decodeChars, encode, hpieces, List.map_append, List.map_map, hget, List.map_id,
    String.ofList_append, String.ofList_toList]
  rfl

end Utf8

namespace Text

/-! ### Blanks -/

/-- A text of blanks. -/
def AllBlank (s : String) : Prop := ∀ c ∈ s.toList, isBlank c = true

instance (s : String) : Decidable (AllBlank s) :=
  List.decidableBAll (fun c => isBlank c = true) s.toList

theorem rdropWhile_append_of_pos {p : Char → Bool} {s t : List Char} (h : ∀ c ∈ t, p c = true) :
    (s ++ t).rdropWhile p = s.rdropWhile p := by
  unfold List.rdropWhile
  rw [List.reverse_append, List.dropWhile_append_of_pos]
  intro c hc
  exact h c (List.mem_reverse.mp hc)

theorem trimChars_pad {before after s : List Char} (hb : ∀ c ∈ before, isBlank c = true)
    (ha : ∀ c ∈ after, isBlank c = true) : trimChars (before ++ s ++ after) = trimChars s := by
  rw [trimChars_eq, trimChars_eq, List.append_assoc, List.dropWhile_append_of_pos hb,
    List.dropWhile_append]
  split
  · -- there is nothing but blanks
    rename_i hnothing
    rw [List.dropWhile_eq_nil_iff.mpr ha, List.isEmpty_iff.mp hnothing]
  · exact rdropWhile_append_of_pos ha

/-- **Trimming takes off the blanks** around a text. -/
theorem trim_pad {before after : String} (hb : AllBlank before) (ha : AllBlank after)
    (s : String) : trim (before ++ s ++ after) = trim s := by
  unfold trim
  rw [String.toList_append, String.toList_append, trimChars_pad hb ha]

theorem trim_decodeLossy_pad {before after : String} (hb : AllBlank before) (ha : AllBlank after)
    (data : Bytes) :
    trim (Utf8.decodeLossy (Utf8.encode before ++ data ++ Utf8.encode after)) =
      trim (Utf8.decodeLossy data) := by
  rw [Utf8.decodeLossy_append_encode, Utf8.decodeLossy_encode_append, trim_pad hb ha]

end Text

end Baseline
