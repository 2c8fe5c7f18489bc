import Baseline.Proofs.Text.Encoding

/-!
# Reading what was written

The UTF-8 form of a text is read back as that text (`decodeLossy_encode`).  A
character takes one to four bytes.  The first says how many follow and which
values the second may take (`lead_two`, `lead_three`, `lead_four`); every later
one carries six bits (`pieces_owed`, `pieces_last`).  The second byte of a
character that is written is always within its bounds, because the character is
no surrogate and needs as many bytes as it takes (`pieces_encodeChar`).
-/

namespace Baseline.Utf8

theorem toNat_ofNat {n : Nat} (h : n < 256) : (UInt8.ofNat n).toNat = n := by
  rw [UInt8.toNat_ofNat', Nat.mod_eq_of_lt h]

/-! ### The first byte -/

theorem lead_whole {n : Nat} (h : n ≤ 0x7F) : lead (UInt8.ofNat n) = .whole (Char.ofNat n) := by
  have hn : (UInt8.ofNat n).toNat = n := toNat_ofNat (by omega)
  have hb : UInt8.ofNat n ≤ 0x7F := UInt8.le_iff_toNat_le.mpr (hn.symm ▸ h)
  rw [lead, if_pos hb, hn]

theorem lead_two {n : Nat} (hlow : 0xC2 ≤ n) (hhigh : n ≤ 0xDF) :
    lead (UInt8.ofNat n) = .begun ⟨0, 0x80, 0xBF, n - 0xC0⟩ := by
  have hn : (UInt8.ofNat n).toNat = n := toNat_ofNat (by omega)
  simp only [lead, UInt8.le_iff_toNat_le, UInt8.lt_iff_toNat_lt, hn, UInt8.reduceToNat]
  rw [if_neg (by omega), if_neg (by omega), if_pos (by omega)]

theorem lead_three {n : Nat} (hlow : 0xE0 ≤ n) (hhigh : n ≤ 0xEF) :
    ∃ low high, lead (UInt8.ofNat n) = .begun ⟨1, low, high, n - 0xE0⟩ ∧
      low.toNat = (if n = 0xE0 then 0xA0 else 0x80) ∧
      high.toNat = (if n = 0xED then 0x9F else 0xBF) := by
  have hn : (UInt8.ofNat n).toNat = n := toNat_ofNat (by omega)
  simp only [lead, UInt8.le_iff_toNat_le, UInt8.lt_iff_toNat_lt, ← UInt8.toNat_inj, hn,
    UInt8.reduceToNat]
  rw [if_neg (by omega), if_neg (by omega), if_neg (by omega)]
  by_cases h0 : n = 0xE0
  · exact ⟨0xA0, 0xBF, by simp [h0]⟩
  · by_cases hd : n = 0xED
    · exact ⟨0x80, 0x9F, by simp [hd]⟩
    · exact ⟨0x80, 0xBF, by rw [if_neg h0, if_neg hd, if_pos hhigh], by simp [h0], by simp [hd]⟩

theorem lead_four {n : Nat} (hlow : 0xF0 ≤ n) (hhigh : n ≤ 0xF4) :
    ∃ low high, lead (UInt8.ofNat n) = .begun ⟨2, low, high, n - 0xF0⟩ ∧
      low.toNat = (if n = 0xF0 then 0x90 else 0x80) ∧
      high.toNat = (if n = 0xF4 then 0x8F else 0xBF) := by
  have hn : (UInt8.ofNat n).toNat = n := toNat_ofNat (by omega)
  simp only [lead, UInt8.le_iff_toNat_le, UInt8.lt_iff_toNat_lt, ← UInt8.toNat_inj, hn,
    UInt8.reduceToNat]
  rw [if_neg (by omega), if_neg (by omega), if_neg (by omega), if_neg (by omega),
    if_neg (by omega), if_neg (by omega)]
  by_cases h0 : n = 0xF0
  · exact ⟨0x90, 0xBF, by simp [h0]⟩
  · by_cases h4 : n = 0xF4
    · exact ⟨0x80, 0x8F, by simp [h4]⟩
    · exact ⟨0x80, 0xBF, by rw [if_neg h0, if_pos (by omega)], by simp [h0], by simp [h4]⟩

/-! ### One byte of a character -/

theorem pieces_whole {b : UInt8} {c : Char} (h : lead b = .whole c) (rest : Bytes) :
    pieces none (b :: rest) = some c :: pieces none rest := by
  simp [pieces, step, stepFresh, h]

theorem pieces_begun {b : UInt8} {p : Pending} (h : lead b = .begun p) (rest : Bytes) :
    pieces none (b :: rest) = pieces (some p) rest := by
  simp [pieces, step, stepFresh, h]

variable {low high : UInt8} {bits n : Nat}

theorem pieces_last (hn : n < 64) (hlow : low.toNat ≤ n + 128) (hhigh : n + 128 ≤ high.toNat)
    (rest : Bytes) :
    pieces (some ⟨0, low, high, bits⟩) (UInt8.ofNat (n + 128) :: rest) =
      some (Char.ofNat (bits * 64 + n)) :: pieces none rest := by
  have hb : (UInt8.ofNat (n + 128)).toNat = n + 128 := toNat_ofNat (by omega)
  simp only [pieces, step, UInt8.le_iff_toNat_le, hb, hlow, hhigh, and_self, if_true,
    Nat.add_sub_cancel, List.singleton_append]

theorem pieces_owed {owed : Nat} (hn : n < 64) (hlow : low.toNat ≤ n + 128)
    (hhigh : n + 128 ≤ high.toNat) (rest : Bytes) :
    pieces (some ⟨owed + 1, low, high, bits⟩) (UInt8.ofNat (n + 128) :: rest) =
      pieces (some ⟨owed, 0x80, 0xBF, bits * 64 + n⟩) rest := by
  have hb : (UInt8.ofNat (n + 128)).toNat = n + 128 := toNat_ofNat (by omega)
  simp only [pieces, step, UInt8.le_iff_toNat_le, hb, hlow, hhigh, and_self, if_true,
    Nat.add_sub_cancel, List.nil_append]

/-! ### Characters and texts -/

/-- **A character that is written is read back**, whatever follows it. -/
theorem pieces_encodeChar (c : Char) (rest : Bytes) :
    pieces none (String.utf8EncodeChar c ++ rest) = some c :: pieces none rest := by
  have hv : c.val.toNat.isValidChar := c.valid
  have hc : Char.ofNat c.val.toNat = c := Char.ofNat_toNat c
  unfold String.utf8EncodeChar
  generalize c.val.toNat = v at hv hc
  dsimp only
  -- one, two, three or four bytes, as the code point asks for
  split
  · rename_i h1
    exact hc ▸ pieces_whole (lead_whole h1) rest
  rename_i h1
  split
  · rename_i h2
    have hbits : (v / 64 % 32 + 192 - 0xC0) * 64 + v % 64 = v := by omega
    rw [List.cons_append, List.cons_append, List.nil_append,
      pieces_begun (lead_two (by omega) (by omega)),
      pieces_last (by omega) (by simp) (by simp; omega), hbits, hc]
  rename_i h2
  split
  · rename_i h3
    obtain ⟨low, high, hlead, hlow, hhigh⟩ :=
      lead_three (n := v / 4096 % 16 + 224) (by omega) (by omega)
    have hbits : ((v / 4096 % 16 + 224 - 0xE0) * 64 + v / 64 % 64) * 64 + v % 64 = v := by omega
    simp only [List.cons_append, List.nil_append]
    rw [pieces_begun hlead, pieces_owed (by omega) (by split at hlow <;> omega) ?_,
      pieces_last (by omega) (by simp) (by simp; omega), hbits, hc]
    -- the surrogates are left out
    split at hhigh <;> omega
  · rename_i h3
    obtain ⟨low, high, hlead, hlow, hhigh⟩ :=
      lead_four (n := v / 262144 % 8 + 240) (by omega) (by omega)
    have hbits : (((v / 262144 % 8 + 240 - 0xF0) * 64 + v / 4096 % 64) * 64 + v / 64 % 64) * 64
        + v % 64 = v := by omega
    simp only [List.cons_append, List.nil_append]
    rw [pieces_begun hlead, pieces_owed (by omega) (by split at hlow <;> omega) ?_,
      pieces_owed (by omega) (by simp) (by simp; omega),
      pieces_last (by omega) (by simp) (by simp; omega), hbits, hc]
    -- there is nothing past the last code point
    split at hhigh <;> omega

theorem pieces_encode (cs : List Char) :
    pieces none (cs.flatMap String.utf8EncodeChar) = cs.map some := by
  induction cs with
  | nil => rfl
  | cons c cs ih => rw [List.flatMap_cons, pieces_encodeChar, ih, List.map_cons]

/-- **What is written is read back.** -/
@[simp] theorem decodeLossy_encode (s : String) : decodeLossy (encode s) = s := by
  have hget : (fun c : Option Char => c.getD '\ufffd') ∘ some = id := rfl
  rw [decodeLossy, decodeChars, encode, pieces_encode, List.map_map, hget, List.map_id,
    String.ofList_toList]

theorem encode_ne_nil {s : String} (h : s ≠ "") : encode s ≠ [] := by
  intro he
  apply h
  rw [← decodeLossy_encode s, he]
  rfl

end Baseline.Utf8
