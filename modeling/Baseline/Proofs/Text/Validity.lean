import Mathlib.Tactic.ByContra
import Baseline.Proofs.Text.Decoding

/-!
# What is valid was written

A byte string that is valid UTF-8 is the form of the text that is read from it
(`encode_of_decode?`), and the form of any text is valid (`decode?_encode`).  A
sequence of bytes that completes a character is how that character is written,
whatever its length (`exists_char_of_valid`): a form that is too long, a surrogate
and what lies past the last code point are kept out by the bounds of its second byte.
-/

namespace Baseline.Utf8

theorem toNat_val_ofNat {v : Nat} (h : v.isValidChar) : (Char.ofNat v).val.toNat = v := by
  rw [Char.ofNat, dif_pos h]
  rfl

/-! ### Characters by their bytes -/

theorem encodeChar_one {n : Nat} (h : n ≤ 0x7F) :
    String.utf8EncodeChar (Char.ofNat n) = [UInt8.ofNat n] := by
  have hv : (Char.ofNat n).val.toNat = n := toNat_val_ofNat (Or.inl (by omega))
  unfold String.utf8EncodeChar
  dsimp only
  rw [hv, if_pos h]

theorem encodeChar_two {a b : Nat} (ha : 0xC2 ≤ a ∧ a ≤ 0xDF) (hb : b < 64) :
    String.utf8EncodeChar (Char.ofNat ((a - 0xC0) * 64 + b)) =
      [UInt8.ofNat a, UInt8.ofNat (b + 128)] := by
  have hv := toNat_val_ofNat (v := (a - 0xC0) * 64 + b) (Or.inl (by omega))
  unfold String.utf8EncodeChar
  dsimp only
  rw [hv, if_neg (by omega), if_pos (by omega)]
  have h₁ : ((a - 0xC0) * 64 + b) / 64 % 32 + 0xC0 = a := by omega
  have h₂ : ((a - 0xC0) * 64 + b) % 64 + 0x80 = b + 128 := by omega
  rw [h₁, h₂]

theorem encodeChar_three {a b c : Nat} (ha : 0xE0 ≤ a ∧ a ≤ 0xEF) (hb : b < 64) (hc : c < 64)
    (hlow : a = 0xE0 → 32 ≤ b) (hhigh : a = 0xED → b < 32) :
    String.utf8EncodeChar (Char.ofNat (((a - 0xE0) * 64 + b) * 64 + c)) =
      [UInt8.ofNat a, UInt8.ofNat (b + 128), UInt8.ofNat (c + 128)] := by
  have hvalid : (((a - 0xE0) * 64 + b) * 64 + c).isValidChar := by
    unfold Nat.isValidChar
    omega
  have hv := toNat_val_ofNat hvalid
  unfold String.utf8EncodeChar
  dsimp only
  rw [hv, if_neg (by omega), if_neg (by omega), if_pos (by omega)]
  have h₁ : (((a - 0xE0) * 64 + b) * 64 + c) / 4096 % 16 + 0xE0 = a := by omega
  have h₂ : (((a - 0xE0) * 64 + b) * 64 + c) / 64 % 64 + 0x80 = b + 128 := by omega
  have h₃ : (((a - 0xE0) * 64 + b) * 64 + c) % 64 + 0x80 = c + 128 := by omega
  rw [h₁, h₂, h₃]

theorem encodeChar_four {a b c d : Nat} (ha : 0xF0 ≤ a ∧ a ≤ 0xF4) (hb : b < 64) (hc : c < 64)
    (hd : d < 64) (hlow : a = 0xF0 → 16 ≤ b) (hhigh : a = 0xF4 → b < 16) :
    String.utf8EncodeChar (Char.ofNat ((((a - 0xF0) * 64 + b) * 64 + c) * 64 + d)) =
      [UInt8.ofNat a, UInt8.ofNat (b + 128), UInt8.ofNat (c + 128), UInt8.ofNat (d + 128)] := by
  have hvalid : ((((a - 0xF0) * 64 + b) * 64 + c) * 64 + d).isValidChar := by
    unfold Nat.isValidChar
    omega
  have hv := toNat_val_ofNat hvalid
  unfold String.utf8EncodeChar
  dsimp only
  rw [hv, if_neg (by omega), if_neg (by omega), if_neg (by omega)]
  have h₁ : ((((a - 0xF0) * 64 + b) * 64 + c) * 64 + d) / 262144 % 8 + 0xF0 = a := by omega
  have h₂ : ((((a - 0xF0) * 64 + b) * 64 + c) * 64 + d) / 4096 % 64 + 0x80 = b + 128 := by omega
  have h₃ : ((((a - 0xF0) * 64 + b) * 64 + c) * 64 + d) / 64 % 64 + 0x80 = c + 128 := by omega
  have h₄ : ((((a - 0xF0) * 64 + b) * 64 + c) * 64 + d) % 64 + 0x80 = d + 128 := by omega
  rw [h₁, h₂, h₃, h₄]

/-! ### Valid byte strings -/

/-- No invalid piece is read. -/
def Sound (pending : Option Pending) (b : Bytes) : Prop := ∀ c ∈ pieces pending b, c.isSome = true

/-- A character that has begun goes on within the bounds of its next byte. -/
theorem exists_byte_of_sound {owed bits : Nat} {low high : UInt8} {b : Bytes}
    (h : Sound (some ⟨owed, low, high, bits⟩) b) (hlow : 0x80 ≤ low.toNat)
    (hhigh : high.toNat ≤ 0xBF) :
    ∃ n rest, b = UInt8.ofNat (n + 128) :: rest ∧ n < 64 ∧ low.toNat ≤ n + 128 ∧
      n + 128 ≤ high.toNat := by
  cases b with
  | nil => exact absurd (h none (by simp [pieces])) (by simp)
  | cons x rest =>
    by_cases hx : low ≤ x ∧ x ≤ high
    · rw [UInt8.le_iff_toNat_le, UInt8.le_iff_toNat_le] at hx
      refine ⟨x.toNat - 128, rest, ?_, by omega, by omega, by omega⟩
      have hsum : x.toNat - 128 + 128 = x.toNat := by omega
      rw [hsum, UInt8.ofNat_toNat]
    · refine absurd (h none ?_) (by simp)
      simp [pieces, step, hx]

theorem Sound.congr {p q : Option Pending} {b b' : Bytes} (h : Sound p b)
    (he : pieces p b = pieces q b') : Sound q b' := fun c hc => h c (he ▸ hc)

theorem Sound.tail {p : Option Pending} {b rest : Bytes} {c : Option Char} (h : Sound p b)
    (he : pieces p b = c :: pieces none rest) : Sound none rest :=
  fun d hd => h d (by rw [he]; exact List.mem_cons_of_mem c hd)

/-- The first byte of a valid byte string starts a character. -/
theorem lead_ne_refused {n : Nat} (hn : n < 256) {b : Bytes} (h : Sound none (UInt8.ofNat n :: b)) :
    n ≤ 0x7F ∨ 0xC2 ≤ n ∧ n ≤ 0xF4 := by
  by_contra hout
  have hrefused : lead (UInt8.ofNat n) = .refused := by
    have hbyte : (UInt8.ofNat n).toNat = n := toNat_ofNat hn
    simp only [lead, UInt8.le_iff_toNat_le, UInt8.lt_iff_toNat_lt, ← UInt8.toNat_inj, hbyte,
      UInt8.reduceToNat]
    grind
  refine absurd (h none ?_) (by simp)
  simp [pieces, step, stepFresh, hrefused]

/-- **What completes a character is how it is written.** -/
theorem exists_char_of_sound {n : Nat} (hn : n < 256) {b : Bytes}
    (h : Sound none (UInt8.ofNat n :: b)) :
    ∃ c rest, UInt8.ofNat n :: b = String.utf8EncodeChar c ++ rest := by
  rcases Nat.lt_or_ge n 0x80 with h1 | h1
  · refine ⟨Char.ofNat n, b, ?_⟩
    rw [encodeChar_one (by omega), List.singleton_append]
  obtain ⟨hlow, hhigh⟩ := (lead_ne_refused hn h).resolve_left (by omega)
  rcases Nat.lt_or_ge n 0xE0 with h2 | h2
  · -- two bytes
    have hlead := lead_two hlow (Nat.le_of_lt_succ h2)
    obtain ⟨m, rest, rfl, hm, -, -⟩ :=
      exists_byte_of_sound (h.congr (pieces_begun hlead b)) (by decide) (by decide)
    refine ⟨Char.ofNat ((n - 0xC0) * 64 + m), rest, ?_⟩
    rw [encodeChar_two ⟨hlow, by omega⟩ hm]
    rfl
  rcases Nat.lt_or_ge n 0xF0 with h3 | h3
  · -- three bytes: the bounds of the second keep out the shorter forms and the surrogates
    obtain ⟨low, high, hlead, hl, hh⟩ := lead_three h2 (Nat.le_of_lt_succ h3)
    have hbegun := h.congr (pieces_begun hlead b)
    obtain ⟨m, rest, rfl, hm, hml, hmh⟩ := exists_byte_of_sound hbegun
      (by split at hl <;> omega) (by split at hh <;> omega)
    obtain ⟨k, rest, rfl, hk, -, -⟩ := exists_byte_of_sound
      (hbegun.congr (pieces_owed hm hml hmh rest)) (by decide) (by decide)
    refine ⟨Char.ofNat (((n - 0xE0) * 64 + m) * 64 + k), rest, ?_⟩
    rw [encodeChar_three ⟨h2, by omega⟩ hm hk]
    · rfl
    · intro h0
      rw [if_pos h0] at hl
      omega
    · intro hd
      rw [if_pos hd] at hh
      omega
  · -- four bytes: they keep out the shorter forms and what is past the last character
    obtain ⟨low, high, hlead, hl, hh⟩ := lead_four h3 hhigh
    have hbegun := h.congr (pieces_begun hlead b)
    obtain ⟨m, rest, rfl, hm, hml, hmh⟩ := exists_byte_of_sound hbegun
      (by split at hl <;> omega) (by split at hh <;> omega)
    have hsecond := hbegun.congr (pieces_owed hm hml hmh rest)
    obtain ⟨k, rest, rfl, hk, hkl, hkh⟩ := exists_byte_of_sound hsecond (by decide) (by decide)
    obtain ⟨j, rest, rfl, hj, -, -⟩ := exists_byte_of_sound
      (hsecond.congr (pieces_owed hk hkl hkh rest)) (by decide) (by decide)
    refine ⟨Char.ofNat ((((n - 0xF0) * 64 + m) * 64 + k) * 64 + j), rest, ?_⟩
    rw [encodeChar_four ⟨h3, hhigh⟩ hm hk hj]
    · rfl
    · intro h0
      rw [if_pos h0] at hl
      omega
    · intro h4
      rw [if_pos h4] at hh
      omega

/-- **A valid byte string is the form of a text**, by induction on its length: one character is
taken off it. -/
theorem exists_chars_of_sound (b : Bytes) (h : Sound none b) :
    ∃ cs : List Char, b = cs.flatMap String.utf8EncodeChar := by
  induction hn : b.length using Nat.strongRecOn generalizing b with
  | ind n ih =>
    cases b with
    | nil => exact ⟨[], rfl⟩
    | cons x rest =>
      rw [← UInt8.ofNat_toNat (x := x)] at h
      obtain ⟨c, more, hchar⟩ := exists_char_of_sound x.toNat_lt h
      rw [hchar] at h
      have hmore : Sound none more := h.tail (pieces_encodeChar c more)
      rw [UInt8.ofNat_toNat] at hchar
      have hlength : (x :: rest).length = c.utf8Size + more.length := by
        rw [hchar, List.length_append, String.length_utf8EncodeChar]
      have hpos := c.utf8Size_pos
      obtain ⟨cs, rfl⟩ := ih more.length (by omega) more hmore rfl
      exact ⟨c :: cs, hchar⟩

/-! ### Texts -/

theorem isValid_iff {b : Bytes} : isValid b = true ↔ Sound none b := List.all_eq_true

/-- **What is written is valid** and read back. -/
@[simp] theorem decode?_encode (s : String) : decode? (encode s) = some s := by
  have hvalid : isValid (encode s) = true := by
    rw [isValid_iff]
    intro c hc
    rw [encode, pieces_encode] at hc
    obtain ⟨d, -, rfl⟩ := List.mem_map.mp hc
    rfl
  rw [decode?, if_pos hvalid, decodeLossy_encode]

/-- **What is valid was written.** -/
theorem encode_of_decode? {b : Bytes} {s : String} (h : decode? b = some s) : encode s = b := by
  unfold decode? at h
  split at h
  · rename_i hvalid
    obtain ⟨cs, rfl⟩ := exists_chars_of_sound b (isValid_iff.mp hvalid)
    have hcs : cs.flatMap String.utf8EncodeChar = encode (String.ofList cs) := by
      rw [encode, String.toList_ofList]
    rw [hcs, decodeLossy_encode, Option.some.injEq] at h
    rw [hcs, h]
  · simp at h

end Baseline.Utf8
