import Baseline.Text.Utf8

/-!
# Bytes of a text

A byte below 128 in the UTF-8 form of a text is an ASCII character of the text
(`mem_encode`), so a byte such as the slash is there exactly when the character
is.  Texts laid end to end are encoded one after the other (`encode_append`).
-/

namespace Baseline.Utf8

@[simp] theorem encode_append (s t : String) : encode (s ++ t) = encode s ++ encode t := by
  simp [encode]

theorem toNat_eq_of_mem_encodeChar {c : Char} {b : UInt8} (h : b ∈ String.utf8EncodeChar c)
    (hb : b.toNat < 128) : c.val.toNat = b.toNat := by
  unfold String.utf8EncodeChar at h
  dsimp only at h
  split at h
  · rename_i hv
    rw [List.mem_singleton] at h
    rw [h, UInt8.toNat_ofNat']
    omega
  · -- every byte of a longer form has its highest bit set
    exfalso
    split at h
    · simp only [List.mem_cons, List.not_mem_nil, or_false] at h
      rcases h with rfl | rfl <;> rw [UInt8.toNat_ofNat'] at hb <;> omega
    · split at h
      · simp only [List.mem_cons, List.not_mem_nil, or_false] at h
        rcases h with rfl | rfl | rfl <;> rw [UInt8.toNat_ofNat'] at hb <;> omega
      · simp only [List.mem_cons, List.not_mem_nil, or_false] at h
        rcases h with rfl | rfl | rfl | rfl <;> rw [UInt8.toNat_ofNat'] at hb <;> omega

/-- **A byte below 128 is a character of the text.** -/
theorem mem_encode {s : String} {b : UInt8} (h : b ∈ encode s) (hb : b.toNat < 128) :
    ∃ c ∈ s.toList, c.val.toNat = b.toNat := by
  obtain ⟨c, hc, hbc⟩ := List.mem_flatMap.mp h
  exact ⟨c, hc, toNat_eq_of_mem_encodeChar hbc hb⟩

end Baseline.Utf8
