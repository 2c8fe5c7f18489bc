import Mathlib.Data.List.DropRight
import Baseline.Sha256
import Baseline.Text.Blank

/-!
# Trimmed texts

Trimming takes the blanks off both ends and is done after one time
(`trim_trim`).  A text without blanks is trimmed already
(`trim_eq_self_of_no_blank`), and so is every digest in hexadecimal
(`trim_hexDigest`).
-/

namespace Baseline

namespace Text

theorem trimChars_eq (s : List Char) :
    trimChars s = (s.dropWhile isBlank).rdropWhile isBlank := rfl

/-- No blank comes first once those in front are dropped, and what is dropped behind leaves the
first where it is. -/
theorem dropWhile_trimChars (s : List Char) : (trimChars s).dropWhile isBlank = trimChars s := by
  rw [List.dropWhile_eq_self_iff]
  intro hpos
  obtain ⟨after, hafter⟩ := List.rdropWhile_prefix isBlank (s.dropWhile isBlank)
  rw [← trimChars_eq] at hafter
  have hlong : 0 < (s.dropWhile isBlank).length := by
    rw [← hafter, List.length_append]
    omega
  have hfirst := List.dropWhile_eq_self_iff.mp (List.dropWhile_idempotent isBlank s) hlong
  simpa only [← hafter, List.getElem_append_left hpos] using hfirst

theorem trimChars_trimChars (s : List Char) : trimChars (trimChars s) = trimChars s := by
  rw [trimChars_eq, dropWhile_trimChars, trimChars_eq, List.rdropWhile_idempotent]

/-- **Trimming is done after one time.** -/
@[simp] theorem trim_trim (s : String) : trim (trim s) = trim s := by
  simp [trim, trimChars_trimChars]

theorem trimChars_of_no_blank {s : List Char} (h : ∀ c ∈ s, isBlank c = false) :
    trimChars s = s := by
  have hfront : s.dropWhile isBlank = s :=
    List.dropWhile_eq_self_iff.mpr fun hpos => by simp [h _ (List.getElem_mem hpos)]
  rw [trimChars_eq, hfront, List.rdropWhile_eq_self_iff]
  intro hne
  simp [h _ (List.getLast_mem hne)]

theorem trim_eq_self_of_no_blank {s : String} (h : ∀ c ∈ s.toList, isBlank c = false) :
    trim s = s := by
  rw [trim, trimChars_of_no_blank h, String.ofList_toList]

end Text

/-! ### Digests -/

theorem isBlank_hexDigit {n : Nat} (h : n < 16) : Text.isBlank (hexDigit n) = false := by
  revert n
  decide

namespace Bytes

theorem not_blank_of_mem_toHex {b : Bytes} {c : Char} (h : c ∈ b.toHex.toList) :
    Text.isBlank c = false := by
  simp only [toHex, hexDigits, String.toList_ofList, List.mem_flatMap, List.mem_cons,
    List.not_mem_nil, or_false] at h
  obtain ⟨x, -, rfl | rfl⟩ := h
  · have := x.toNat_lt
    exact isBlank_hexDigit (by omega)
  · exact isBlank_hexDigit (Nat.mod_lt _ (by decide))

end Bytes

namespace Sha256

@[simp] theorem trim_hexDigest (message : Bytes) :
    Text.trim (hexDigest message) = hexDigest message :=
  Text.trim_eq_self_of_no_blank fun _ => Bytes.not_blank_of_mem_toHex

theorem hexDigest_ne_empty (message : Bytes) : hexDigest message ≠ "" := by
  intro h
  have := congrArg String.toList h
  simp [hexDigest, Bytes.toHex, Bytes.hexDigits, digest, wordBytes] at this

end Sha256

end Baseline
