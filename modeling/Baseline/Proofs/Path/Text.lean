import Baseline.Proofs.Path.Join
import Baseline.Proofs.Text.Validity

/-!
# Paths that are text

A byte below 128 is a whole character (`encodeChar_of_mem`), so cutting valid UTF-8
at one leaves valid UTF-8 on both sides (`isValid_of_append_cons`).  Slashes and dots are such
bytes: the pieces of a path that is text are texts (`isValid_of_mem_segments`,
`isValid_of_mem_parts`), and so is what is left of a name without its extension
(`isValid_bareName`).

A path that is shown as text is shown byte for byte exactly when it is valid
(`encode_text_iff`).
-/

namespace Baseline

namespace Utf8

@[simp] theorem isValid_encode (s : String) : isValid (encode s) = true := by
  have h : decode? (encode s) = some s := decode?_encode s
  unfold decode? at h
  split at h
  · assumption
  · simp at h

theorem isValid_iff_exists_encode {b : Bytes} : isValid b = true ↔ ∃ s, encode s = b := by
  constructor
  · intro h
    exact ⟨decodeLossy b, encode_of_decode? (by rw [decode?, if_pos h])⟩
  · rintro ⟨s, rfl⟩
    exact isValid_encode s

/-- Reading gives back what can be written, and only that. -/
theorem encode_decodeLossy_iff {b : Bytes} : encode (decodeLossy b) = b ↔ isValid b = true := by
  constructor
  · intro h
    exact isValid_iff_exists_encode.mpr ⟨_, h⟩
  · intro h
    exact encode_of_decode? (by rw [decode?, if_pos h])

/-! ### Cutting -/

theorem isValid_append {x y : Bytes} (hx : isValid x = true) (hy : isValid y = true) :
    isValid (x ++ y) = true := by
  obtain ⟨s, rfl⟩ := isValid_iff_exists_encode.mp hx
  obtain ⟨t, rfl⟩ := isValid_iff_exists_encode.mp hy
  exact isValid_iff_exists_encode.mpr ⟨s ++ t, encode_append s t⟩

/-- A byte below 128 is not part of a longer character. -/
theorem encodeChar_of_mem {c : Char} {b : UInt8} (h : b ∈ String.utf8EncodeChar c)
    (hb : b.toNat < 128) : String.utf8EncodeChar c = [b] := by
  have hv : c.val.toNat = b.toNat := toNat_eq_of_mem_encodeChar h hb
  unfold String.utf8EncodeChar
  dsimp only
  rw [if_pos (by omega), hv, UInt8.ofNat_toNat]

/-- A text cut at a byte below 128 is cut between two of its characters; by induction on them. -/
theorem exists_chars_of_append_cons {b : UInt8} (hb : b.toNat < 128) {cs : List Char}
    {x y : Bytes} (h : cs.flatMap String.utf8EncodeChar = x ++ b :: y) :
    ∃ before after : List Char, x = before.flatMap String.utf8EncodeChar ∧
      y = after.flatMap String.utf8EncodeChar := by
  induction cs generalizing x with
  | nil => simp at h
  | cons c cs ih =>
    rw [List.flatMap_cons] at h
    rcases List.append_eq_append_iff.mp h with ⟨more, rfl, hrest⟩ | ⟨more, hchar, hrest⟩
    · -- the cut is behind the first character
      obtain ⟨before, after, rfl, rfl⟩ := ih hrest
      exact ⟨c :: before, after, by rw [List.flatMap_cons], rfl⟩
    · cases more with
      | nil =>
        rw [List.append_nil] at hchar
        obtain ⟨before, after, hbefore, rfl⟩ := ih (x := []) hrest.symm
        exact ⟨[c], after, by simp [hchar], rfl⟩
      | cons d more =>
        obtain ⟨rfl, rfl⟩ := List.cons.inj hrest
        -- the cut is at the first character, which is then that byte alone
        have hone := encodeChar_of_mem (hchar ▸ List.mem_append_right x List.mem_cons_self) hb
        rw [hone] at hchar
        obtain ⟨rfl, rfl⟩ : x = [] ∧ more = [] := by
          cases x with
          | nil => simpa using hchar.symm
          | cons e x => simp at hchar
        exact ⟨[], cs, rfl, rfl⟩

/-- **Valid UTF-8 cut at an ASCII character** is valid on both sides. -/
theorem isValid_of_append_cons {x y : Bytes} {b : UInt8} (h : isValid (x ++ b :: y) = true)
    (hb : b.toNat < 128) : isValid x = true ∧ isValid y = true := by
  obtain ⟨cs, hcs⟩ := exists_chars_of_sound _ (isValid_iff.mp h)
  obtain ⟨before, after, rfl, rfl⟩ := exists_chars_of_append_cons hb hcs.symm
  have hvalid : ∀ ds : List Char, isValid (ds.flatMap String.utf8EncodeChar) = true := by
    intro ds
    have hform : ds.flatMap String.utf8EncodeChar = encode (String.ofList ds) := by
      rw [encode, String.toList_ofList]
    rw [hform]
    exact isValid_encode _
  exact ⟨hvalid before, hvalid after⟩

end Utf8

namespace Path

open Utf8

/-! ### Paths that are text -/

/-- **A path is shown byte for byte** exactly when it is valid UTF-8. -/
theorem encode_text_iff (p : Path) : encode p.text = p.bytes ↔ isValid p.bytes = true :=
  encode_decodeLossy_iff

/-- The pieces of a text between its slashes are texts; by induction on its length. -/
theorem isValid_of_mem_segments {b s : Bytes} (h : isValid b = true) (hs : s ∈ segments b) :
    isValid s = true := by
  induction hn : b.length using Nat.strongRecOn generalizing b with
  | ind n ih =>
    by_cases hslash : slash ∈ b
    · obtain ⟨before, after, rfl, hafter⟩ := exists_last_slash hslash
      obtain ⟨hbefore, hvalid⟩ := isValid_of_append_cons h (by decide)
      rw [segments_append_slash, segments_eq_singleton hafter] at hs
      rcases List.mem_append.mp hs with hs | hs
      · rw [List.length_append, List.length_cons] at hn
        exact ih before.length (by omega) hbefore hs rfl
      · rwa [List.mem_singleton.mp hs]
    · rw [segments_eq_singleton hslash] at hs
      rwa [List.mem_singleton.mp hs]

theorem isValid_of_mem_parts {p : Path} (hp : isValid p.bytes = true) {n : Name} {through : Bytes}
    (h : (.normal n, through) ∈ p.parts) : isValid n = true :=
  isValid_of_mem_segments hp (mem_segments_of_mem_parts h)

theorem isValid_bareName {n : Name} (h : isValid n = true) : isValid (bareName n) = true := by
  have hstem : isValid (stemOf n) = true := by
    unfold stemOf
    cases hcut : splitLastDot? n with
    | none => exact h
    | some cut =>
      obtain ⟨before, after⟩ := cut
      have hn : n = before ++ dot :: after := splitLastDot?_eq_some hcut
      cases before with
      | nil => exact h
      | cons b before => exact (isValid_of_append_cons (hn ▸ h) (by decide)).1
  unfold bareName
  split
  · decide
  · exact hstem

theorem isValid_opened {p : Path} (h : isValid p.bytes = true) : isValid p.opened = true := by
  unfold opened
  split
  · exact h
  · exact isValid_append h (by decide)

theorem isValid_ofNames {ns : List Name} (h : ∀ n ∈ ns, isValid n = true) :
    isValid (ofNames ns).bytes = true := by
  match ns with
  | [] => rfl
  | [n] => exact h n (by simp)
  | n :: m :: rest =>
    have hrest : isValid (ofNames (m :: rest)).bytes = true :=
      isValid_ofNames fun k hk => h k (List.mem_cons_of_mem n hk)
    show isValid (n ++ ([slash] ++ (ofNames (m :: rest)).bytes)) = true
    exact isValid_append (h n (by simp)) (isValid_append (by decide) hrest)

end Path

end Baseline
