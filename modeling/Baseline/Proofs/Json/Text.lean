import Baseline.Json.Reader

/-!
# Strings in JSON

A string that is written is read back as it was (`reads_readString`).  A character
is written in one of three ways (`writeChar_cases`), and each of them is read back
whatever follows it (`stringBody_writeChar`), so the string ends at its own last
quote and nowhere before.

`Reads item text a` says that the reader `item` takes the value `a` off the front of
whatever begins with `text`, as long as nothing follows that could belong to the
value: the text ends there, or a comma or a closing bracket comes (`Ends`).
-/

namespace Baseline.Json

/-! ### Reading in front of more text -/

/-- What may stand behind a value without blanks: nothing, a comma or a closing bracket. -/
def Ends (rest : List Char) : Prop := ∀ c, rest.head? = some c → c = ',' ∨ c = ']' ∨ c = '\x7d'

theorem ends_nil : Ends [] := by
  intro c h
  simp at h

theorem ends_cons {c : Char} (h : c = ',' ∨ c = ']' ∨ c = '\x7d') (rest : List Char) :
    Ends (c :: rest) := by
  intro d hd
  obtain rfl : c = d := by simpa using hd
  exact h

/-- A reader takes a value off the front of its text. -/
def Reads {α : Type} (item : Reader α) (text : List Char) (a : α) : Prop :=
  ∀ rest, Ends rest → item (text ++ rest) = .ok (a, rest)

theorem skipBlanks_cons {c : Char} (h : isBlank c = false) (rest : List Char) :
    skipBlanks (c :: rest) = c :: rest := by
  simp [skipBlanks, h]

/-- **A whole text is decoded** when a reader takes its value off the front of it. -/
theorem decode_of_reads {α : Type} {item : Reader α} {text : List Char} {a : α}
    (h : Reads item text a) : decode item (String.ofList text) = .ok a := by
  have hread := h [] ends_nil
  rw [List.append_nil] at hread
  simp [decode, hread, skipBlanks]

/-! ### Characters -/

/-- **How a character is written**: behind a backslash as a letter, as its code, or as it is. -/
theorem writeChar_cases (c : Char) :
    (∃ e, e ≠ 'u' ∧ 32 ≤ e.toNat ∧ escaped? e = some c ∧ writeChar c = ['\\', e]) ∨
    (c.toNat < 32 ∧ writeChar c = codeEscape c.toNat) ∨
    (c ≠ '"' ∧ c ≠ '\\' ∧ 32 ≤ c.toNat ∧ writeChar c = [c]) := by
  have hletter : ∀ e x : Char, c = x → e ≠ 'u' ∧ 32 ≤ e.toNat ∧ escaped? e = some x →
      writeChar x = ['\\', e] →
      ∃ e, e ≠ 'u' ∧ 32 ≤ e.toNat ∧ escaped? e = some c ∧ writeChar c = ['\\', e] := by
    rintro e x rfl ⟨hu, hlow, he⟩ hw
    exact ⟨e, hu, hlow, he, hw⟩
  by_cases hq : c = '"'
  · exact Or.inl (hletter '"' _ hq (by decide) (by decide))
  by_cases hb : c = '\\'
  · exact Or.inl (hletter '\\' _ hb (by decide) (by decide))
  by_cases h8 : c = '\x08'
  · exact Or.inl (hletter 'b' _ h8 (by decide) (by decide))
  by_cases ht : c = '\t'
  · exact Or.inl (hletter 't' _ ht (by decide) (by decide))
  by_cases hn : c = '\n'
  · exact Or.inl (hletter 'n' _ hn (by decide) (by decide))
  by_cases hf : c = '\x0c'
  · exact Or.inl (hletter 'f' _ hf (by decide) (by decide))
  by_cases hr : c = '\r'
  · exact Or.inl (hletter 'r' _ hr (by decide) (by decide))
  right
  have hrest : writeChar c = if c.toNat < 32 then codeEscape c.toNat else [c] := by
    simp only [writeChar, hq, hb, h8, ht, hn, hf, hr, if_false]
  by_cases hc : c.toNat < 32
  · exact Or.inl ⟨hc, by rw [hrest, if_pos hc]⟩
  · exact Or.inr ⟨hq, hb, Nat.le_of_not_lt hc, by rw [hrest, if_neg hc]⟩

theorem hexQuad?_code {n : Nat} (h : n < 32) :
    hexQuad? '0' '0' (Nat.digitChar (n / 16)) (Nat.digitChar (n % 16)) = some n := by
  revert n
  decide

theorem stringBody_letter {e c : Char} (hu : e ≠ 'u') (h : escaped? e = some c)
    (rest : List Char) :
    stringBody ('\\' :: e :: rest) = (stringBody rest).map fun (s, more) => (c :: s, more) := by
  rw [stringBody.eq_4 _ _ (by simp [hu]), h]

theorem stringBody_code {n : Nat} (h : n < 32) (rest : List Char) :
    stringBody (codeEscape n ++ rest) =
      (stringBody rest).map fun (s, more) => (Char.ofNat n :: s, more) := by
  have hlow : isLowSurrogate n = false := by
    simp only [isLowSurrogate, Bool.and_eq_false_iff, decide_eq_false_iff_not]
    omega
  have hhigh : isHighSurrogate n = false := by
    simp only [isHighSurrogate, Bool.and_eq_false_iff, decide_eq_false_iff_not]
    omega
  simp only [codeEscape, List.cons_append, List.nil_append]
  rw [stringBody]
  simp [hexQuad?_code h, hlow, hhigh]

theorem stringBody_plain {c : Char} (hq : c ≠ '"') (hb : c ≠ '\\') (hc : 32 ≤ c.toNat)
    (rest : List Char) :
    stringBody (c :: rest) = (stringBody rest).map fun (s, more) => (c :: s, more) := by
  have hplain : ¬ (c = '\\' ∨ c.toNat < 32) := by
    simp only [hb, false_or]
    omega
  rw [stringBody.eq_5 _ _ hq (fun _ _ _ _ _ h _ => hb h) (fun _ _ h _ => hb h), if_neg hplain]

/-- **A character that is written is read back**, whatever follows it. -/
theorem stringBody_writeChar (c : Char) (rest : List Char) :
    stringBody (writeChar c ++ rest) = (stringBody rest).map fun (s, more) => (c :: s, more) := by
  rcases writeChar_cases c with ⟨e, hu, -, he, hw⟩ | ⟨hc, hw⟩ | ⟨hq, hb, hc, hw⟩
  · rw [hw]
    exact stringBody_letter hu he rest
  · rw [hw, stringBody_code hc, Char.ofNat_toNat]
  · rw [hw]
    exact stringBody_plain hq hb hc rest

/-! ### Strings -/

/-- **A string ends at its own last quote.** -/
theorem stringBody_flatMap (cs rest : List Char) :
    stringBody (cs.flatMap writeChar ++ '"' :: rest) = some (cs, rest) := by
  induction cs with
  | nil => simp [stringBody]
  | cons c cs ih =>
    rw [List.flatMap_cons, List.append_assoc, stringBody_writeChar, ih]
    rfl

theorem writeString_append (s : String) (rest : List Char) :
    writeString s ++ rest = '"' :: (s.toList.flatMap writeChar ++ '"' :: rest) := by
  simp [writeString]

theorem readString_writeString (expected s : String) (rest : List Char) :
    readString expected (writeString s ++ rest) = .ok (s, rest) := by
  rw [writeString_append, readString, skipBlanks_cons (by decide)]
  simp only [stringBody_flatMap, String.ofList_toList]

theorem reads_readString (expected s : String) : Reads (readString expected) (writeString s) s :=
  fun rest _ => readString_writeString expected s rest

/-! ### Strings that nobody looks at -/

/-- A character that is written is passed over. -/
theorem stringEnd_writeChar (c : Char) (rest : List Char) :
    stringEnd (writeChar c ++ rest) = stringEnd rest := by
  rcases writeChar_cases c with ⟨e, hu, -, he, hw⟩ | ⟨hc, hw⟩ | ⟨hq, hb, hc, hw⟩
  · rw [hw, List.cons_append, List.singleton_append, stringEnd.eq_4 _ _ (by simp [hu]), he]
    rfl
  · rw [hw, codeEscape]
    simp only [List.cons_append, List.nil_append]
    rw [stringEnd, hexQuad?_code hc]
    rfl
  · have hplain : ¬ (c = '\\' ∨ c.toNat < 32) := by
      simp only [hb, false_or]
      omega
    rw [hw, List.singleton_append,
      stringEnd.eq_5 _ _ hq (fun _ _ _ _ _ h _ => hb h) (fun _ _ h _ => hb h), if_neg hplain]

theorem stringEnd_flatMap (cs rest : List Char) :
    stringEnd (cs.flatMap writeChar ++ '"' :: rest) = some rest := by
  induction cs with
  | nil => simp [stringEnd]
  | cons c cs ih => rw [List.flatMap_cons, List.append_assoc, stringEnd_writeChar, ih]

/-! ### No controls -/

/-- No control character is in a text, least of all the end of a line. -/
def NoControl (text : List Char) : Prop := ∀ d ∈ text, 32 ≤ d.toNat

instance (text : List Char) : Decidable (NoControl text) := List.decidableBAll _ text

theorem noControl_append {s t : List Char} : NoControl (s ++ t) ↔ NoControl s ∧ NoControl t := by
  simp only [NoControl, List.mem_append, or_imp, forall_and]

theorem noControl_cons {c : Char} {s : List Char} :
    NoControl (c :: s) ↔ 32 ≤ c.toNat ∧ NoControl s := by
  simp only [NoControl, List.mem_cons, forall_eq_or_imp]

theorem noControl_nil : NoControl [] := by simp [NoControl]

theorem noControl_codeEscape : ∀ n < 32, NoControl (codeEscape n) := by decide

/-- **Controls are not written** as they are. -/
theorem noControl_writeChar (c : Char) : NoControl (writeChar c) := by
  rcases writeChar_cases c with ⟨e, -, he, -, hw⟩ | ⟨hc, hw⟩ | ⟨-, -, hc, hw⟩
  · rw [hw]
    exact noControl_cons.mpr ⟨by decide, noControl_cons.mpr ⟨he, noControl_nil⟩⟩
  · rw [hw]
    exact noControl_codeEscape _ hc
  · rw [hw]
    exact noControl_cons.mpr ⟨hc, noControl_nil⟩

theorem noControl_writeString (s : String) : NoControl (writeString s) := by
  refine noControl_append.mpr ⟨noControl_cons.mpr ⟨by decide, ?_⟩, by simp [NoControl]⟩
  intro d hd
  obtain ⟨c, -, hc⟩ := List.mem_flatMap.mp hd
  exact noControl_writeChar c d hc

end Baseline.Json
