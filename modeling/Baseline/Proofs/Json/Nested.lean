import Mathlib.Data.List.Forall2
import Baseline.Proofs.Json.Text

/-!
# Arrays and objects in JSON

Elements and members are written with commas between them, and a reader goes from
one to the next at its comma.  So an array is read back as soon as its elements are
(`elements_write`), and an object as soon as each of its members takes what was read
before it one step further (`Folds`, `members_of_folds`).
-/

namespace Baseline.Json

variable {α β σ : Type}

/-! ### Commas -/

/-- Texts with a comma in front of each. -/
def behindCommas (texts : List (List Char)) : List Char := texts.flatMap (',' :: ·)

@[simp] theorem behindCommas_cons (text : List Char) (texts : List (List Char)) :
    behindCommas (text :: texts) = ',' :: (text ++ behindCommas texts) := rfl

theorem length_behindCommas (texts : List (List Char)) :
    texts.length ≤ (behindCommas texts).length := by
  induction texts with
  | nil => simp
  | cons text texts ih =>
    simp only [behindCommas_cons, List.length_cons, List.length_append]
    omega

theorem length_le_behindCommas {text : List Char} {texts : List (List Char)}
    (h : text ∈ texts) : text.length ≤ (behindCommas texts).length := by
  obtain ⟨before, after, rfl⟩ := List.append_of_mem h
  simp only [behindCommas, List.flatMap_append, List.flatMap_cons, List.length_append,
    List.length_cons]
  omega

/-- What is behind a text with commas is a comma, or what is behind them all. -/
theorem ends_behindCommas {close : Char} (h : close = ',' ∨ close = ']' ∨ close = '\x7d')
    (texts : List (List Char)) (rest : List Char) :
    Ends (behindCommas texts ++ close :: rest) := by
  cases texts with
  | nil => exact ends_cons h rest
  | cons text texts => exact ends_cons (Or.inl rfl) _

theorem writeElements_cons (v : Value) (vs : List Value) :
    writeElements (v :: vs) = v.write ++ behindCommas (vs.map Value.write) := by
  induction vs generalizing v with
  | nil => simp [writeElements, behindCommas]
  | cons w vs ih =>
    rw [writeElements, ih, List.map_cons, behindCommas_cons]
    simp

/-- The text of a member: its name, a colon and the text of its value. -/
def memberText (name : String) (text : List Char) : List Char := writeString name ++ ':' :: text

theorem writeMembers_cons (m : String × Value) (ms : List (String × Value)) :
    writeMembers (m :: ms) =
      memberText m.1 m.2.write ++ behindCommas (ms.map fun m => memberText m.1 m.2.write) := by
  induction ms generalizing m with
  | nil => simp [writeMembers, memberText, behindCommas]
  | cons n ms ih =>
    rw [writeMembers, ih, List.map_cons, behindCommas_cons]
    · simp [memberText]
    · simp

/-! ### Arrays -/

/-- A text that does not begin with a blank or the end of an array. -/
def Begins (text : List Char) : Prop := ∃ c more, text = c :: more ∧ isBlank c = false ∧ c ≠ ']'

theorem begins_cons {c : Char} (hb : isBlank c = false) (hc : c ≠ ']') (more : List Char) :
    Begins (c :: more) := ⟨c, more, rfl, hb, hc⟩

section Elements

variable {item : Reader α} {write : β → List Char} {as : List α} {bs : List β}

theorem nextElement_first {text rest : List Char} {a : α} (hb : Begins text)
    (hr : item (text ++ rest) = .ok (a, rest)) :
    nextElement item true (text ++ rest) = .ok (some a, rest) := by
  obtain ⟨c, more, rfl, hblank, hc⟩ := hb
  simp only [List.cons_append] at hr ⊢
  rw [nextElement, skipBlanks_cons hblank]
  simp only [if_neg hc, if_true, hr]
  rfl

theorem nextElement_comma {text rest : List Char} {a : α} (hb : Begins text)
    (hr : item (text ++ rest) = .ok (a, rest)) :
    nextElement item false (',' :: (text ++ rest)) = .ok (some a, rest) := by
  obtain ⟨c, more, rfl, hblank, hc⟩ := hb
  simp only [List.cons_append] at hr ⊢
  rw [nextElement, skipBlanks_cons (by decide)]
  simp only [Char.reduceEq, if_false, if_true, Bool.false_eq_true, skipBlanks_cons hblank, hc, hr]
  rfl

theorem nextElement_close (item : Reader α) (first : Bool) (rest : List Char) :
    nextElement item first (']' :: rest) = .ok (none, ']' :: rest) := by
  rw [nextElement, skipBlanks_cons (by decide)]
  rfl

theorem elements_of_next {bound : Nat} {first : Bool} {s rest : List Char} {a : α}
    (h : nextElement item first s = .ok (some a, rest)) {as : List α} {more : List Char}
    (hlater : elements item bound false rest = .ok (as, more)) :
    elements item (bound + 1) first s = .ok (a :: as, more) := by
  simp only [elements, h, hlater]

theorem elements_behindCommas
    (h : List.Forall₂ (fun b a => Begins (write b) ∧ Reads item (write b) a) bs as) {bound : Nat}
    (hbound : bs.length < bound) (rest : List Char) :
    elements item bound false (behindCommas (bs.map write) ++ ']' :: rest) =
      .ok (as, ']' :: rest) := by
  induction h generalizing bound with
  | nil =>
    obtain ⟨bound, rfl⟩ := Nat.exists_eq_add_one.mpr hbound
    simp [elements, behindCommas, nextElement_close]
  | @cons b a bs as hfirst _ ih =>
    obtain ⟨bound, rfl⟩ := Nat.exists_eq_add_one.mpr (Nat.zero_lt_of_lt hbound)
    obtain ⟨hbegins, hreads⟩ := hfirst
    have hrest := ends_behindCommas (Or.inr (Or.inl rfl)) (bs.map write) rest
    rw [List.map_cons, behindCommas_cons, List.cons_append, List.append_assoc]
    exact elements_of_next (nextElement_comma hbegins (hreads _ hrest))
      (ih (Nat.lt_of_succ_lt_succ hbound))

/-- The text of an array without its brackets. -/
def elementsText (write : α → List Char) : List α → List Char
  | [] => []
  | a :: as => write a ++ behindCommas (as.map write)

theorem length_elementsText (h : ∀ b ∈ bs, Begins (write b)) :
    bs.length ≤ (elementsText write bs).length := by
  cases bs with
  | nil => simp
  | cons b bs =>
    obtain ⟨c, more, hc, -⟩ := h b (by simp)
    have := length_behindCommas (bs.map write)
    simp only [elementsText, hc, List.length_map, List.length_append, List.length_cons] at this ⊢
    omega

theorem elements_elementsText
    (h : List.Forall₂ (fun b a => Begins (write b) ∧ Reads item (write b) a) bs as) {bound : Nat}
    (hbound : bs.length < bound) (rest : List Char) :
    elements item bound true (elementsText write bs ++ ']' :: rest) = .ok (as, ']' :: rest) := by
  obtain ⟨bound, rfl⟩ := Nat.exists_eq_add_one.mpr (Nat.zero_lt_of_lt hbound)
  cases h with
  | nil => simp [elements, elementsText, nextElement_close]
  | @cons b a bs as hfirst hlater =>
    obtain ⟨hbegins, hreads⟩ := hfirst
    have hrest := ends_behindCommas (Or.inr (Or.inl rfl)) (bs.map write) rest
    rw [elementsText, List.append_assoc]
    exact elements_of_next (nextElement_first hbegins (hreads _ hrest))
      (elements_behindCommas hlater (Nat.lt_of_succ_lt_succ hbound) rest)

/-- **An array is read back** when its elements are. -/
theorem elements_array
    (h : List.Forall₂ (fun b a => Begins (write b) ∧ Reads item (write b) a) bs as)
    (rest : List Char) :
    elements item ((elementsText write bs ++ ']' :: rest).length + 1) true
      (elementsText write bs ++ ']' :: rest) = .ok (as, ']' :: rest) := by
  have hlength := length_elementsText ((List.forall₂_and_left _ _).mp h).1
  refine elements_elementsText h ?_ rest
  rw [List.length_append]
  omega

theorem length_le_elementsText {b : β} (hb : b ∈ bs) :
    (write b).length ≤ (elementsText write bs).length := by
  cases bs with
  | nil => simp at hb
  | cons c bs =>
    rw [elementsText, List.length_append]
    rcases List.mem_cons.mp hb with rfl | hb
    · omega
    · have hle : (write b).length ≤ (behindCommas (bs.map write)).length :=
        length_le_behindCommas (List.mem_map_of_mem hb)
      omega

end Elements

/-! ### Objects -/

theorem colon_cons (rest : List Char) : colon (':' :: rest) = .ok ((), rest) := by
  rw [colon, skipBlanks_cons (by decide)]
  simp [expect]

/-- The members in a row, each the text of a value under its name, take what has been read from
one state to another. -/
inductive Folds (step : σ → String → Reader σ) : σ → List (String × List Char) → σ → Prop
  | nil (acc : σ) : Folds step acc [] acc
  | cons {acc next last : σ} {name : String} {text : List Char} {ms : List (String × List Char)} :
    Reads (step acc name) (':' :: text) next → Folds step next ms last →
      Folds step acc ((name, text) :: ms) last

theorem Folds.append {step : σ → String → Reader σ} {acc next last : σ}
    {ms ns : List (String × List Char)} (h : Folds step acc ms next) (h' : Folds step next ns last) :
    Folds step acc (ms ++ ns) last := by
  induction h with
  | nil _ => exact h'
  | cons hreads _ ih => exact .cons hreads (ih h')

theorem nextName_first (name : String) (text rest : List Char) :
    nextName true (memberText name text ++ rest) = .ok (some name, ':' :: (text ++ rest)) := by
  rw [memberText, List.append_assoc, List.cons_append, writeString_append, nextName,
    skipBlanks_cons (by decide)]
  simp [stringBody_flatMap]

theorem nextName_comma (name : String) (text rest : List Char) :
    nextName false (',' :: (memberText name text ++ rest)) =
      .ok (some name, ':' :: (text ++ rest)) := by
  rw [memberText, List.append_assoc, List.cons_append, writeString_append, nextName,
    skipBlanks_cons (by decide)]
  simp [skipBlanks_cons (c := '"') (by decide), stringBody_flatMap]

theorem nextName_close (first : Bool) (rest : List Char) :
    nextName first ('\x7d' :: rest) = .ok (none, '\x7d' :: rest) := by
  rw [nextName, skipBlanks_cons (by decide)]
  rfl

/-- The text of an object without its braces. -/
def membersText : List (String × List Char) → List Char
  | [] => []
  | m :: ms => memberText m.1 m.2 ++ behindCommas (ms.map fun m => memberText m.1 m.2)

section Members

variable {step : σ → String → Reader σ} {acc last : σ}

theorem members_of_next {bound : Nat} {first : Bool} {s rest more : List Char} {name : String}
    {next : σ} (hname : nextName first s = .ok (some name, rest))
    (hstep : step acc name rest = .ok (next, more)) :
    members step (bound + 1) first acc s = members step bound false next more := by
  simp only [members, hname, hstep]

theorem members_behindCommas {ms : List (String × List Char)} (h : Folds step acc ms last)
    {bound : Nat} (hbound : ms.length < bound) (rest : List Char) :
    members step bound false acc
        (behindCommas (ms.map fun m => memberText m.1 m.2) ++ '\x7d' :: rest) =
      .ok (last, '\x7d' :: rest) := by
  induction h generalizing bound with
  | nil acc =>
    obtain ⟨bound, rfl⟩ := Nat.exists_eq_add_one.mpr hbound
    simp [members, behindCommas, nextName_close]
  | @cons acc next last name text ms hreads _ ih =>
    obtain ⟨bound, rfl⟩ := Nat.exists_eq_add_one.mpr (Nat.zero_lt_of_lt hbound)
    have hrest := ends_behindCommas (Or.inr (Or.inr rfl))
      (ms.map fun m => memberText m.1 m.2) rest
    rw [List.map_cons, behindCommas_cons, List.cons_append, List.append_assoc,
      members_of_next (nextName_comma name text _) (hreads _ hrest)]
    exact ih (Nat.lt_of_succ_lt_succ hbound)

theorem members_membersText {ms : List (String × List Char)} (h : Folds step acc ms last)
    {bound : Nat} (hbound : ms.length < bound) (rest : List Char) :
    members step bound true acc (membersText ms ++ '\x7d' :: rest) =
      .ok (last, '\x7d' :: rest) := by
  obtain ⟨bound, rfl⟩ := Nat.exists_eq_add_one.mpr (Nat.zero_lt_of_lt hbound)
  cases h with
  | nil => simp [members, membersText, nextName_close]
  | @cons _ next _ name text ms hreads hlater =>
    have hrest := ends_behindCommas (Or.inr (Or.inr rfl))
      (ms.map fun m => memberText m.1 m.2) rest
    rw [membersText, List.append_assoc,
      members_of_next (nextName_first name text _) (hreads _ hrest)]
    exact members_behindCommas hlater (Nat.lt_of_succ_lt_succ hbound) rest

theorem length_membersText (ms : List (String × List Char)) :
    ms.length ≤ (membersText ms).length := by
  cases ms with
  | nil => simp
  | cons m ms =>
    have := length_behindCommas (ms.map fun m => memberText m.1 m.2)
    simp only [membersText, memberText, List.length_map, List.length_append, List.length_cons]
      at this ⊢
    omega

/-- **An object is read back** when its members are, one after the other. -/
theorem members_object {ms : List (String × List Char)} (h : Folds step acc ms last)
    (rest : List Char) :
    members step ((membersText ms ++ '\x7d' :: rest).length + 1) true acc
      (membersText ms ++ '\x7d' :: rest) = .ok (last, '\x7d' :: rest) := by
  have hlength := length_membersText ms
  refine members_membersText h ?_ rest
  rw [List.length_append]
  omega

theorem length_le_membersText {m : String × List Char} {ms : List (String × List Char)}
    (hm : m ∈ ms) : m.2.length ≤ (membersText ms).length := by
  have hmember : ∀ m : String × List Char, m.2.length ≤ (memberText m.1 m.2).length := by
    intro m
    simp only [memberText, List.length_append, List.length_cons]
    omega
  cases ms with
  | nil => simp at hm
  | cons n ms =>
    rw [membersText, List.length_append]
    have hlength := hmember m
    rcases List.mem_cons.mp hm with rfl | hm
    · omega
    · have hle : (memberText m.1 m.2).length ≤
          (behindCommas (ms.map fun m => memberText m.1 m.2)).length :=
        length_le_behindCommas (List.mem_map.mpr ⟨m, hm, rfl⟩)
      omega

end Members

theorem endObject_cons (rest : List Char) : endObject ('\x7d' :: rest) = .ok ((), rest) := by
  rw [endObject, skipBlanks_cons (by decide)]
  simp [expect]

theorem endSequence_cons (rest : List Char) : endSequence (']' :: rest) = .ok ((), rest) := by
  rw [endSequence, skipBlanks_cons (by decide)]
  simp [expect]

/-! ### No controls -/

theorem noControl_behindCommas {texts : List (List Char)} (h : ∀ text ∈ texts, NoControl text) :
    NoControl (behindCommas texts) := by
  intro d hd
  obtain ⟨text, htext, hmem⟩ := List.mem_flatMap.mp hd
  exact noControl_cons.mpr ⟨by decide, h text htext⟩ d hmem

theorem noControl_elementsText {write : α → List Char} {as : List α}
    (h : ∀ a ∈ as, NoControl (write a)) : NoControl (elementsText write as) := by
  cases as with
  | nil => exact noControl_nil
  | cons a as =>
    refine noControl_append.mpr ⟨h a (by simp), noControl_behindCommas fun text htext => ?_⟩
    obtain ⟨b, hb, rfl⟩ := List.mem_map.mp htext
    exact h b (by simp [hb])

theorem noControl_membersText {ms : List (String × List Char)} (h : ∀ m ∈ ms, NoControl m.2) :
    NoControl (membersText ms) := by
  have hmember : ∀ m ∈ ms, NoControl (memberText m.1 m.2) := fun m hm =>
    noControl_append.mpr ⟨noControl_writeString m.1, noControl_cons.mpr ⟨by decide, h m hm⟩⟩
  cases ms with
  | nil => exact noControl_nil
  | cons m ms =>
    refine noControl_append.mpr ⟨hmember m (by simp), noControl_behindCommas fun text htext => ?_⟩
    obtain ⟨n, hn, rfl⟩ := List.mem_map.mp htext
    exact hmember n (by simp [hn])

/-! ### Values as texts -/

theorem writeElements_eq (vs : List Value) : writeElements vs = elementsText Value.write vs := by
  cases vs with
  | nil => rfl
  | cons v vs =>
    rw [elementsText]
    exact writeElements_cons v vs

theorem writeMembers_eq (ms : List (String × Value)) :
    writeMembers ms = membersText (ms.map fun m => (m.1, m.2.write)) := by
  cases ms with
  | nil => rfl
  | cons m ms =>
    rw [List.map_cons, membersText, writeMembers_cons, List.map_map]
    rfl

end Baseline.Json
