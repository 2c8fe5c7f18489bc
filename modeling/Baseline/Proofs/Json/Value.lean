import Baseline.Proofs.Json.Nested
import Baseline.Proofs.Json.Number

/-!
# Values in JSON

A reader takes any value that is not nested too deep and has no number past the largest
double (`Value.Within`).  Flags and texts are read back as they are (`reads_scalar`); of
other values it is enough here that they are read back as something (`Value.readBack`,
`reads_readBack`), or passed over when nobody looks at them (`reads_skipValue`).
-/

namespace Baseline.Json

/-- A value with at most `depth` arrays and objects inside each other, whose numbers are all such
as the reader takes. -/
inductive Value.Within : Nat → Value → Prop
  | null {depth : Nat} : Within depth .null
  | bool {depth : Nat} (b : Bool) : Within depth (.bool b)
  | number {depth : Nat} {n : Number} (h : n.Readable) : Within depth (.number n)
  | string {depth : Nat} (s : String) : Within depth (.string s)
  | array {depth : Nat} {vs : List Value} (h : ∀ v ∈ vs, Within depth v) :
    Within (depth + 1) (.array vs)
  | object {depth : Nat} {ms : List (String × Value)} (h : ∀ m ∈ ms, Within depth m.2) :
    Within (depth + 1) (.object ms)

namespace Value.Within

variable {depth depth' : Nat} {v : Value}

theorem mono (h : v.Within depth) (hd : depth ≤ depth') : v.Within depth' := by
  induction h generalizing depth' with
  | null => exact .null
  | bool b => exact .bool b
  | number h => exact .number h
  | string s => exact .string s
  | array _ ih =>
    obtain ⟨depth', rfl⟩ := Nat.exists_eq_add_one.mpr (Nat.zero_lt_of_lt hd)
    exact .array fun v hv => ih v hv (Nat.le_of_succ_le_succ hd)
  | object _ ih =>
    obtain ⟨depth', rfl⟩ := Nat.exists_eq_add_one.mpr (Nat.zero_lt_of_lt hd)
    exact .object fun m hm => ih m hm (Nat.le_of_succ_le_succ hd)

theorem of_array {vs : List Value} (h : (Value.array vs).Within depth) :
    ∃ inner, depth = inner + 1 ∧ ∀ v ∈ vs, v.Within inner := by
  cases h with
  | array h => exact ⟨_, rfl, h⟩

theorem of_object {ms : List (String × Value)} (h : (Value.object ms).Within depth) :
    ∃ inner, depth = inner + 1 ∧ ∀ m ∈ ms, m.2.Within inner := by
  cases h with
  | object h => exact ⟨_, rfl, h⟩

end Value.Within

/-! ### How values begin -/

theorem exists_cons_of_readNumber {n m : Number} (h : readNumber n.write = .ok (m, [])) :
    ∃ c more, n.write = c :: more ∧ (c = '-' ∨ c.isDigit = true) := by
  obtain ⟨t, ht, -⟩ := readNumber_eq_ok.mp h
  exact exists_cons_of_numberText ht

/-- What begins a number begins nothing else. -/
theorem ne_of_number {c d : Char} (h : c = '-' ∨ c.isDigit = true)
    (hd : ¬ (d = '-' ∨ d.isDigit = true)) : c ≠ d := fun he => hd (he ▸ h)

theorem begins_write {depth : Nat} {v : Value} (h : v.Within depth) : Begins v.write := by
  cases h with
  | null => exact begins_cons (by decide) (by decide) _
  | bool b => cases b <;> exact begins_cons (by decide) (by decide) _
  | number h =>
    obtain ⟨m, hm⟩ := h
    obtain ⟨c, more, hwrite, hc⟩ := exists_cons_of_readNumber hm
    exact ⟨c, more, hwrite, isBlank_of_number hc, ne_of_number hc (by decide)⟩
  | string s => exact begins_cons (by decide) (by decide) _
  | array => exact begins_cons (by decide) (by decide) _
  | object => exact begins_cons (by decide) (by decide) _

theorem write_array (vs : List Value) :
    (Value.array vs).write = '[' :: (elementsText Value.write vs ++ [']']) := by
  rw [Value.write, writeElements_eq]
  rfl

theorem write_array_append (vs : List Value) (rest : List Char) :
    (Value.array vs).write ++ rest = '[' :: (elementsText Value.write vs ++ ']' :: rest) := by
  rw [write_array, List.cons_append, List.append_assoc, List.singleton_append]

/-- Members with the texts of their values. -/
def memberTexts (ms : List (String × Value)) : List (String × List Char) :=
  ms.map fun m => (m.1, m.2.write)

theorem write_object (ms : List (String × Value)) :
    (Value.object ms).write = '\x7b' :: (membersText (memberTexts ms) ++ ['\x7d']) := by
  rw [Value.write, writeMembers_eq]
  rfl

theorem write_object_append (ms : List (String × Value)) (rest : List Char) :
    (Value.object ms).write ++ rest =
      '\x7b' :: (membersText (memberTexts ms) ++ '\x7d' :: rest) := by
  rw [write_object, List.cons_append, List.append_assoc, List.singleton_append]

theorem noControl_array {vs : List Value} (h : ∀ v ∈ vs, NoControl v.write) :
    NoControl (Value.array vs).write := by
  rw [write_array]
  exact noControl_cons.mpr ⟨by decide, noControl_append.mpr
    ⟨noControl_elementsText h, by simp [NoControl]⟩⟩

theorem noControl_object {ms : List (String × Value)} (h : ∀ m ∈ ms, NoControl m.2.write) :
    NoControl (Value.object ms).write := by
  rw [write_object]
  refine noControl_cons.mpr ⟨by decide, noControl_append.mpr
    ⟨noControl_membersText fun m hm => ?_, by simp [NoControl]⟩⟩
  obtain ⟨n, hn, rfl⟩ := List.mem_map.mp hm
  exact h n hn

/-! ### Reading values -/

/-- A value that is a flag or a text. -/
def Value.IsScalar : Value → Prop
  | .bool _ | .string _ => True
  | _ => False

theorem Value.IsScalar.within {v : Value} (h : v.IsScalar) (depth : Nat) : v.Within depth := by
  cases v with
  | bool b => exact .bool b
  | string s => exact .string s
  | null | number | array | object => exact h.elim

/-- **A flag or a text is read back** as it is. -/
theorem reads_scalar {v : Value} (h : v.IsScalar) (depth : Nat) :
    Reads (readValue (depth + 1)) v.write v := by
  intro rest _
  cases v with
  | bool b => cases b <;> rfl
  | string s =>
    rw [Value.write, writeString_append, readValue, skipBlanks_cons (by decide)]
    simp [readScalar, stringBody_flatMap]
  | null | number | array | object => exact h.elim

theorem reads_number {n m : Number} (h : readNumber n.write = .ok (m, [])) (depth : Nat) :
    Reads (readValue (depth + 1)) n.write (.number m) := by
  intro rest hr
  have hread := readNumber_append hr n.write
  obtain ⟨c, more, hwrite, hc⟩ := exists_cons_of_readNumber h
  rw [h, hwrite, List.cons_append] at hread
  have hne := fun d => ne_of_number (d := d) hc
  rw [hwrite, List.cons_append, readValue, skipBlanks_cons (isBlank_of_number hc)]
  simp only [readScalar, if_neg (hne '[' (by decide)), if_neg (hne '\x7b' (by decide)),
    if_neg (hne 'n' (by decide)), if_neg (hne 't' (by decide)), if_neg (hne 'f' (by decide)),
    if_neg (hne '"' (by decide)), if_pos hc, hread]
  rfl

/-- One more member of an object. -/
def valueMember (depth : Nat) (ms : List (String × Value)) (name : String) :
    Reader (List (String × Value)) := fun s =>
  match colon s with
  | .error e => .error e
  | .ok (_, s) => (readValue depth s).map fun (v, more) => (ms ++ [(name, v)], more)

theorem readValue_array (depth : Nat) (s : List Char) :
    readValue (depth + 2) ('[' :: s) =
      match elements (readValue (depth + 1)) (s.length + 1) true s with
      | .error e => .error e
      | .ok (vs, more) => (endSequence more).map fun (_, more) => (.array vs, more) := rfl

theorem readValue_object (depth : Nat) (s : List Char) :
    readValue (depth + 2) ('\x7b' :: s) =
      match members (valueMember (depth + 1)) (s.length + 1) true [] s with
      | .error e => .error e
      | .ok (ms, more) => (endObject more).map fun (_, more) => (.object ms, more) := rfl

/-- What a value is read back as; a number may be rounded. -/
def Value.readBack (depth : Nat) (v : Value) : Value :=
  match readValue depth v.write with
  | .ok (w, _) => w
  | .error _ => v

theorem readBack_eq {depth : Nat} {v w : Value} (h : Reads (readValue depth) v.write w) :
    v.readBack depth = w := by
  have hread := h [] ends_nil
  rw [List.append_nil] at hread
  rw [Value.readBack, hread]

theorem readBack_scalar {v : Value} (h : v.IsScalar) (depth : Nat) :
    v.readBack (depth + 1) = v := readBack_eq (reads_scalar h depth)

theorem reads_array {depth : Nat} {vs ws : List Value}
    (h : List.Forall₂ (fun v w => Begins v.write ∧ Reads (readValue (depth + 1)) v.write w) vs ws) :
    Reads (readValue (depth + 2)) (Value.array vs).write (.array ws) := by
  intro rest _
  rw [write_array_append, readValue_array, elements_array h]
  simp only [endSequence_cons]
  rfl

theorem reads_valueMember {depth : Nat} {v w : Value} (h : Reads (readValue depth) v.write w)
    (ms : List (String × Value)) (name : String) :
    Reads (valueMember depth ms name) (':' :: v.write) (ms ++ [(name, w)]) := by
  intro rest hrest
  simp only [valueMember, List.cons_append, colon_cons, h rest hrest]
  rfl

/-- Members as they are read back. -/
def membersBack (depth : Nat) (ms : List (String × Value)) : List (String × Value) :=
  ms.map fun m => (m.1, m.2.readBack depth)

/-- **Members are collected** one after the other, whatever has been collected before. -/
theorem folds_collect {σ : Type} {step : σ → String → Reader σ}
    {state : List (String × Value) → σ} {f : String × Value → String × Value}
    {ms : List (String × Value)}
    (h : ∀ m ∈ ms, ∀ sofar, Reads (step (state sofar) m.1) (':' :: m.2.write)
      (state (sofar ++ [f m]))) (sofar : List (String × Value)) :
    Folds step (state sofar) (memberTexts ms) (state (sofar ++ ms.map f)) := by
  induction ms generalizing sofar with
  | nil =>
    rw [List.map_nil, List.append_nil]
    exact .nil _
  | cons m ms ih =>
    have hlater := ih (fun n hn => h n (List.mem_cons_of_mem _ hn)) (sofar ++ [f m])
    rw [List.append_assoc] at hlater
    exact .cons (h m List.mem_cons_self sofar) hlater

theorem folds_valueMember {depth : Nat} {ms : List (String × Value)}
    (h : ∀ m ∈ ms, Reads (readValue depth) m.2.write (m.2.readBack depth)) :
    Folds (valueMember depth) [] (memberTexts ms) (membersBack depth ms) :=
  folds_collect (fun m hm sofar => reads_valueMember (h m hm) sofar m.1) []

theorem reads_object {depth : Nat} {ms : List (String × Value)}
    (h : ∀ m ∈ ms, Reads (readValue (depth + 1)) m.2.write (m.2.readBack (depth + 1))) :
    Reads (readValue (depth + 2)) (Value.object ms).write
      (.object (membersBack (depth + 1) ms)) := by
  intro rest _
  rw [write_object_append, readValue_object, members_object (folds_valueMember h)]
  simp only [endObject_cons]
  rfl

/-- **A value within the limits is read back** as something. -/
theorem reads_readBack {depth : Nat} {v : Value} (h : v.Within depth) :
    Reads (readValue (depth + 1)) v.write (v.readBack (depth + 1)) := by
  suffices hw : ∃ w, Reads (readValue (depth + 1)) v.write w by
    obtain ⟨w, hw⟩ := hw
    rwa [readBack_eq hw]
  induction h with
  | @null depth => exact ⟨.null, fun _ _ => rfl⟩
  | bool b => exact ⟨_, reads_scalar (v := .bool b) trivial _⟩
  | number h =>
    obtain ⟨m, hm⟩ := h
    exact ⟨_, reads_number hm _⟩
  | string s => exact ⟨_, reads_scalar (v := .string s) trivial _⟩
  | @array depth vs hvs ih =>
    refine ⟨.array (vs.map (Value.readBack (depth + 1))), reads_array ?_⟩
    refine List.forall₂_map_right_iff.mpr (List.forall₂_same.mpr fun v hv => ?_)
    obtain ⟨w, hw⟩ := ih v hv
    exact ⟨begins_write (hvs v hv), (readBack_eq hw).symm ▸ hw⟩
  | @object depth ms hms ih =>
    refine ⟨_, reads_object fun m hm => ?_⟩
    obtain ⟨w, hw⟩ := ih m hm
    exact (readBack_eq hw).symm ▸ hw

/-! ### Passing over values -/

theorem skipName_first (name : String) (text rest : List Char) :
    skipName true (memberText name text ++ rest) = .ok (some (), text ++ rest) := by
  rw [memberText, List.append_assoc, List.cons_append, writeString_append, skipName,
    skipBlanks_cons (by decide)]
  simp only [Char.reduceEq, if_false, if_true, stringEnd_flatMap, colon_cons]
  rfl

theorem skipName_comma (name : String) (text rest : List Char) :
    skipName false (',' :: (memberText name text ++ rest)) = .ok (some (), text ++ rest) := by
  rw [memberText, List.append_assoc, List.cons_append, writeString_append, skipName,
    skipBlanks_cons (by decide)]
  simp only [Char.reduceEq, if_false, if_true, Bool.false_eq_true,
    skipBlanks_cons (c := '"') (by decide), stringEnd_flatMap, colon_cons]
  rfl

theorem skipName_close (first : Bool) (rest : List Char) :
    skipName first ('\x7d' :: rest) = .ok (none, '\x7d' :: rest) := by
  rw [skipName, skipBlanks_cons (by decide)]
  rfl

section Skip

variable {item : Reader Unit} {ms : List (String × List Char)}

theorem skipMembers_of_next {bound : Nat} {first : Bool} {s rest more : List Char}
    (hname : skipName first s = .ok (some (), rest)) (hitem : item rest = .ok ((), more)) :
    skipMembers item (bound + 1) first s = skipMembers item bound false more := by
  simp only [skipMembers, hname, hitem]

theorem skipMembers_behindCommas (h : ∀ m ∈ ms, Reads item m.2 ()) {bound : Nat}
    (hbound : ms.length < bound) (rest : List Char) :
    skipMembers item bound false
        (behindCommas (ms.map fun m => memberText m.1 m.2) ++ '\x7d' :: rest) =
      .ok ((), '\x7d' :: rest) := by
  induction ms generalizing bound with
  | nil =>
    obtain ⟨bound, rfl⟩ := Nat.exists_eq_add_one.mpr hbound
    simp [skipMembers, behindCommas, skipName_close]
  | cons m ms ih =>
    obtain ⟨bound, rfl⟩ := Nat.exists_eq_add_one.mpr (Nat.zero_lt_of_lt hbound)
    have hrest := ends_behindCommas (Or.inr (Or.inr rfl))
      (ms.map fun m => memberText m.1 m.2) rest
    rw [List.map_cons, behindCommas_cons, List.cons_append, List.append_assoc,
      skipMembers_of_next (skipName_comma m.1 m.2 _) (h m (by simp) _ hrest)]
    exact ih (fun n hn => h n (by simp [hn])) (Nat.lt_of_succ_lt_succ hbound)

/-- **An object is passed over** when the values of its members are. -/
theorem skipMembers_object (h : ∀ m ∈ ms, Reads item m.2 ()) (rest : List Char) :
    skipMembers item ((membersText ms ++ '\x7d' :: rest).length + 1) true
      (membersText ms ++ '\x7d' :: rest) = .ok ((), '\x7d' :: rest) := by
  have hlength := length_membersText ms
  cases ms with
  | nil => simp [skipMembers, membersText, skipName_close]
  | cons m ms =>
    have hrest := ends_behindCommas (Or.inr (Or.inr rfl))
      (ms.map fun m => memberText m.1 m.2) rest
    simp only [List.length_append]
    rw [membersText, List.append_assoc,
      skipMembers_of_next (skipName_first m.1 m.2 _) (h m (by simp) _ hrest)]
    refine skipMembers_behindCommas (fun n hn => h n (by simp [hn])) ?_ rest
    rw [List.length_cons, membersText, List.length_append] at hlength
    simp only [List.length_append]
    omega

end Skip

theorem skipNested_array (bound : Nat) (s : List Char) :
    skipNested (bound + 1) ('[' :: s) =
      match elements (skipNested bound) (s.length + 1) true s with
      | .error e => .error e
      | .ok (_, more) => endSequence more := rfl

theorem skipNested_object (bound : Nat) (s : List Char) :
    skipNested (bound + 1) ('\x7b' :: s) =
      match skipMembers (skipNested bound) (s.length + 1) true s with
      | .error e => .error e
      | .ok (_, more) => endObject more := rfl

theorem reads_skipNumber {n m : Number} (h : readNumber n.write = .ok (m, [])) (bound : Nat) :
    Reads (skipNested (bound + 1)) n.write () := by
  intro rest hr
  obtain ⟨t, ht, -⟩ := readNumber_eq_ok.mp h
  have htext := numberText_append hr n.write
  obtain ⟨c, more, hwrite, hc⟩ := exists_cons_of_readNumber h
  rw [ht, hwrite, List.cons_append] at htext
  have hne := fun d => ne_of_number (d := d) hc
  rw [hwrite, List.cons_append, skipNested, skipBlanks_cons (isBlank_of_number hc)]
  simp only [if_neg (hne '[' (by decide)), if_neg (hne '\x7b' (by decide)),
    if_neg (hne 'n' (by decide)), if_neg (hne 't' (by decide)), if_neg (hne 'f' (by decide)),
    if_neg (hne '"' (by decide)), if_pos hc, htext]
  rfl

/-- **A value within the limits is passed over**, as its depth is less than its length. -/
theorem reads_skipNested {depth : Nat} {v : Value} (h : v.Within depth) {bound : Nat}
    (hbound : v.write.length ≤ bound) : Reads (skipNested (bound + 1)) v.write () := by
  -- a nested value is shorter by the brackets around it, and so is what bounds its depth
  induction h generalizing bound with
  | null => exact fun _ _ => rfl
  | bool b => cases b <;> exact fun _ _ => rfl
  | number h =>
    obtain ⟨m, hm⟩ := h
    exact reads_skipNumber hm bound
  | string s =>
    intro rest _
    rw [Value.write, writeString_append, skipNested, skipBlanks_cons (by decide)]
    simp only [Char.reduceEq, if_false, if_true, stringEnd_flatMap]
  | @array depth vs hvs ih =>
    intro rest _
    rw [write_array, List.length_cons, List.length_append, List.length_singleton] at hbound
    obtain ⟨bound, rfl⟩ := Nat.exists_eq_add_one.mpr (Nat.zero_lt_of_lt hbound)
    have hitems : List.Forall₂ (fun v (_ : Unit) =>
        Begins v.write ∧ Reads (skipNested (bound + 1)) v.write ()) vs (vs.map fun _ => ()) := by
      refine List.forall₂_map_right_iff.mpr (List.forall₂_same.mpr fun v hv =>
        ⟨begins_write (hvs v hv), ih v hv ?_⟩)
      have hle : v.write.length ≤ (elementsText Value.write vs).length := length_le_elementsText hv
      omega
    rw [write_array_append, skipNested_array, elements_array hitems]
    simp only [endSequence_cons]
  | @object depth ms hms ih =>
    intro rest _
    rw [write_object, List.length_cons, List.length_append, List.length_singleton] at hbound
    obtain ⟨bound, rfl⟩ := Nat.exists_eq_add_one.mpr (Nat.zero_lt_of_lt hbound)
    have hitems : ∀ m ∈ memberTexts ms, Reads (skipNested (bound + 1)) m.2 () := by
      intro m hm
      obtain ⟨n, hn, rfl⟩ := List.mem_map.mp hm
      have hle : n.2.write.length ≤ (membersText (memberTexts ms)).length := length_le_membersText hm
      exact ih n hn (by omega)
    rw [write_object_append, skipNested_object, skipMembers_object hitems]
    simp only [endObject_cons]

/-- **A value that nobody looks at** is passed over. -/
theorem reads_skipValue {depth : Nat} {v : Value} (h : v.Within depth) :
    Reads skipValue v.write () := fun rest hrest =>
  reads_skipNested h (List.length_append ▸ Nat.le_add_right _ _) rest hrest

/-! ### Members in any order -/

/-- The members of an object: its fields in any order, among others that have other names. -/
def Extends (fields ms : List (String × Value)) : Prop :=
  ∃ others, ms.Perm (fields ++ others) ∧ ∀ m ∈ others, m.1 ∉ fields.map Prod.fst

theorem Extends.refl (fields : List (String × Value)) : Extends fields fields :=
  ⟨[], by simp, by simp⟩

namespace Extends

variable {fields ms : List (String × Value)}

theorem subset (h : Extends fields ms) : fields ⊆ ms := by
  obtain ⟨others, hperm, -⟩ := h
  exact fun m hm => hperm.mem_iff.mpr (List.mem_append_left _ hm)

/-- Among the members only the fields have their names. -/
theorem mem_of_name (h : Extends fields ms) {m : String × Value} (hm : m ∈ ms)
    (hname : m.1 ∈ fields.map Prod.fst) : m ∈ fields := by
  obtain ⟨others, hperm, hothers⟩ := h
  exact (List.mem_append.mp (hperm.mem_iff.mp hm)).resolve_right fun hother =>
    hothers m hother hname

/-- Among the members no two have the same name of a field. -/
theorem pairwise (h : Extends fields ms) (hnodup : (fields.map Prod.fst).Nodup) :
    ms.Pairwise fun m n => m.1 = n.1 → m.1 ∉ fields.map Prod.fst := by
  obtain ⟨others, hperm, hothers⟩ := h
  refine (hperm.pairwise_iff fun hmn he => he ▸ hmn he.symm).mpr (List.pairwise_append.mpr
    ⟨?_, ?_, ?_⟩)
  · exact (List.pairwise_map.mp hnodup).imp fun hne he => absurd he hne
  · exact List.pairwise_of_forall_mem_list fun m hm n _ _ => hothers m hm
  · exact fun m hm n hn he => absurd (he ▸ List.mem_map_of_mem hm) (hothers n hn)

/-- Among the members the fields are those that have their names. -/
theorem filter (h : Extends fields ms) :
    (ms.filter fun m => m.1 ∈ fields.map Prod.fst).Perm fields := by
  obtain ⟨others, hperm, hothers⟩ := h
  have hnone : others.filter (fun m => m.1 ∈ fields.map Prod.fst) = [] :=
    List.filter_eq_nil_iff.mpr fun m hm => by simpa using hothers m hm
  have hall : fields.filter (fun m => m.1 ∈ fields.map Prod.fst) = fields :=
    List.filter_eq_self.mpr fun m hm => by simpa using ⟨m.2, hm⟩
  have hfilter := hperm.filter fun m => m.1 ∈ fields.map Prod.fst
  rwa [List.filter_append, hall, hnone, List.append_nil] at hfilter

end Extends

end Baseline.Json
