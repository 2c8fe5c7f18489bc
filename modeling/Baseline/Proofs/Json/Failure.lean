import Mathlib.Data.List.Permutation
import Baseline.Json.Failure
import Baseline.Proofs.Json.Value

/-!
# Failures in JSON, read back

A failure is written as an object of its kind and its fields, and its fields are
flags and texts (`scalar_fields`).  It is read back from any object that has these members,
in any order and among others (`Failure.reads_of_spelledBy`): the members are kept until all
are read, and only those that the kind asks for matter (`ofMembers_filter`).  And so is a
verdict, failure by failure (`Verdict.reads_of_spelledBy`).
-/

namespace Baseline

namespace Json

theorem noControl_scalar {v : Value} (h : v.IsScalar) : NoControl v.write := by
  cases v with
  | bool b => cases b <;> decide
  | string s => exact noControl_writeString s
  | null | number | array | object => exact h.elim

end Json

namespace Failure

open Json

/-! ### Kinds -/

theorem ofName?_name (k : Kind) : Kind.ofName? k.name = some k := by
  cases k <;> decide

theorem reads_readKind (k : Kind) : Reads readKind (writeString k.name) k := by
  intro rest _
  rw [readKind, readString_writeString]
  simp only [ofName?_name]

/-! ### Fields -/

theorem scalar_fields (f : Failure) : ∀ m ∈ f.fields, m.1 ≠ "kind" ∧ m.2.IsScalar := by
  cases f with
  | textMismatch | checksumMismatch => simp [fields, Value.IsScalar]
  | missingText | missingChecksum | missingImage | missingActualChecksum => simp [fields]

/-- The names of the fields of a kind. -/
def Kind.fieldNames : Kind → List String
  | .textMismatch => ["word_diff"]
  | .checksumMismatch => ["expected", "actual"]
  | _ => []

theorem map_fst_fields (f : Failure) : f.fields.map Prod.fst = f.kind.fieldNames := by
  cases f <;> rfl

theorem flagAmong_filter (ms : List (String × Value)) (sofar : Option Bool) :
    flagAmong (ms.filter fun m => m.1 ∈ Kind.textMismatch.fieldNames) sofar =
      flagAmong ms sofar := by
  induction ms generalizing sofar with
  | nil => rfl
  | cons m ms ih =>
    obtain ⟨k, v⟩ := m
    simp only [Kind.fieldNames, List.mem_singleton] at ih
    by_cases hk : k = "word_diff"
    · simp only [Kind.fieldNames, List.filter_cons, hk, List.mem_singleton, decide_true, if_true,
        flagAmong, ih]
    · simp only [Kind.fieldNames, List.filter_cons, hk, List.mem_singleton, decide_false,
        Bool.false_eq_true, if_false, flagAmong, ih]

theorem checksumsAmong_filter (ms : List (String × Value)) (expected actual : Option String) :
    checksumsAmong (ms.filter fun m => m.1 ∈ Kind.checksumMismatch.fieldNames) expected actual =
      checksumsAmong ms expected actual := by
  induction ms generalizing expected actual with
  | nil => cases expected <;> cases actual <;> rfl
  | cons m ms ih =>
    obtain ⟨k, v⟩ := m
    simp only [Kind.fieldNames, List.mem_cons, List.not_mem_nil, or_false] at ih
    by_cases hexpected : k = "expected"
    · simp only [Kind.fieldNames, List.filter_cons, hexpected, List.mem_cons, true_or, decide_true,
        if_true, checksumsAmong, List.not_mem_nil, or_false, ih]
    · by_cases hactual : k = "actual"
      · simp only [Kind.fieldNames, List.filter_cons, hactual, List.mem_cons, or_true, decide_true,
          if_true, checksumsAmong, List.not_mem_nil, or_false, ih]
      · simp only [Kind.fieldNames, List.filter_cons, hexpected, hactual, List.mem_cons,
          List.not_mem_nil, or_false, decide_false, Bool.false_eq_true, if_false, checksumsAmong,
          ih]

/-- **Only the fields of a kind matter** to a failure of that kind. -/
theorem ofMembers_filter (k : Kind) (ms : List (String × Value)) :
    ofMembers k (ms.filter fun m => m.1 ∈ k.fieldNames) = ofMembers k ms := by
  cases k with
  | textMismatch => exact flagAmong_filter ms none
  | checksumMismatch => exact checksumsAmong_filter ms none none
  | missingText | missingChecksum | missingImage | missingActualChecksum => rfl

/-- **A failure is made of its kind and its fields**, in any order. -/
theorem ofMembers_of_perm {f : Failure} {ms : List (String × Value)} (h : ms.Perm f.fields) :
    ofMembers f.kind ms = .ok f := by
  cases f with
  | textMismatch b =>
    obtain rfl := List.perm_singleton.mp h
    rfl
  | checksumMismatch expected actual =>
    -- both orders are read
    rcases List.perm_pair.mp h with rfl | rfl <;> rfl
  | missingText | missingChecksum | missingImage | missingActualChecksum => rfl

variable {depth : Nat}

theorem reads_readMember_kind (k : Kind) (ms : List (String × Value)) :
    Reads (readMember depth (none, ms) "kind") (':' :: writeString k.name) (some k, ms) := by
  intro rest hrest
  simp only [readMember, if_true, Option.isSome_none, Bool.false_eq_true, if_false,
    List.cons_append, colon_cons, bind, Except.bind, reads_readKind k rest hrest]
  rfl

theorem reads_readMember_field {m : String × Value} {w : Value} (hm : m.1 ≠ "kind")
    (hw : Reads (readValue depth) m.2.write w) (k : Option Kind) (ms : List (String × Value)) :
    Reads (readMember depth (k, ms) m.1) (':' :: m.2.write) (k, ms ++ [(m.1, w)]) := by
  intro rest hrest
  simp only [readMember, if_neg hm, List.cons_append, colon_cons, bind, Except.bind,
    hw rest hrest]
  rfl

theorem folds_fields {ms : List (String × Value)} (hname : ∀ m ∈ ms, m.1 ≠ "kind")
    (hread : ∀ m ∈ ms, Reads (readValue depth) m.2.write (m.2.readBack depth)) (k : Option Kind)
    (sofar : List (String × Value)) :
    Folds (readMember depth) (k, sofar) (memberTexts ms) (k, sofar ++ membersBack depth ms) :=
  folds_collect (fun m hm sofar => reads_readMember_field (hname m hm) (hread m hm) k sofar) sofar

/-! ### Failures -/

/-- The members of a failure: its kind and its fields. -/
def members (f : Failure) : List (String × Value) := ("kind", .string f.kind.name) :: f.fields

/-- An object that has the members of a failure, in any order and among others. -/
def SpelledBy (f : Failure) (v : Value) : Prop := ∃ ms, v = .object ms ∧ Extends f.members ms

theorem spelledBy_toJson (f : Failure) : f.SpelledBy f.toJson := ⟨f.members, rfl, .refl _⟩

theorem within_members (f : Failure) (depth : Nat) : ∀ m ∈ f.members, m.2.Within depth := by
  intro m hm
  rcases List.mem_cons.mp hm with rfl | hm
  · exact .string _
  · exact (f.scalar_fields m hm).2.within depth

theorem within_toJson (f : Failure) : f.toJson.Within 1 := .object (f.within_members 0)

theorem noControl_toJson (f : Failure) : NoControl f.toJson.write := by
  refine noControl_object fun m hm => ?_
  rcases List.mem_cons.mp hm with rfl | hm
  · exact noControl_writeString _
  · exact noControl_scalar (f.scalar_fields m hm).2

/-- The fields are found again among all that is read but the kind. -/
theorem ofMembers_membersBack {f : Failure} {ms : List (String × Value)}
    (h : Extends f.fields ms) : ofMembers f.kind (membersBack (depth + 1) ms) = .ok f := by
  have hback : membersBack (depth + 1) f.fields = f.fields :=
    (List.map_congr_left fun m hm => by
      rw [readBack_scalar (f.scalar_fields m hm).2]
      rfl).trans (List.map_id _)
  have hperm := h.filter.map fun m => (m.1, m.2.readBack (depth + 1))
  rw [map_fst_fields, ← membersBack, ← membersBack, hback] at hperm
  rw [← ofMembers_filter, membersBack, List.filter_map]
  exact ofMembers_of_perm hperm

/-- What comes before the kind is kept until the kind is known. -/
theorem folds_members {before after : List (String × Value)} {k : Kind}
    (hname : ∀ m ∈ before ++ after, m.1 ≠ "kind")
    (hread : ∀ m ∈ before ++ after, Reads (readValue depth) m.2.write (m.2.readBack depth)) :
    Folds (readMember depth) (none, []) (memberTexts (before ++ ("kind", .string k.name) :: after))
      (some k, membersBack depth (before ++ after)) := by
  have hbefore := folds_fields (fun m hm => hname m (List.mem_append_left _ hm))
    (fun m hm => hread m (List.mem_append_left _ hm)) none []
  have hafter := folds_fields (fun m hm => hname m (List.mem_append_right _ hm))
    (fun m hm => hread m (List.mem_append_right _ hm)) (some k) (membersBack depth before)
  have hall := hbefore.append (.cons (reads_readMember_kind k _) hafter)
  simpa only [memberTexts, membersBack, List.map_append, List.map_cons, List.nil_append,
    Value.write] using hall

/-- **A failure is read back** from any object that spells it. -/
theorem reads_of_spelledBy {f : Failure} {v : Value} (hf : f.SpelledBy v) (hv : v.Within depth) :
    Reads (read (depth + 1)) v.write f := by
  intro rest _
  obtain ⟨ms, rfl, others, hperm, hothers⟩ := hf
  obtain ⟨depth, rfl, hms⟩ := hv.of_object
  have hkind : ("kind", .string f.kind.name) ∈ ms := hperm.mem_iff.mpr (by simp [members])
  -- the kind stands anywhere, and what is kept around it is read by its kind at the end
  obtain ⟨before, after, rfl⟩ := List.append_of_mem hkind
  have hrest : (before ++ after).Perm (f.fields ++ others) :=
    (List.perm_middle.symm.trans hperm).cons_inv
  have hextends : Extends f.fields (before ++ after) :=
    ⟨others, hrest, fun m hm hmem => hothers m hm (List.mem_cons_of_mem _ hmem)⟩
  have hname : ∀ m ∈ before ++ after, m.1 ≠ "kind" := by
    intro m hm he
    rcases List.mem_append.mp (hrest.mem_iff.mp hm) with hfield | hother
    · exact (f.scalar_fields m hfield).1 he
    · exact hothers m hother (he ▸ List.mem_cons_self)
  have hread : ∀ m ∈ before ++ after,
      Reads (readValue (depth + 1)) m.2.write (m.2.readBack (depth + 1)) := fun m hm =>
    reads_readBack (hms m (List.perm_middle.symm.subset (List.mem_cons_of_mem _ hm)))
  rw [write_object_append, read, skipBlanks_cons (by decide)]
  simp only [true_or, if_true, if_neg (show ¬ depth + 1 + 1 ≤ 1 by omega), Nat.add_sub_cancel]
  rw [members_object (folds_members hname hread)]
  simp only [bind, Except.bind, endObject_cons, ofMembers_membersBack hextends]
  rfl

end Failure

namespace Verdict

open Json

/-- An array of objects that spell the failures of a verdict, in order. -/
def SpelledBy (v : Verdict) (json : Value) : Prop :=
  ∃ vs, json = .array vs ∧ List.Forall₂ Failure.SpelledBy v vs

theorem spelledBy_toJson (v : Verdict) : SpelledBy v (toJson v) :=
  ⟨_, rfl, List.forall₂_map_right_iff.mpr (List.forall₂_same.mpr fun f _ => f.spelledBy_toJson)⟩

theorem within_toJson (v : Verdict) : (toJson v).Within 2 := by
  refine .array fun w hw => ?_
  obtain ⟨f, -, rfl⟩ := List.mem_map.mp hw
  exact f.within_toJson

theorem noControl_toJson (v : Verdict) : NoControl (toJson v).write := by
  refine noControl_array fun w hw => ?_
  obtain ⟨f, -, rfl⟩ := List.mem_map.mp hw
  exact f.noControl_toJson

/-- **A verdict is read back** from any array that spells it. -/
theorem reads_of_spelledBy {depth : Nat} {v : Verdict} {json : Value} (hv : SpelledBy v json)
    (hjson : json.Within depth) : Reads (read (depth + 1)) json.write v := by
  intro rest _
  obtain ⟨vs, rfl, hspelled⟩ := hv
  obtain ⟨depth, rfl, hvs⟩ := hjson.of_array
  have hitems : List.Forall₂ (fun w f =>
      Begins w.write ∧ Reads (Failure.read (depth + 1)) w.write f) vs v :=
    ((List.forall₂_and_left vs v).mpr ⟨hvs, hspelled.flip⟩).imp fun w f h =>
      ⟨begins_write h.1, Failure.reads_of_spelledBy h.2 h.1⟩
  rw [write_array_append, read, skipBlanks_cons (by decide)]
  simp only [if_true, if_neg (show ¬ depth + 1 + 1 ≤ 1 by omega), Nat.add_sub_cancel]
  rw [elements_array hitems]
  simp only [bind, Except.bind, endSequence_cons]
  rfl

end Verdict

end Baseline
