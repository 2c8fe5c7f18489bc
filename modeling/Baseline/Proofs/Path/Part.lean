import Baseline.Proofs.Path.Segment

/-!
# Components of a path

`parts` reads a path from the left; what ends a path is read here from the
right.

* `parts_append_name`: a name after a slash is one more component.
* `isName_of_mem_parts`: the names among the components are names.
* `parent?_ofNames`: the parent of a path of names has all of them but the last.
* `withoutExtension_append`: taking the extension off a path that ends in a name
  changes that name only, to its `bareName`: the stem, except that a stem `.`
  keeps a second dot.
-/

namespace Baseline.Path

/-! ### Components after the first -/

theorem componentOf_name {n : Name} (h : IsName n) : componentOf n = some (.normal n) := by
  rw [componentOf, if_neg (by simp [h.ne_nil, h.ne_dot]), if_neg h.ne_dots]

theorem partsAfter_append (before : Bytes) (ss ts : List Bytes) :
    partsAfter before (ss ++ ts) =
      partsAfter before ss ++ partsAfter (before ++ ss.flatMap (slash :: ·)) ts := by
  induction ss generalizing before with
  | nil => simp [partsAfter]
  | cons s ss ih =>
    simp only [List.cons_append, partsAfter, List.flatMap_cons]
    cases componentOf s <;> simp [ih]

theorem partsAfter_name (before : Bytes) {n : Name} (h : IsName n) :
    partsAfter before [n] = [(.normal n, before ++ slash :: n)] := by
  simp [partsAfter, componentOf_name h]

/-- A piece that stands for a name stands for itself, and is none of the pieces read otherwise. -/
theorem componentOf_eq_normal_iff {s : Bytes} {n : Name} :
    componentOf s = some (.normal n) ↔ s = n ∧ (n ≠ [] ∧ n ≠ [dot]) ∧ n ≠ [dot, dot] := by
  unfold componentOf
  by_cases hskip : s = [] ∨ s = [dot]
  · rw [if_pos hskip]
    refine ⟨nofun, fun ⟨hs, hn, _⟩ => ?_⟩
    subst hs
    exact absurd hskip (not_or.mpr hn)
  · rw [if_neg hskip]
    by_cases hdots : s = [dot, dot]
    · rw [if_pos hdots]
      refine ⟨nofun, fun ⟨hs, _, hn⟩ => ?_⟩
      subst hs
      exact absurd hdots hn
    · rw [if_neg hdots]
      refine ⟨fun h => ?_, fun h => congrArg (some ∘ Component.normal) h.1⟩
      obtain rfl := Component.normal.inj (Option.some.inj h)
      exact ⟨rfl, not_or.mp hskip, hdots⟩

theorem isName_of_componentOf {s : Bytes} {n : Name} (h : componentOf s = some (.normal n))
    (hs : slash ∉ s) : IsName n := by
  obtain ⟨rfl, ⟨hne, hdot⟩, hdots⟩ := componentOf_eq_normal_iff.mp h
  exact ⟨hne, hs, hdot, hdots⟩

/-- A name among the components is one of the pieces they are read from. -/
theorem componentOf_of_mem_partsAfter {before : Bytes} {ss : List Bytes} {n : Name}
    {through : Bytes} (h : (.normal n, through) ∈ partsAfter before ss) :
    n ∈ ss ∧ componentOf n = some (.normal n) := by
  induction ss generalizing before with
  | nil => simp [partsAfter] at h
  | cons s ss ih =>
    have hrest {before : Bytes} (h : (.normal n, through) ∈ partsAfter before ss) :
        n ∈ s :: ss ∧ componentOf n = some (.normal n) :=
      (ih h).imp_left (List.mem_cons_of_mem s)
    simp only [partsAfter] at h
    cases hc : componentOf s with
    | none =>
      rw [hc] at h
      exact hrest h
    | some c =>
      rw [hc] at h
      rcases List.mem_cons.mp h with he | h
      · obtain ⟨rfl, -⟩ := Prod.mk.inj he
        obtain ⟨rfl, -⟩ := componentOf_eq_normal_iff.mp hc
        exact ⟨List.mem_cons_self, hc⟩
      · exact hrest h

/-! ### All components -/

/-- The component that the first piece of a path stands for. -/
def firstPart (s : Bytes) : Component × Bytes :=
  if s = [] then (.root, [slash])
  else (if s = [dot] then .current else if s = [dot, dot] then .parent else .normal s, s)

theorem parts_eq {s u : Bytes} {more : List Bytes} (hs : s ≠ []) (h : segments s = u :: more) :
    parts ⟨s⟩ = firstPart u :: partsAfter u more := by
  cases u with
  | nil =>
    cases more with
    | nil => exact absurd (bytes_eq h).symm hs
    | cons v more => simp [parts, h, firstPart]
  | cons b u => simp [parts, h, firstPart]

theorem isAbsolute_iff {p : Path} {u : Bytes} {more : List Bytes} (hp : p.bytes ≠ [])
    (h : segments p.bytes = u :: more) : p.isAbsolute = true ↔ u = [] := by
  have hbytes := bytes_eq h
  cases u with
  | nil =>
    cases more with
    | nil => exact absurd hbytes.symm hp
    | cons v more => simp [isAbsolute, ← hbytes]
  | cons b u =>
    have hb : slash ∉ b :: u := no_slash_of_mem_segments (h ▸ List.mem_cons_self)
    simp only [List.mem_cons, not_or] at hb
    simp [isAbsolute, ← hbytes, Ne.symm hb.1]

theorem firstPart_name {n : Name} (h : IsName n) : firstPart n = (.normal n, n) := by
  simp [firstPart, h.ne_nil, h.ne_dot, h.ne_dots]

theorem parts_name {n : Name} (h : IsName n) : parts ⟨n⟩ = [(.normal n, n)] := by
  rw [parts_eq h.ne_nil (segments_eq_singleton h.no_slash), firstPart_name h]
  rfl

/-- What stands after a slash is read piece by piece. -/
theorem parts_append_slash_cons {s : Bytes} (hs : s ≠ []) (t : Bytes) :
    parts ⟨s ++ slash :: t⟩ = parts ⟨s⟩ ++ partsAfter s (segments t) := by
  cases hsegments : segments s with
  | nil => exact absurd hsegments (segments_ne_nil s)
  | cons u more =>
    have hall : segments (s ++ slash :: t) = u :: (more ++ segments t) := by
      rw [segments_append_slash, hsegments]
      rfl
    rw [parts_eq hs hsegments, parts_eq (by simp) hall, partsAfter_append, bytes_eq hsegments]
    rfl

theorem parts_slash_cons (t : Bytes) :
    parts ⟨slash :: t⟩ = (.root, [slash]) :: partsAfter [] (segments t) := by
  have hall : segments (slash :: t) = [] :: segments t := by simp [segments]
  rw [parts_eq (by simp) hall]
  rfl

/-- A piece after a slash is a component, or none. -/
theorem parts_append_piece {s v : Bytes} (hs : s ≠ []) (hv : slash ∉ v) :
    parts ⟨s ++ slash :: v⟩ = parts ⟨s⟩ ++ partsAfter s [v] := by
  rw [parts_append_slash_cons hs, segments_eq_singleton hv]

theorem parts_root_piece {v : Bytes} (hv : slash ∉ v) :
    parts ⟨slash :: v⟩ = (.root, [slash]) :: partsAfter [] [v] := by
  rw [parts_slash_cons, segments_eq_singleton hv]

/-- **A name after a slash is one more component.** -/
theorem parts_append_name {s : Bytes} (hs : s ≠ []) {n : Name} (h : IsName n) :
    parts ⟨s ++ slash :: n⟩ = parts ⟨s⟩ ++ [(.normal n, s ++ slash :: n)] := by
  rw [parts_append_piece hs h.no_slash, partsAfter_name _ h]

theorem parts_root_name {n : Name} (h : IsName n) :
    parts ⟨slash :: n⟩ = [(.root, [slash]), (.normal n, slash :: n)] := by
  rw [parts_root_piece h.no_slash, partsAfter_name _ h]
  rfl

theorem componentOf_of_firstPart {s through : Bytes} {n : Name}
    (h : firstPart s = (.normal n, through)) : s = n ∧ componentOf n = some (.normal n) := by
  unfold firstPart at h
  by_cases hs : s = []
  · simp [hs] at h
  · rw [if_neg hs] at h
    have hc := (Prod.mk.inj h).1
    split at hc
    · simp at hc
    · split at hc
      · simp at hc
      · rename_i hdot hdots
        obtain rfl := Component.normal.inj hc
        exact ⟨rfl, componentOf_eq_normal_iff.mpr ⟨rfl, ⟨hs, hdot⟩, hdots⟩⟩

theorem componentOf_of_mem_parts {p : Path} {n : Name} {through : Bytes}
    (h : (.normal n, through) ∈ p.parts) :
    n ∈ segments p.bytes ∧ componentOf n = some (.normal n) := by
  by_cases hp : p.bytes = []
  · simp [parts, hp, segments] at h
  · cases hsg : segments p.bytes with
    | nil => exact absurd hsg (segments_ne_nil _)
    | cons u more =>
      rw [show p.parts = firstPart u :: partsAfter u more from parts_eq hp hsg] at h
      rcases List.mem_cons.mp h with h | h
      · obtain ⟨rfl, hc⟩ := componentOf_of_firstPart h.symm
        exact ⟨List.mem_cons_self, hc⟩
      · exact (componentOf_of_mem_partsAfter h).imp_left (List.mem_cons_of_mem u)

/-- The names of a path are among its pieces. -/
theorem mem_segments_of_mem_parts {p : Path} {n : Name} {through : Bytes}
    (h : (.normal n, through) ∈ p.parts) : n ∈ segments p.bytes :=
  (componentOf_of_mem_parts h).1

/-- **The names among the components are names.** -/
theorem isName_of_mem_parts {p : Path} {n : Name} {through : Bytes}
    (h : (.normal n, through) ∈ p.parts) : IsName n := by
  obtain ⟨hmem, hc⟩ := componentOf_of_mem_parts h
  exact isName_of_componentOf hc (no_slash_of_mem_segments hmem)

/-! ### The last component -/

/-- A place for one more name: nothing, or bytes that end in a slash. -/
def TakesName (s : Bytes) : Prop := s = [] ∨ s.getLast? = some slash

theorem getLast?_parts_append {s : Bytes} (hs : TakesName s) {n : Name} (h : IsName n) :
    (parts ⟨s ++ n⟩).getLast? = some (.normal n, s ++ n) := by
  rcases hs with rfl | hs
  · simp [parts_name h]
  · obtain ⟨t, rfl⟩ := List.getLast?_eq_some_iff.mp hs
    rw [List.append_assoc, List.singleton_append]
    by_cases ht : t = []
    · simp [ht, parts_root_name h]
    · simp [parts_append_name ht h]

theorem fileName?_append {s : Bytes} (hs : TakesName s) {n : Name} (h : IsName n) :
    fileName? ⟨s ++ n⟩ = some n := by
  rw [fileName?, getLast?_parts_append hs h]

theorem isName_of_fileName? {p : Path} {n : Name} (h : p.fileName? = some n) : IsName n := by
  unfold fileName? at h
  cases hl : p.parts.getLast? with
  | none => simp [hl] at h
  | some part =>
    obtain ⟨c, through⟩ := part
    cases c with
    | normal m =>
      obtain rfl : m = n := by simpa [hl] using h
      exact isName_of_mem_parts (List.mem_of_getLast? hl)
    | root | current | parent => simp [hl] at h

/-! ### Stems -/

theorem splitLastDot?_eq_some {n before after : Name} (h : splitLastDot? n = some (before, after)) :
    n = before ++ dot :: after := by
  induction n generalizing before with
  | nil => simp [splitLastDot?] at h
  | cons b n ih =>
    simp only [splitLastDot?] at h
    cases hs : splitLastDot? n with
    | some c =>
      obtain ⟨c, d⟩ := c
      simp only [hs, Option.some.injEq, Prod.mk.injEq] at h
      obtain ⟨rfl, rfl⟩ := h
      rw [ih hs]
      rfl
    | none =>
      rw [hs] at h
      by_cases hb : b = dot
      · simp only [hb, if_true, Option.some.injEq, Prod.mk.injEq] at h
        obtain ⟨rfl, rfl⟩ := h
        rw [hb, List.nil_append]
      · simp [hb] at h

theorem splitLastDot?_eq_none {n : Name} (h : dot ∉ n) : splitLastDot? n = none := by
  induction n with
  | nil => rfl
  | cons b n ih =>
    simp only [List.mem_cons, not_or] at h
    rw [splitLastDot?, ih h.2]
    exact if_neg (Ne.symm h.1)

/-- A dot with none behind it is the last one. -/
theorem splitLastDot?_append (before : Name) {after : Name} (h : dot ∉ after) :
    splitLastDot? (before ++ dot :: after) = some (before, after) := by
  induction before with
  | nil => simp [splitLastDot?, splitLastDot?_eq_none h]
  | cons b before ih => simp [splitLastDot?, ih]

theorem dot_notMem_of_splitLastDot? {n before after : Name}
    (h : splitLastDot? n = some (before, after)) : dot ∉ after := by
  by_cases hn : dot ∈ n
  · obtain ⟨back, front, hsplit, hback⟩ := List.eq_append_cons_of_mem (List.mem_reverse.mpr hn)
    have hcut : n = front.reverse ++ dot :: back.reverse := by
      simpa using congrArg List.reverse hsplit
    have hback' : dot ∉ back.reverse := by simpa using hback
    rw [hcut, splitLastDot?_append _ hback'] at h
    obtain ⟨-, rfl⟩ := Prod.mk.inj (Option.some.inj h)
    exact hback'
  · simp [splitLastDot?_eq_none hn] at h

/-- What a name is without its extension: its stem, except that a stem `.` keeps a second dot. -/
def bareName (n : Name) : Name := if stemOf n = [dot] then [dot, dot] else stemOf n

theorem no_slash_stemOf {n : Name} (h : slash ∉ n) : slash ∉ stemOf n := by
  unfold stemOf
  split
  · exact h
  · rename_i before after hs
    rw [splitLastDot?_eq_some hs, List.mem_append, not_or] at h
    exact h.1
  · exact h

theorem no_slash_bareName {n : Name} (h : slash ∉ n) : slash ∉ bareName n := by
  unfold bareName
  split
  · decide
  · exact no_slash_stemOf h

theorem cutToStem_append {s : Bytes} (hs : TakesName s) {n : Name} (h : IsName n) :
    cutToStem ⟨s ++ n⟩ = ⟨s ++ stemOf n⟩ := by
  simp [cutToStem, getLast?_parts_append hs h]

theorem cutToStem_append_dots {s : Bytes} (hs : TakesName s) :
    cutToStem ⟨s ++ [dot, dot]⟩ = ⟨s ++ [dot, dot]⟩ := by
  have hlast : ∃ through, (parts ⟨s ++ [dot, dot]⟩).getLast? = some (.parent, through) := by
    obtain ⟨before, hsg, hall⟩ := segments_append_of_end hs (by decide : slash ∉ [dot, dot])
    cases before with
    | nil =>
      refine ⟨[dot, dot], ?_⟩
      rw [parts_eq (by simp) hall]
      rfl
    | cons u more =>
      refine ⟨u ++ more.flatMap (slash :: ·) ++ [slash, dot, dot], ?_⟩
      have hdots : partsAfter (u ++ more.flatMap (slash :: ·)) [[dot, dot]] =
          [(.parent, u ++ more.flatMap (slash :: ·) ++ [slash, dot, dot])] := by
        simp [partsAfter, componentOf, dot]
      rw [parts_eq (by simp) hall, List.append_eq, partsAfter_append, hdots, ← List.cons_append,
        List.getLast?_concat]
  obtain ⟨through, hl⟩ := hlast
  simp [cutToStem, hl]

/-- **Taking the extension off a path that ends in a name** changes that name only. -/
theorem withoutExtension_append {s : Bytes} (hs : TakesName s) {n : Name} (h : IsName n) :
    withoutExtension ⟨s ++ n⟩ = ⟨s ++ bareName n⟩ := by
  have hcut := cutToStem_append hs h
  rw [withoutExtension, fileName?_append hs h]
  cases hd : splitLastDot? n with
  | none =>
    have hstem : stemOf n = n := by simp [stemOf, hd]
    simp [extensionOf?, hd, hcut, bareName, hstem, h.ne_dot]
  | some c =>
    obtain ⟨before, after⟩ := c
    have hn := splitLastDot?_eq_some hd
    cases before with
    | nil =>
      have hstem : stemOf n = n := by simp [stemOf, hd]
      simp [extensionOf?, hd, hcut, bareName, hstem, h.ne_dot]
    | cons b before =>
      have hstem : stemOf n = b :: before := by simp [stemOf, hd]
      -- what is cut to its stem still ends in the dot of the extension
      have htake : (s ++ n).take ((s ++ n).length - after.length) =
          s ++ (b :: before ++ [dot]) := by
        rw [hn, show s ++ (b :: before ++ dot :: after) = s ++ (b :: before ++ [dot]) ++ after by
          simp, List.length_append, Nat.add_sub_cancel, List.take_left]
      simp only [extensionOf?, hd, Option.bind_some, htake, bareName, hstem]
      by_cases hb : b :: before = [dot]
      · obtain ⟨rfl, rfl⟩ := List.cons.inj hb
        simpa using cutToStem_append_dots hs
      · have hname : IsName (b :: before ++ [dot]) := by
          refine ⟨by simp, ?_, by simp, ?_⟩
          · have := h.no_slash
            simp only [hn, List.mem_append, List.mem_cons, not_or] at this ⊢
            exact ⟨this.1, this.2.1, by simp⟩
          · intro he
            obtain ⟨rfl, he⟩ := List.cons.inj he
            exact hb (by rw [List.append_eq_cons_iff] at he; simp_all)
        rw [cutToStem_append hs hname, stemOf, splitLastDot?_append _ List.not_mem_nil, if_neg hb]

/-! ### Paths of names -/

theorem ofNames_append_singleton {ns : List Name} (h : ns ≠ []) (n : Name) :
    ofNames (ns ++ [n]) = ⟨(ofNames ns).bytes ++ slash :: n⟩ := by
  induction ns with
  | nil => exact absurd rfl h
  | cons m ns ih =>
    cases ns with
    | nil => rfl
    | cons k ns =>
      simp only [List.cons_append, ofNames] at ih ⊢
      rw [ih (by simp)]
      simp

theorem ofNames_bytes_ne_nil {ns : List Name} (h : ns ≠ []) (hn : ∀ n ∈ ns, IsName n) :
    (ofNames ns).bytes ≠ [] := by
  cases ns with
  | nil => exact absurd rfl h
  | cons m ns =>
    have hm := (hn m (by simp)).ne_nil
    cases ns with
    | nil => exact hm
    | cons k ns => simp [ofNames]

theorem getLast?_parts_ofNames {ns : List Name} (h : ns ≠ []) (hn : ∀ n ∈ ns, IsName n) :
    ∃ n, (ofNames ns).parts.getLast? = some (.normal n, (ofNames ns).bytes) := by
  obtain ⟨before, last, rfl⟩ : ∃ before last, ns = before ++ [last] :=
    ⟨_, _, (List.dropLast_concat_getLast h).symm⟩
  have hl : IsName last := hn last (by simp)
  refine ⟨last, ?_⟩
  by_cases hb : before = []
  · subst hb
    simp [ofNames, parts_name hl]
  · rw [ofNames_append_singleton hb, parts_append_name (ofNames_bytes_ne_nil hb fun n hm =>
      hn n (by simp [hm])) hl]
    simp

/-- **The parent of a path of names** has all of them but the last. -/
theorem parent?_ofNames {ns : List Name} (hn : ∀ n ∈ ns, IsName n) :
    (ofNames ns).parent? = if ns = [] then none else some (ofNames ns.dropLast) := by
  by_cases h : ns = []
  · subst h
    rfl
  · obtain ⟨before, last, rfl⟩ : ∃ before last, ns = before ++ [last] :=
      ⟨_, _, (List.dropLast_concat_getLast h).symm⟩
    have hl : IsName last := hn last (by simp)
    have hbefore : ∀ n ∈ before, IsName n := fun n hm => hn n (by simp [hm])
    rw [if_neg h, List.dropLast_concat]
    by_cases hb : before = []
    · subst hb
      simp [ofNames, parent?, parts_name hl]
    · obtain ⟨m, hm⟩ := getLast?_parts_ofNames hb hbefore
      obtain ⟨rest, hrest⟩ := List.getLast?_eq_some_iff.mp hm
      rw [ofNames_append_singleton hb, parent?,
        parts_append_name (ofNames_bytes_ne_nil hb hbefore) hl, show parts ⟨(ofNames before).bytes⟩
          = rest ++ [(.normal m, (ofNames before).bytes)] from hrest]
      simp

end Baseline.Path
