import Mathlib.Data.List.Chain
import Baseline.Proofs.Text.Decoding
import Baseline.Proofs.WordDiff.Markup

/-!
# Marked changes

A tool that marks its changes gets a page that shows exactly these (`html_of_segments`), as long as
no two unchanged segments stand side by side and the word that is in every mark is in no segment.
Number signs may be anywhere, also where a segment touches a mark.

Again a body is followed through its passes as pieces, but now it is known which they are: a pass
turns one more kind of mark into tags and nothing else (`replaceAll_mark`).  What carries this is
that the word of the marks does not stand in plain characters (`word_notInfix_pieces`).  A mark that
began anywhere else, at a plain number sign or at the end of another mark, would have the word
still before it; and that cannot be, whether it ends in plain characters or runs into the next
tag (`not_prefix_laid`).
-/

namespace Baseline.WordDiff

/-- The word that is in every mark. -/
def word : List Char := "WDIFF_".toList

/-- A part of what the tool compares. -/
inductive Segment
  | unchanged (s : String)
  | deleted (s : String)
  | inserted (s : String)

namespace Segment

/-- The text of a segment. -/
def text : Segment → String
  | .unchanged s | .deleted s | .inserted s => s

/-- A segment as the tool prints it. -/
def printed : Segment → String
  | .unchanged s => s
  | .deleted s => deleteMark ++ s ++ endMark
  | .inserted s => insertMark ++ s ++ endMark

/-- A segment as the page shows it. -/
def shown : Segment → String
  | .unchanged s => escape s
  | .deleted s => deleteTag ++ escape s ++ closeTag
  | .inserted s => insertTag ++ escape s ++ closeTag

/-- The tags of a segment. -/
def tags : Segment → List Tag
  | .unchanged _ => []
  | .deleted _ => [.delete, .close]
  | .inserted _ => [.insert, .close]

/-- One of two segments is a change at least. -/
def OneChanged : Segment → Segment → Prop
  | .unchanged _, .unchanged _ => False
  | _, _ => True

instance : DecidableRel OneChanged
  | .unchanged _, .unchanged _ => inferInstanceAs (Decidable False)
  | .unchanged _, .deleted _ | .unchanged _, .inserted _ => inferInstanceAs (Decidable True)
  | .deleted _, _ | .inserted _, _ => inferInstanceAs (Decidable True)

/-- The pieces of a change. -/
def change (t : Tag) (s : String) : List Piece :=
  .tag t :: ((escapeChars s.toList).map .plain ++ [.tag .close])

/-- A segment as pieces of a page. -/
def pieces : Segment → List Piece
  | .unchanged s => (escapeChars s.toList).map .plain
  | .deleted s => change .delete s
  | .inserted s => change .insert s

end Segment

/-! ### Marks that overlap -/

theorem Tag.mem_all (t : Tag) : t ∈ Tag.all := by cases t <;> decide

/-- What is left of a mark behind one number sign or two, cut in two: the word stands before the
cut, or nothing behind it, or what is behind it begins like no mark. -/
theorem word_or_unlike : ∀ t ∈ Tag.all, ∀ t' ∈ Tag.all, ∀ k ∈ [1, 2], ∀ n < 13,
    word <:+: (t.mark.drop k).take n ∨ (t.mark.drop k).drop n = [] ∨
      ¬ (t.mark.drop k).drop n <+: t'.mark ∧ ¬ t'.mark <+: (t.mark.drop k).drop n := by
  decide

/-- A mark begins inside another one with the number signs at its end only. -/
theorem overlap_of_ne : ∀ t ∈ Tag.all, ∀ t' ∈ Tag.all, t' ≠ t → ∀ s ∈ t'.mark.tails,
    s = [] ∨ ¬ t.mark <+: s ∧ (s <+: t.mark → s.length ∈ [1, 2]) := by
  decide

theorem word_infix_mark : ∀ t ∈ Tag.all, ∀ k ∈ [1, 2], word <:+: t.mark.drop k := by decide

theorem length_drop_mark : ∀ t ∈ Tag.all, ∀ k ∈ [1, 2], (t.mark.drop k).length < 13 := by decide

/-! ### A pass over pieces that are known -/

section

variable {done : List Tag} {ps : List Piece}

/-- **Where the word is not plain no mark goes on**, once it has begun. -/
theorem not_prefix_laid (t : Tag) {k : Nat} (hk : k ∈ [1, 2])
    (h : ¬ word.map .plain <:+: ps) : ¬ t.mark.drop k <+: laid done ps := by
  intro hbegins
  rcases plain_or_tag_of_prefix hbegins with ⟨rest, rfl⟩ | ⟨m₁, m₂, t', rest, hm, hne, rfl, hrest⟩
  · have hword := (word_infix_mark t t.mem_all k hk).map Piece.plain
    exact h (hword.trans (List.prefix_append _ rest).isInfix)
  · have hlength : m₁.length < 13 := by
      have hlt := length_drop_mark t t.mem_all k hk
      rw [hm, List.length_append] at hlt
      omega
    have hcut := word_or_unlike t t.mem_all t' t'.mem_all k hk m₁.length hlength
    rw [hm, List.take_left, List.drop_left] at hcut
    rcases hcut with hword | hnil | ⟨hunlike, hunlike'⟩
    · exact h ((hword.map Piece.plain).trans (List.prefix_append _ _).isInfix)
    · exact hne hnil
    · by_cases hdone : t' ∈ done
      · -- a tag begins with what no mark has
        obtain ⟨w, ht', -⟩ := t'.exists_text_eq_cons
        obtain ⟨c, m₂, rfl⟩ := List.exists_cons_of_ne_nil hne
        rw [Tag.laid_of_mem hdone, ht', List.cons_append, List.cons_prefix_cons] at hrest
        apply t.less_notMem_mark
        apply List.mem_of_mem_drop
        rw [hm, ← hrest.1]
        simp
      · rw [Tag.laid_of_notMem hdone] at hrest
        rcases List.prefix_or_prefix_of_prefix hrest (List.prefix_append _ _) with hle | hle
        · exact hunlike hle
        · exact hunlike' hle

/-- **A pass turns one more kind of mark into tags**, and nothing else. -/
theorem replaceAll_mark (t : Tag) (ht : t ∉ done) (h : ¬ word.map .plain <:+: ps) :
    replaceAll t.mark t.text (laid done ps) = laid (t :: done) ps := by
  have hmark : t.mark = '#' :: t.mark.drop 1 := by cases t <;> rfl
  induction ps with
  | nil => exact replaceAll_nil _ _
  | cons p ps ih =>
    have hps : ¬ word.map .plain <:+: ps := by
      intro hword
      exact h (hword.trans (List.suffix_cons p ps).isInfix)
    have hrest := ih hps
    cases p with
    | plain c =>
      rw [laid_plain_cons, laid_plain_cons, ← hrest]
      apply replaceAll_cons
      intro hbegins
      rw [hmark, List.cons_prefix_cons] at hbegins
      exact not_prefix_laid t (by simp) hps hbegins.2
    | tag t' =>
      rw [laid_tag_cons, laid_tag_cons, ← hrest]
      by_cases hself : t' = t
      · rw [hself, Tag.laid_self, Tag.laid_of_notMem ht, replaceAll_old t.mark_ne_nil]
      · rw [Tag.laid_of_ne hself]
        by_cases hdone : t' ∈ done
        · rw [Tag.laid_of_mem hdone, hmark]
          exact replaceAll_append_of_head t'.hash_notMem_text _
        · rw [Tag.laid_of_notMem hdone]
          apply replaceAll_append
          intro s hs hne hbegins
          have hoverlap := overlap_of_ne t t.mem_all t' t'.mem_all hself s
            ((List.mem_tails _ _).mpr hs)
          obtain ⟨hnot, hlength⟩ := hoverlap.resolve_left hne
          rcases List.prefix_or_prefix_of_prefix hbegins (List.prefix_append s _) with hle | hle
          · exact hnot hle
          · -- the mark would go on behind the end of the other one
            obtain ⟨m, hm⟩ := hle
            have hdrop : t.mark.drop s.length = m := by rw [← hm, List.drop_left]
            rw [← hm, List.prefix_append_right_inj, ← hdrop] at hbegins
            exact not_prefix_laid t (hlength ⟨m, hm⟩) hps hbegins

/-- All passes turn all marks into tags. -/
theorem tagMarks_laid (h : ¬ word.map .plain <:+: ps) :
    tagMarks (laid [] ps) = laid Tag.all ps := by
  have hdelete := replaceAll_mark .delete List.not_mem_nil h
  have hinsert := replaceAll_mark .insert (by decide : Tag.insert ∉ [Tag.delete]) h
  have hclose := replaceAll_mark .close (by decide : Tag.close ∉ [Tag.insert, Tag.delete]) h
  show replaceAll Tag.close.mark Tag.close.text (replaceAll Tag.insert.mark Tag.insert.text
    (replaceAll Tag.delete.mark Tag.delete.text (laid [] ps))) = laid Tag.all ps
  rw [hdelete, hinsert, hclose, Tag.all]

end

/-! ### Where the word is not -/

theorem infix_of_append {c : Char} {m u v : List Char} (hc : c ∉ u) (h : c :: m <:+: u ++ v) :
    c :: m <:+: v := by
  induction u with
  | nil => exact h
  | cons d u ih =>
    rw [List.mem_cons, not_or] at hc
    rw [List.cons_append, List.infix_cons_iff, List.cons_prefix_cons] at h
    exact ih hc.2 (h.resolve_left fun hbegins => hc.1 hbegins.1)

/-- What has no `&` and begins an escaped text begins the text. -/
theorem prefix_of_escapeChars {m s : List Char} (hm : '&' ∉ m) (h : m <+: escapeChars s) :
    m <+: s := by
  induction m generalizing s with
  | nil => exact List.nil_prefix
  | cons c m ih =>
    rw [List.mem_cons, not_or] at hm
    cases s with
    | nil => exact h
    | cons d s =>
      have hd : escapeChars (d :: s) = escapeChar d ++ escapeChars s := rfl
      rw [hd] at h
      rcases escapeChar_cases d with rfl | rfl | rfl | ⟨-, -, -, hplain⟩
      · exact absurd (List.cons_prefix_cons.mp h).1.symm hm.1
      · exact absurd (List.cons_prefix_cons.mp h).1.symm hm.1
      · exact absurd (List.cons_prefix_cons.mp h).1.symm hm.1
      · rw [hplain, List.singleton_append, List.cons_prefix_cons] at h
        exact List.cons_prefix_cons.mpr ⟨h.1, ih hm.2 h.2⟩

/-- **Escaping brings the word in nowhere.** -/
theorem word_infix_of_escapeChars {s : List Char} (h : word <:+: escapeChars s) : word <:+: s := by
  have hescapes : ∀ d ∈ ['&', '<', '>'], 'W' ∉ escapeChar d := by simp [escapeChar]
  induction s with
  | nil => exact h
  | cons d s ih =>
    have hd : escapeChars (d :: s) = escapeChar d ++ escapeChars s := rfl
    have hrest : word <:+: escapeChars s → word <:+: d :: s := by
      intro hword
      exact (ih hword).trans (List.suffix_cons d s).isInfix
    rcases escapeChar_cases d with rfl | rfl | rfl | ⟨-, -, -, hplain⟩
    · exact hrest (infix_of_append (hescapes _ (by simp)) h)
    · exact hrest (infix_of_append (hescapes _ (by simp)) h)
    · exact hrest (infix_of_append (hescapes _ (by simp)) h)
    · rw [hd, hplain, List.singleton_append, List.infix_cons_iff] at h
      rcases h with hbegins | hword
      · have hall : word <+: escapeChars (d :: s) := by
          rw [hd, hplain]
          exact hbegins
        exact (prefix_of_escapeChars (by decide) hall).isInfix
      · exact hrest hword

/-- Plain characters around a tag stand before it or behind it. -/
theorem infix_around_tag {w : List Char} {ps qs : List Piece} {t : Tag}
    (h : w.map .plain <:+: ps ++ .tag t :: qs) : w.map .plain <:+: ps ∨ w.map .plain <:+: qs := by
  have htag : .tag t ∉ w.map Piece.plain := by simp
  rcases List.infix_append_iff.mp h with hps | hqs | ⟨v, v', hv, hps, hqs⟩
  · exact Or.inl hps
  · rcases List.infix_cons_iff.mp hqs with hbegins | hqs
    · rcases List.prefix_cons_iff.mp hbegins with hnil | ⟨rest, hrest, -⟩
      · exact Or.inr (hnil ▸ List.nil_infix)
      · exact absurd (hrest ▸ List.mem_cons_self) htag
    · exact Or.inr hqs
  · rcases List.prefix_cons_iff.mp hqs with rfl | ⟨rest, rfl, -⟩
    · rw [List.append_nil] at hv
      exact Or.inl (hv ▸ hps.isInfix)
    · exact absurd (hv ▸ List.mem_append_right v List.mem_cons_self) htag

theorem word_notInfix_plain {s : String} (h : ¬ word <:+: s.toList) :
    ¬ word.map Piece.plain <:+: (escapeChars s.toList).map .plain := by
  intro hword
  have hchars : ∀ u : List Char, (u.map Piece.plain).filterMap Piece.char? = u := by
    intro u
    rw [List.filterMap_map]
    exact List.filterMap_some
  have hescaped := List.IsInfix.filterMap Piece.char? hword
  rw [hchars, hchars] at hescaped
  exact h (word_infix_of_escapeChars hescaped)

namespace Segment

theorem word_notInfix_change (t : Tag) {s : String} {ps : List Piece} (hs : ¬ word <:+: s.toList)
    (hps : ¬ word.map .plain <:+: ps) : ¬ word.map .plain <:+: change t s ++ ps := by
  intro h
  have hpieces : change t s ++ ps =
      [] ++ .tag t :: ((escapeChars s.toList).map .plain ++ .tag .close :: ps) := by
    simp [change]
  rw [hpieces] at h
  rcases infix_around_tag h with hnil | h
  · exact absurd hnil (by decide)
  · rcases infix_around_tag h with hword | hword
    · exact word_notInfix_plain hs hword
    · exact hps hword

/-- **The word is not in the plain characters** of segments that do not have it, since what is
unchanged ends at a tag. -/
theorem word_notInfix_pieces {segs : List Segment} (hchain : segs.IsChain OneChanged)
    (hclean : ∀ g ∈ segs, ¬ word <:+: g.text.toList) :
    ¬ word.map .plain <:+: segs.flatMap pieces := by
  induction segs with
  | nil => decide
  | cons g segs ih =>
    have hg := hclean g List.mem_cons_self
    have hrest := ih hchain.tail fun g' hg' =>
      hclean g' (List.mem_cons_of_mem g hg')
    rw [List.flatMap_cons]
    cases g with
    | deleted s => exact word_notInfix_change .delete hg hrest
    | inserted s => exact word_notInfix_change .insert hg hrest
    | unchanged s =>
      cases segs with
      | nil =>
        rw [List.flatMap_nil, List.append_nil]
        exact word_notInfix_plain hg
      | cons g' segs =>
        have hone := (List.isChain_cons_cons.mp hchain).1
        obtain ⟨t, ps, hpieces⟩ : ∃ t ps, (g' :: segs).flatMap pieces = .tag t :: ps := by
          cases g' with
          | unchanged s' => exact hone.elim
          | deleted s' => exact ⟨.delete, _, rfl⟩
          | inserted s' => exact ⟨.insert, _, rfl⟩
        rw [hpieces] at hrest ⊢
        intro h
        rcases infix_around_tag h with hword | hword
        · exact word_notInfix_plain hg hword
        · exact hrest (hword.trans (List.suffix_cons _ _).isInfix)

/-! ### What is printed and what is shown -/

theorem escapeChars_append (s s' : List Char) :
    escapeChars (s ++ s') = escapeChars s ++ escapeChars s' := List.flatMap_append

theorem escapeChars_mark (t : Tag) : escapeChars t.mark = t.mark := by cases t <;> decide

theorem laid_change (done : List Tag) (t : Tag) (s : String) :
    laid done (change t s) = t.laid done ++ escapeChars s.toList ++ Tag.close.laid done := by
  have hnil : laid done [] = [] := rfl
  simp [change, hnil]

/-- What the tool printed, escaped, is the pieces with all tags as marks. -/
theorem escapeChars_printed (g : Segment) : escapeChars g.printed.toList = laid [] g.pieces := by
  have hchange : ∀ (t : Tag) (s : List Char), escapeChars (t.mark ++ s ++ Tag.close.mark) =
      t.mark ++ escapeChars s ++ Tag.close.mark := by
    intro t s
    rw [escapeChars_append, escapeChars_append, escapeChars_mark, escapeChars_mark]
  cases g with
  | unchanged s => exact (laid_map_plain [] _).symm
  | deleted s =>
    rw [pieces, laid_change, printed, String.toList_append, String.toList_append]
    exact hchange .delete s.toList
  | inserted s =>
    rw [pieces, laid_change, printed, String.toList_append, String.toList_append]
    exact hchange .insert s.toList

theorem toList_shown (g : Segment) : g.shown.toList = laid Tag.all g.pieces := by
  have hescape : ∀ s, (escape s).toList = escapeChars s.toList := fun s => String.toList_ofList
  cases g with
  | unchanged s =>
    rw [pieces, laid_map_plain]
    exact hescape s
  | deleted s =>
    rw [pieces, laid_change, shown, String.toList_append, String.toList_append, hescape]
    rfl
  | inserted s =>
    rw [pieces, laid_change, shown, String.toList_append, String.toList_append, hescape]
    rfl

theorem escapeChars_join (segs : List Segment) :
    escapeChars (String.join (segs.map printed)).toList = laid [] (segs.flatMap pieces) := by
  induction segs with
  | nil => rfl
  | cons g segs ih =>
    rw [List.map_cons, String.join_cons, String.toList_append, escapeChars_append, ih,
      List.flatMap_cons, laid_append, escapeChars_printed]

theorem toList_join_shown (segs : List Segment) :
    (String.join (segs.map shown)).toList = laid Tag.all (segs.flatMap pieces) := by
  induction segs with
  | nil => rfl
  | cons g segs ih =>
    rw [List.map_cons, String.join_cons, String.toList_append, ih, List.flatMap_cons, laid_append,
      toList_shown]

end Segment

/-! ### The tags of a page -/

/-- The tags that stand in a body, in order. -/
def tagsIn : List Char → List Tag
  | [] => []
  | c :: rest => (Tag.all.find? fun t => t.text.isPrefixOf (c :: rest)).toList ++ tagsIn rest

theorem tagsIn_append_of_notMem {u : List Char} (h : '<' ∉ u) (v : List Char) :
    tagsIn (u ++ v) = tagsIn v := by
  induction u with
  | nil => rfl
  | cons c u ih =>
    rw [List.mem_cons, not_or] at h
    have hnone : (Tag.all.find? fun t => t.text.isPrefixOf (c :: (u ++ v))) = none := by
      rw [List.find?_eq_none]
      intro t _ hbegins
      obtain ⟨w, ht, -⟩ := t.exists_text_eq_cons
      rw [List.isPrefixOf_iff_prefix, ht, List.cons_prefix_cons] at hbegins
      exact h.1 hbegins.1
    rw [List.cons_append, tagsIn, hnone, ih h.2]
    rfl

theorem tagsIn_text (t : Tag) (v : List Char) : tagsIn (t.text ++ v) = t :: tagsIn v := by
  have hfind : (Tag.all.find? fun t' => t'.text.isPrefixOf (t.text ++ v)) = some t := by
    cases t <;> rfl
  obtain ⟨w, ht, hw⟩ := t.exists_text_eq_cons
  rw [ht, List.cons_append] at hfind ⊢
  rw [tagsIn, hfind, tagsIn_append_of_notMem hw]
  rfl

theorem less_notMem_escapeChars (s : List Char) : '<' ∉ escapeChars s :=
  fun h => (ne_of_mem_escapeChars h).1 rfl

/-- **The tags of a page are those of its segments.** -/
theorem tagsIn_shown (segs : List Segment) :
    tagsIn (String.join (segs.map Segment.shown)).toList = segs.flatMap Segment.tags := by
  rw [Segment.toList_join_shown]
  have hchange : ∀ t s v, tagsIn (laid Tag.all (Segment.change t s) ++ v) =
      t :: .close :: tagsIn v := by
    intro t s v
    rw [Segment.laid_change, Tag.laid_all, Tag.laid_all, List.append_assoc, List.append_assoc,
      tagsIn_text, tagsIn_append_of_notMem (less_notMem_escapeChars _), tagsIn_text]
  induction segs with
  | nil => rfl
  | cons g segs ih =>
    rw [List.flatMap_cons, List.flatMap_cons, laid_append, ← ih]
    cases g with
    | unchanged s =>
      rw [Segment.pieces, laid_map_plain, tagsIn_append_of_notMem (less_notMem_escapeChars _)]
      rfl
    | deleted s => exact hchange .delete s _
    | inserted s => exact hchange .insert s _

/-- How much deeper a tag leads. -/
def Tag.step : Tag → Int
  | .close => -1
  | _ => 1

/-- How deep tags lead in the end. -/
def depth : List Tag → Int
  | [] => 0
  | t :: ts => t.step + depth ts

/-- Every tag that opens is closed, and none is opened inside another. -/
structure Balanced (ts : List Tag) : Prop where
  flat : ∀ before, before <+: ts → 0 ≤ depth before ∧ depth before ≤ 1
  closed : depth ts = 0

theorem depth_append (ts ts' : List Tag) : depth (ts ++ ts') = depth ts + depth ts' := by
  induction ts with
  | nil => simp [depth]
  | cons t ts ih => simp [depth, ih, Int.add_assoc]

theorem Balanced.append {ts ts' : List Tag} (h : Balanced ts) (h' : Balanced ts') :
    Balanced (ts ++ ts') := by
  refine ⟨?_, by rw [depth_append, h.closed, h'.closed]; rfl⟩
  intro before hbefore
  rcases List.prefix_or_prefix_of_prefix hbefore (List.prefix_append ts ts') with hle | hle
  · exact h.flat before hle
  · obtain ⟨rest, rfl⟩ := hle
    rw [depth_append, h.closed, Int.zero_add]
    exact h'.flat rest ((List.prefix_append_right_inj ts).mp hbefore)

theorem Segment.balanced_tags (g : Segment) : Balanced g.tags := by
  have hflat : ∀ ts ∈ [[], [Tag.delete, .close], [Tag.insert, .close]],
      (∀ before ∈ ts.inits, 0 ≤ depth before ∧ depth before ≤ 1) ∧ depth ts = 0 := by decide
  have hbalanced : ∀ ts ∈ [[], [Tag.delete, .close], [Tag.insert, .close]], Balanced ts := by
    intro ts hts
    obtain ⟨hdepth, hclosed⟩ := hflat ts hts
    exact ⟨fun before hbefore => hdepth before ((List.mem_inits _ _).mpr hbefore), hclosed⟩
  apply hbalanced
  cases g <;> simp [tags]

theorem balanced_flatMap_tags (segs : List Segment) : Balanced (segs.flatMap Segment.tags) := by
  induction segs with
  | nil => exact (Segment.unchanged "").balanced_tags
  | cons g segs ih =>
    rw [List.flatMap_cons]
    exact g.balanced_tags.append ih

/-! ### The whole page -/

/-- **The page of marked changes shows exactly these**: its body is the escaped segments, each
change between its tags, and there are no other tags. -/
theorem html_of_segments {segs : List Segment} (hchain : segs.IsChain Segment.OneChanged)
    (hclean : ∀ g ∈ segs, ¬ word <:+: g.text.toList) :
    (Page.ofOutput (Utf8.encode (String.join (segs.map Segment.printed)))).html =
      Page.styleHead ++ "<pre>" ++ String.join (segs.map Segment.shown) ++ "</pre>" ∧
    tagsIn (String.join (segs.map Segment.shown)).toList = segs.flatMap Segment.tags ∧
    Balanced (tagsIn (String.join (segs.map Segment.shown)).toList) := by
  have hbody : tagMarks (escapeChars (String.join (segs.map Segment.printed)).toList) =
      (String.join (segs.map Segment.shown)).toList := by
    rw [Segment.escapeChars_join, Segment.toList_join_shown,
      tagMarks_laid (Segment.word_notInfix_pieces hchain hclean)]
  refine ⟨?_, tagsIn_shown segs, ?_⟩
  · rw [html_ofOutput, Utf8.decodeLossy_encode, hbody, String.ofList_toList]
  · rw [tagsIn_shown]
    exact balanced_flatMap_tags segs

/-- Number signs at the edges of segments, and an empty insertion. -/
def numberSigns : List Segment :=
  [.unchanged "a#", .deleted "##<#", .inserted "", .unchanged "#"]

theorem html_of_numberSigns :
    numberSigns.IsChain Segment.OneChanged ∧ (∀ g ∈ numberSigns, ¬ word <:+: g.text.toList) ∧
    (Page.ofOutput (Utf8.encode (String.join (numberSigns.map Segment.printed)))).html =
      Page.styleHead ++ "<pre>" ++ String.join (numberSigns.map Segment.shown) ++ "</pre>" := by
  have hchain : numberSigns.IsChain Segment.OneChanged := by decide
  have hclean : ∀ g ∈ numberSigns, ¬ word <:+: g.text.toList := by decide
  exact ⟨hchain, hclean, (html_of_segments hchain hclean).1⟩

example : String.join (numberSigns.map Segment.shown) =
    "a#<span class=del>##&lt;#</span><span class=add></span>#" := by decide

end Baseline.WordDiff
