import Baseline.Proofs.WordDiff.Replace

/-!
# The markup of a page

A rendered page loses nothing of the tool's output and has no markup but the three tags
(`faithful_html`).

The body of a page is followed through the passes that make it as a list of pieces: plain
characters and tags (`Piece`).  Laid out with the tags as they are shown it is the text that
the next pass goes through; laid out with all tags as marks it is the escaped text, and no
pass changes that (`Refines`).  A mark is found among plain characters only, since every
tag begins with a `<` and none is left among the plain ones (`exists_plain_of_prefix`).  So a pass
turns thirteen plain characters into a tag and leaves the tags of earlier passes alone
(`refines_pass`).

The way back is easier: a tag can be seen from its first character on, and what a tag is
replaced by has no such character.
-/

namespace Baseline.WordDiff

/-! ### Escapes -/

/-- A text with the three escapes undone, from the left. -/
def unescape : List Char → List Char
  | '&' :: 'a' :: 'm' :: 'p' :: ';' :: rest => '&' :: unescape rest
  | '&' :: 'l' :: 't' :: ';' :: rest => '<' :: unescape rest
  | '&' :: 'g' :: 't' :: ';' :: rest => '>' :: unescape rest
  | c :: rest => c :: unescape rest
  | [] => []

theorem escapeChar_cases (c : Char) :
    c = '&' ∨ c = '<' ∨ c = '>' ∨ c ≠ '&' ∧ c ≠ '<' ∧ c ≠ '>' ∧ escapeChar c = [c] := by
  unfold escapeChar
  split
  · exact Or.inl rfl
  · exact Or.inr (Or.inl rfl)
  · exact Or.inr (Or.inr (Or.inl rfl))
  · rename_i hamp hless hmore
    exact Or.inr (Or.inr (Or.inr ⟨hamp, hless, hmore, rfl⟩))

theorem unescape_cons {c : Char} (h : c ≠ '&') (rest : List Char) :
    unescape (c :: rest) = c :: unescape rest := by
  rw [unescape]
  all_goals
    intros
    contradiction

theorem unescape_escapeChar (c : Char) (rest : List Char) :
    unescape (escapeChar c ++ rest) = c :: unescape rest := by
  rcases escapeChar_cases c with rfl | rfl | rfl | ⟨hamp, -, -, hplain⟩
  · rfl
  · rfl
  · rfl
  · rw [hplain, List.singleton_append, unescape_cons hamp]

@[simp] theorem unescape_escapeChars (s : List Char) : unescape (escapeChars s) = s := by
  induction s with
  | nil => rfl
  | cons c s ih =>
    show unescape (escapeChar c ++ escapeChars s) = c :: s
    rw [unescape_escapeChar, ih]

theorem ne_of_mem_escapeChars {c : Char} {s : List Char} (h : c ∈ escapeChars s) :
    c ≠ '<' ∧ c ≠ '>' := by
  have hescaped : ∀ d ∈ ['&', '<', '>'], ∀ c ∈ escapeChar d, c ≠ '<' ∧ c ≠ '>' := by
    simp [escapeChar]
  obtain ⟨d, -, hc⟩ := List.mem_flatMap.mp h
  rcases escapeChar_cases d with rfl | rfl | rfl | ⟨-, hless, hmore, hplain⟩
  · exact hescaped _ (by simp) c hc
  · exact hescaped _ (by simp) c hc
  · exact hescaped _ (by simp) c hc
  · rw [hplain, List.mem_singleton] at hc
    subst hc
    exact ⟨hless, hmore⟩

/-! ### Tags -/

/-- The tags of a page. -/
inductive Tag
  | delete
  | insert
  | close
deriving DecidableEq

namespace Tag

/-- A tag as the page has it. -/
def text : Tag → List Char
  | .delete => deleteTag.toList
  | .insert => insertTag.toList
  | .close => closeTag.toList

/-- The mark that the tool prints for a tag. -/
def mark : Tag → List Char
  | .delete => deleteMark.toList
  | .insert => insertMark.toList
  | .close => endMark.toList

/-- All tags, the one that is put in last at the head. -/
def all : List Tag := [.close, .insert, .delete]

theorem text_ne_nil (t : Tag) : t.text ≠ [] := by cases t <;> decide

theorem mark_ne_nil (t : Tag) : t.mark ≠ [] := by cases t <;> decide

theorem exists_text_eq_cons (t : Tag) : ∃ w, t.text = '<' :: w ∧ '<' ∉ w := by
  refine ⟨t.text.tail, ?_⟩
  cases t <;> decide

theorem exists_text_eq_concat (t : Tag) : ∃ w, t.text = w ++ ['>'] ∧ '>' ∉ w := by
  refine ⟨t.text.dropLast, ?_⟩
  cases t <;> decide

theorem exists_mark_eq_cons (t : Tag) : ∃ w, t.mark = '#' :: w := ⟨t.mark.tail, by cases t <;> rfl⟩

theorem hash_notMem_text (t : Tag) : '#' ∉ t.text := by cases t <;> decide

theorem less_notMem_mark (t : Tag) : '<' ∉ t.mark := by cases t <;> decide

theorem eq_of_begins {t t' : Tag} (h : t.text <+: t'.text) : t = t' := by
  revert h
  cases t <;> cases t' <;> decide

/-- No tag begins inside another tag. -/
theorem not_prefix_of_ne {t t' : Tag} (h : t ≠ t') {s : List Char} (hs : s <:+ t'.text)
    (hne : s ≠ []) (v : List Char) : ¬ t.text <+: s ++ v := by
  intro hbegins
  obtain ⟨w, ht, -⟩ := t.exists_text_eq_cons
  obtain ⟨w', ht', hw'⟩ := t'.exists_text_eq_cons
  obtain ⟨c, s', rfl⟩ := List.exists_cons_of_ne_nil hne
  -- what begins like a tag is all of the other one
  have hc : '<' = c := by
    rw [ht, List.cons_append, List.cons_prefix_cons] at hbegins
    exact hbegins.1
  rw [ht'] at hs
  rcases List.suffix_cons_iff.mp hs with hall | hs
  · rw [hall, ← ht'] at hbegins
    rcases List.prefix_or_prefix_of_prefix hbegins (List.prefix_append t'.text v) with hle | hle
    · exact h (eq_of_begins hle)
    · exact h (eq_of_begins hle).symm
  · exact hw' (hs.mem (hc ▸ List.mem_cons_self))

/-- A tag when some have been put in: as the page has it, or as the tool printed it. -/
def laid (done : List Tag) (t : Tag) : List Char := if t ∈ done then t.text else t.mark

@[simp] theorem laid_all (t : Tag) : t.laid all = t.text := by cases t <;> rfl

@[simp] theorem laid_self (t : Tag) (done : List Tag) : t.laid (t :: done) = t.text :=
  if_pos List.mem_cons_self

theorem laid_of_mem {t : Tag} {done : List Tag} (h : t ∈ done) : t.laid done = t.text := if_pos h

theorem laid_of_notMem {t : Tag} {done : List Tag} (h : t ∉ done) : t.laid done = t.mark := if_neg h

theorem laid_of_ne {t t' : Tag} (h : t' ≠ t) (done : List Tag) :
    t'.laid (t :: done) = t'.laid done := by simp [laid, h]

end Tag

/-! ### Pieces -/

/-- What the body of a page is made of. -/
inductive Piece
  | plain (c : Char)
  | tag (t : Tag)
deriving DecidableEq

/-- The character of a piece that is one. -/
def Piece.char? : Piece → Option Char
  | .plain c => some c
  | .tag _ => none

/-- A piece when some tags have been put in. -/
def Piece.laid (done : List Tag) : Piece → List Char
  | .plain c => [c]
  | .tag t => t.laid done

/-- Pieces laid out one after the other. -/
def laid (done : List Tag) (ps : List Piece) : List Char := ps.flatMap (Piece.laid done)

@[simp] theorem laid_append (done : List Tag) (ps qs : List Piece) :
    laid done (ps ++ qs) = laid done ps ++ laid done qs := List.flatMap_append

@[simp] theorem laid_plain_cons (done : List Tag) (c : Char) (ps : List Piece) :
    laid done (.plain c :: ps) = c :: laid done ps := rfl

@[simp] theorem laid_tag_cons (done : List Tag) (t : Tag) (ps : List Piece) :
    laid done (.tag t :: ps) = t.laid done ++ laid done ps := rfl

@[simp] theorem laid_map_plain (done : List Tag) (s : List Char) :
    laid done (s.map .plain) = s := by
  induction s with
  | nil => rfl
  | cons c s ih => rw [List.map_cons, laid_plain_cons, ih]

/-- What a layout begins with is plain, or runs into a tag. -/
theorem plain_or_tag_of_prefix {m : List Char} {done : List Tag} {ps : List Piece}
    (h : m <+: laid done ps) :
    (∃ rest, ps = m.map .plain ++ rest) ∨
      ∃ m₁ m₂ t rest, m = m₁ ++ m₂ ∧ m₂ ≠ [] ∧ ps = m₁.map .plain ++ .tag t :: rest ∧
        m₂ <+: t.laid done ++ laid done rest := by
  induction m generalizing ps with
  | nil => exact Or.inl ⟨ps, rfl⟩
  | cons c m ih =>
    cases ps with
    | nil => simp [laid] at h
    | cons p ps =>
      cases p with
      | plain d =>
        rw [laid_plain_cons, List.cons_prefix_cons] at h
        obtain ⟨rfl, hm⟩ := h
        rcases ih hm with ⟨rest, rfl⟩ | ⟨m₁, m₂, t, rest, rfl, hne, rfl, hbegins⟩
        · exact Or.inl ⟨rest, rfl⟩
        · exact Or.inr ⟨c :: m₁, m₂, t, rest, rfl, hne, rfl, hbegins⟩
      | tag t => exact Or.inr ⟨[], c :: m, t, ps, rfl, by simp, rfl, h⟩

/-- A character of a page stands in one of its pieces. -/
theorem exists_piece {ps : List Piece} {done : List Tag} {before after : List Char} {c : Char}
    (h : laid done ps = before ++ c :: after) :
    ∃ p ∈ ps, ∃ u w, p.laid done = u ++ c :: w ∧ u <:+ before ∧ w <+: after := by
  induction ps generalizing before with
  | nil => simp [laid] at h
  | cons p ps ih =>
    have hlaid : p.laid done ++ laid done ps = before ++ c :: after := h
    rcases List.append_eq_append_iff.mp hlaid with ⟨v, rfl, hrest⟩ | ⟨v, hp, hrest⟩
    · obtain ⟨q, hq, u, w, hlaid, hu, hw⟩ := ih hrest
      exact ⟨q, List.mem_cons_of_mem p hq, u, w, hlaid, hu.trans (List.suffix_append _ _), hw⟩
    · cases v with
      | nil =>
        -- the piece ends before the character
        have hnext : laid done ps = [] ++ c :: after := hrest.symm
        obtain ⟨q, hq, u, w, hlaid, hu, hw⟩ := ih hnext
        exact ⟨q, List.mem_cons_of_mem p hq, u, w, hlaid, hu.trans List.nil_suffix, hw⟩
      | cons d v =>
        obtain ⟨rfl, hafter⟩ := List.cons.inj hrest
        exact ⟨p, List.mem_cons_self, before, v, hp, List.suffix_rfl, hafter ▸ List.prefix_append _ _⟩

/-! ### A pass -/

/-- Pieces that come to the same when all tags are marks, with no new plain character. -/
structure Refines (ps qs : List Piece) : Prop where
  printed : laid [] qs = laid [] ps
  plain : ∀ c, .plain c ∈ qs → .plain c ∈ ps

theorem Refines.trans {ps qs rs : List Piece} (h : Refines ps qs) (h' : Refines qs rs) :
    Refines ps rs :=
  ⟨h'.printed.trans h.printed, fun c hc => h.plain c (h'.plain c hc)⟩

theorem Refines.cons {ps qs : List Piece} (h : Refines ps qs) (p : Piece) :
    Refines (p :: ps) (p :: qs) := by
  refine ⟨congrArg (p.laid [] ++ ·) h.printed, ?_⟩
  intro c hc
  rcases List.mem_cons.mp hc with rfl | hc
  · exact List.mem_cons_self
  · exact List.mem_cons_of_mem p (h.plain c hc)

theorem Refines.mark {ps qs : List Piece} (h : Refines ps qs) (t : Tag) :
    Refines (t.mark.map .plain ++ ps) (.tag t :: qs) := by
  refine ⟨by simp [h.printed, Tag.laid], ?_⟩
  intro c hc
  rw [List.mem_cons] at hc
  exact List.mem_append_right _ (h.plain c (hc.resolve_left (by simp)))

/-- What has no `<` is found among plain characters only. -/
theorem exists_plain_of_prefix {m : List Char} (hm : '<' ∉ m) {ps : List Piece}
    (h : m <+: laid Tag.all ps) : ∃ rest, ps = m.map .plain ++ rest := by
  rcases plain_or_tag_of_prefix h with hplain | ⟨m₁, m₂, t, rest, rfl, hne, -, hbegins⟩
  · exact hplain
  · obtain ⟨w, ht, -⟩ := t.exists_text_eq_cons
    obtain ⟨c, m₂, rfl⟩ := List.exists_cons_of_ne_nil hne
    rw [Tag.laid_all, ht, List.cons_append, List.cons_prefix_cons] at hbegins
    exact absurd (List.mem_append_right m₁ (hbegins.1 ▸ List.mem_cons_self)) hm

/-- **A pass turns plain characters into tags** and leaves the tags that are there alone. -/
theorem refines_pass (t : Tag) (ps : List Piece) :
    ∃ qs, replaceAll t.mark t.text (laid Tag.all ps) = laid Tag.all qs ∧ Refines ps qs := by
  induction hlength : ps.length using Nat.strongRecOn generalizing ps with
  | _ n ih =>
    by_cases hmark : t.mark <+: laid Tag.all ps
    · obtain ⟨rest, rfl⟩ := exists_plain_of_prefix t.less_notMem_mark hmark
      have hpos : 0 < t.mark.length := List.length_pos_iff.mpr t.mark_ne_nil
      simp only [List.length_append, List.length_map] at hlength
      obtain ⟨qs, hqs, href⟩ := ih rest.length (by omega) rest rfl
      refine ⟨.tag t :: qs, ?_, href.mark t⟩
      rw [laid_append, laid_map_plain, replaceAll_old t.mark_ne_nil, hqs, laid_tag_cons,
        Tag.laid_all]
    · cases ps with
      | nil => exact ⟨[], replaceAll_nil _ _, rfl, fun c hc => hc⟩
      | cons p ps =>
        rw [List.length_cons] at hlength
        obtain ⟨qs, hqs, href⟩ := ih ps.length (by omega) ps rfl
        refine ⟨p :: qs, ?_, href.cons p⟩
        cases p with
        | plain c =>
          rw [laid_plain_cons] at hmark ⊢
          rw [replaceAll_cons hmark, hqs, laid_plain_cons]
        | tag t' =>
          obtain ⟨w, hw⟩ := t.exists_mark_eq_cons
          rw [laid_tag_cons, laid_tag_cons, Tag.laid_all, ← hqs, hw]
          exact replaceAll_append_of_head t'.hash_notMem_text _

/-- The body of a page as pieces: marked again they are the escaped text. -/
theorem exists_pieces (s : List Char) :
    ∃ ps, tagMarks (escapeChars s) = laid Tag.all ps ∧ laid [] ps = escapeChars s ∧
      ∀ c, .plain c ∈ ps → c ≠ '<' ∧ c ≠ '>' := by
  obtain ⟨ps₁, h₁, href₁⟩ := refines_pass .delete ((escapeChars s).map .plain)
  obtain ⟨ps₂, h₂, href₂⟩ := refines_pass .insert ps₁
  obtain ⟨ps₃, h₃, href₃⟩ := refines_pass .close ps₂
  have href := (href₁.trans href₂).trans href₃
  rw [laid_map_plain] at h₁
  refine ⟨ps₃, ?_, ?_, ?_⟩
  · rw [← h₃, ← h₂, ← h₁]
    rfl
  · rw [href.printed, laid_map_plain]
  · intro c hc
    obtain ⟨d, hd, hcd⟩ := List.mem_map.mp (href.plain c hc)
    obtain rfl : d = c := by simpa using hcd
    exact ne_of_mem_escapeChars hd

/-! ### The way back -/

/-- The body of a page with its tags turned into marks. -/
def unmark (s : List Char) : List Char :=
  replaceAll deleteTag.toList deleteMark.toList
    (replaceAll insertTag.toList insertMark.toList
      (replaceAll closeTag.toList endMark.toList s))

/-- A tag that was put in last is turned into its mark again. -/
theorem replaceAll_text (t : Tag) {done : List Tag} (ht : t ∉ done) {ps : List Piece}
    (hps : ∀ c, .plain c ∈ ps → c ≠ '<') :
    replaceAll t.text t.mark (laid (t :: done) ps) = laid done ps := by
  obtain ⟨w, htext, -⟩ := t.exists_text_eq_cons
  induction ps with
  | nil => exact replaceAll_nil _ _
  | cons p ps ih =>
    have hrest := ih fun c hc => hps c (List.mem_cons_of_mem p hc)
    cases p with
    | plain c =>
      have hc : '<' ∉ [c] := by
        rw [List.mem_singleton]
        exact (hps c List.mem_cons_self).symm
      rw [laid_plain_cons, laid_plain_cons, ← hrest, htext]
      exact replaceAll_append_of_head hc _
    | tag t' =>
      rw [laid_tag_cons, laid_tag_cons, ← hrest]
      by_cases hself : t' = t
      · rw [hself, Tag.laid_self, Tag.laid_of_notMem ht, replaceAll_old t.text_ne_nil]
      · rw [Tag.laid_of_ne hself]
        by_cases hdone : t' ∈ done
        · rw [Tag.laid_of_mem hdone]
          apply replaceAll_append
          intro s hs hne
          exact Tag.not_prefix_of_ne (Ne.symm hself) hs hne _
        · rw [Tag.laid_of_notMem hdone, htext]
          exact replaceAll_append_of_head t'.less_notMem_mark _

theorem unmark_laid {ps : List Piece} (h : ∀ c, .plain c ∈ ps → c ≠ '<') :
    unmark (laid Tag.all ps) = laid [] ps := by
  have hclose := replaceAll_text .close (by decide : Tag.close ∉ [Tag.insert, Tag.delete]) h
  have hinsert := replaceAll_text .insert (by decide : Tag.insert ∉ [Tag.delete]) h
  have hdelete := replaceAll_text .delete List.not_mem_nil h
  show replaceAll Tag.delete.text Tag.delete.mark (replaceAll Tag.insert.text Tag.insert.mark
    (replaceAll Tag.close.text Tag.close.mark (laid Tag.all ps))) = laid [] ps
  rw [Tag.all, hclose, hinsert, hdelete]

/-! ### The page -/

theorem html_ofOutput (output : Bytes) : (Page.ofOutput output).html =
    Page.styleHead ++ "<pre>" ++
      String.ofList (tagMarks (escapeChars (Utf8.decodeLossy output).toList)) ++ "</pre>" := rfl

/-- The body of the page of an output: its only markup are the three tags, and with those turned
into marks and the escapes undone it is the output. -/
structure Faithful (output : Bytes) (body : List Char) : Prop where
  html : (Page.ofOutput output).html =
    Page.styleHead ++ "<pre>" ++ String.ofList body ++ "</pre>"
  opens : ∀ before after, body = before ++ '<' :: after → ∃ t : Tag, t.text <+: '<' :: after
  closes : ∀ before after, body = before ++ '>' :: after → ∃ t : Tag, t.text <:+ before ++ ['>']
  restored : unescape (unmark body) = (Utf8.decodeLossy output).toList

theorem exists_faithful (output : Bytes) : ∃ body, Faithful output body := by
  obtain ⟨ps, hbody, hprinted, hplain⟩ := exists_pieces (Utf8.decodeLossy output).toList
  refine ⟨laid Tag.all ps, ?_, ?_, ?_, ?_⟩
  · rw [html_ofOutput, hbody]
  · intro before after h
    obtain ⟨p, hp, u, w, hlaid, -, hw⟩ := exists_piece h
    cases p with
    | plain c =>
      have hmem : '<' ∈ [c] := by
        rw [show [c] = u ++ '<' :: w from hlaid]
        simp
      exact absurd (List.mem_singleton.mp hmem).symm (hplain c hp).1
    | tag t =>
      obtain ⟨v, ht, hv⟩ := t.exists_text_eq_cons
      rw [Piece.laid, Tag.laid_all] at hlaid
      refine ⟨t, ?_⟩
      cases u with
      | nil =>
        rw [hlaid]
        exact (List.cons_prefix_cons).mpr ⟨rfl, hw⟩
      | cons d u =>
        rw [ht, List.cons_append] at hlaid
        exact absurd ((List.cons.inj hlaid).2 ▸ by simp) hv
  · intro before after h
    obtain ⟨p, hp, u, w, hlaid, hu, -⟩ := exists_piece h
    cases p with
    | plain c =>
      have hmem : '>' ∈ [c] := by
        rw [show [c] = u ++ '>' :: w from hlaid]
        simp
      exact absurd (List.mem_singleton.mp hmem).symm (hplain c hp).2
    | tag t =>
      obtain ⟨v, ht, hv⟩ := t.exists_text_eq_concat
      rw [Piece.laid, Tag.laid_all] at hlaid
      obtain ⟨z, rfl⟩ := hu
      rcases List.eq_nil_or_concat w with rfl | ⟨w', d, rfl⟩
      · exact ⟨t, z, by rw [hlaid, List.append_assoc]⟩
      · rw [ht, List.concat_eq_append, ← List.cons_append, ← List.append_assoc] at hlaid
        exact absurd ((List.append_inj' hlaid rfl).1 ▸ by simp) hv
  · rw [unmark_laid fun c hc => (hplain c hc).1, hprinted, unescape_escapeChars]

theorem Faithful.html_inj {output output' : Bytes} {body body' : List Char}
    (h : Faithful output body) (h' : Faithful output' body')
    (heq : (Page.ofOutput output).html = (Page.ofOutput output').html) : body = body' := by
  rw [h.html, h'.html] at heq
  have hlist := congrArg String.toList heq
  simp only [String.toList_append, String.toList_ofList] at hlist
  exact List.append_cancel_left (List.append_cancel_right hlist)

/-- **A page loses nothing of the output and has no markup but the tags.**  So two outputs have one
page exactly when they are one text. -/
theorem faithful_html :
    (∀ output, ∃ body, Faithful output body) ∧
    ∀ output output', (Page.ofOutput output).html = (Page.ofOutput output').html ↔
      Utf8.decodeLossy output = Utf8.decodeLossy output' := by
  refine ⟨exists_faithful, ?_⟩
  intro output output'
  obtain ⟨body, h⟩ := exists_faithful output
  obtain ⟨body', h'⟩ := exists_faithful output'
  constructor
  · intro heq
    have hbody := h.html_inj h' heq
    apply String.toList_inj.mp
    rw [← h.restored, ← h'.restored, hbody]
  · intro heq
    rw [Page.ofOutput, Page.ofOutput, heq]

-- two marks that share their middle: what is looked for first is found
example : replaceAll deleteMark.toList deleteTag.toList "##WDIFF_ADD##WDIFF_DEL##".toList =
    "##WDIFF_ADD<span class=del>".toList := by cbv

end Baseline.WordDiff
