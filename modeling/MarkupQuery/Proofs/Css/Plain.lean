import MarkupQuery.Css.Reader
import MarkupQuery.Proofs.Css.Lexical
import MarkupQuery.Proofs.Selector.RoundTrip

namespace MarkupQuery.Css

open MarkupQuery.Selector Text

variable {c q : Char} {cs rest : List Char}

def Unread (P : List Char → Prop) (cs : List Char) : Prop := ∀ ds, ds.map withoutNull = cs → P ds

def Takes (R : List Char → Prop) (rest cs : List Char) : Prop :=
  ∃ body left, cs = body ++ left ∧ left.map withoutNull = rest ∧ R body

lemma eq_of_withoutNull {d : Char} (h : withoutNull d = c) (hc : c ≠ replacement) : d = c := by
  rw [withoutNull] at h
  split at h
  · exact absurd h.symm hc
  · exact h

lemma withoutNull_of_mem_marks (hc : c ∈ marks) : withoutNull c = c :=
  have hnull : (marks.any fun d => d.toNat == 0) = false := by decide
  if_neg fun hc' => notMem_marks hnull (beq_iff_eq.mpr hc') hc

lemma notMem_marks_of_withoutNull (h : withoutNull c ∉ marks) : c ∉ marks := by
  intro hc
  rw [withoutNull_of_mem_marks hc] at h
  exact h hc

lemma Lexical.unread {P : List Char → Prop} (hP : Lexical P) : Lexical (Unread P) where
  char := by
    intro c cs hc h ds hds
    obtain ⟨d, ds, rfl, rfl, htail⟩ := List.map_eq_cons_iff.mp hds
    exact hP.char (notMem_marks_of_withoutNull hc) (h ds htail)
  escape := by
    intro c cs h ds hds
    obtain ⟨b, ds, rfl, hb, htail⟩ := List.map_eq_cons_iff.mp hds
    obtain ⟨d, ds, rfl, -, hrest⟩ := List.map_eq_cons_iff.mp htail
    obtain rfl := eq_of_withoutNull hb (by decide)
    exact hP.escape d (h ds hrest)
  ending := by
    intro cs hcs h ds hds
    obtain ⟨b, ds, rfl, hb, htail⟩ := List.map_eq_cons_iff.mp hds
    obtain rfl := eq_of_withoutNull hb (by decide)
    refine hP.ending ?_ (h ds htail)
    rcases hcs with rfl | rfl
    · exact .inl (List.map_eq_nil_iff.mp htail)
    · obtain ⟨d, ds, rfl, hd, hrest⟩ := List.map_eq_cons_iff.mp htail
      obtain rfl := eq_of_withoutNull hd (by decide)
      exact .inr (by rw [List.map_eq_nil_iff.mp hrest])

lemma lexical_takes {R : List Char → Prop} (hchar : ∀ c cs, c ∉ marks → R cs → R (c :: cs))
    (hescape : ∀ c cs, R cs → R ('\\' :: c :: cs))
    (hlast : ∀ cs, R cs → ∃ c ∈ cs.getLast?, c ∈ marks) : Lexical (Takes R rest) where
  char := by
    rintro c cs hc ⟨body, left, rfl, hleft, hbody⟩
    exact ⟨c :: body, left, rfl, hleft, hchar c body hc hbody⟩
  escape := by
    rintro c cs ⟨body, left, rfl, hleft, hbody⟩
    exact ⟨'\\' :: c :: body, left, rfl, hleft, hescape c body hbody⟩
  ending := by
    rintro cs hcs ⟨body, left, rfl, -, hbody⟩
    obtain ⟨c, hc, hmark⟩ := hlast body hbody
    have hmem : c ∈ body ++ left := List.mem_append_left _ (List.mem_of_getLast? hc)
    rcases hcs with hnil | hbreak
    · rw [hnil] at hmem
      cases hmem
    · rw [hbreak] at hmem
      obtain rfl := List.mem_singleton.mp hmem
      exact absurd hmark (by decide)

lemma ordinary_of_notMem_marks (hc : c ∉ marks) :
    c ≠ '\\' ∧ isQuote c = false ∧ c ≠ '[' ∧ c ≠ ']' ∧ c ≠ ':' := by
  simp only [marks, List.mem_cons, List.not_mem_nil, or_false, not_or] at hc
  simp [isQuote, hc]

lemma mem_marks_of_isQuote (hq : isQuote q = true) : q ∈ marks := by
  simp only [isQuote, Bool.or_eq_true, beq_iff_eq] at hq
  rcases hq with rfl | rfl <;> decide

lemma lexical_block : Lexical (Takes BlockRest rest) := by
  refine lexical_takes (fun c cs hc h => ?_) (fun c _ h => .escape c h) fun _ h =>
    ⟨']', h.getLast?, by decide⟩
  obtain ⟨hback, hquote, -, hclose, -⟩ := ordinary_of_notMem_marks hc
  exact .char hback hquote hclose h

lemma lexical_quoted (hq : isQuote q = true) : Lexical (Takes (QuotedRest q) rest) := by
  refine lexical_takes (fun c cs hc h => ?_) (fun c _ h => .escape c h) fun _ h =>
    ⟨q, h.getLast?, mem_marks_of_isQuote hq⟩
  have hne : c ≠ q := (ne_of_mem_of_not_mem (mem_marks_of_isQuote hq) hc).symm
  exact .char (ordinary_of_notMem_marks hc).1 hne h

lemma lexical_plain : Lexical Plain where
  char := by
    intro c cs hc h
    obtain ⟨hback, hquote, hbracket, -, hcolon⟩ := ordinary_of_notMem_marks hc
    exact h.cons_item (.char [] hback hquote hbracket hcolon) (by simp [hback])
  escape c _ h := h.cons_item (.escape c []) (by simp)
  ending := by
    rintro cs (rfl | rfl) -
    · exact ⟨[_], .cons .ending .nil, by simp⟩
    · exact plain_nil.cons_item (.escape '\n' []) (by simp)

lemma goesBack_quotedPiece (hq : isQuote q = true) :
    (quotedPiece q).GoesBack (Unread (Takes (QuotedRest q) rest)) := by
  refine (lexical_quoted hq).unread.quotedPiece fun c cs hquote hback hcs ds hds => ?_
  obtain ⟨d, ds, rfl, hd, htail⟩ := List.map_eq_cons_iff.mp hds
  have hne (b : Char) (hb : b ∈ marks) (hcb : c ≠ b) : d ≠ b := by
    rintro rfl
    exact hcb (hd.symm.trans (withoutNull_of_mem_marks hb))
  obtain ⟨body, left, rfl, hread, hbody⟩ := hcs ds htail
  exact ⟨d :: body, left, rfl, hread,
    .char (hne _ (by decide) hback) (hne q (mem_marks_of_isQuote hq) hquote) hbody⟩

lemma takes_quotedValue (hq : isQuote q = true) {s : Spelling}
    (h : quotedValue q cs = some (s, rest)) : Unread (Takes (QuotedRest q) rest) cs := by
  refine (goesBack_quotedPiece hq).many ?_
  rw [(quotedValue_eq_some_iff.mp h).1]
  intro ds hds
  obtain ⟨d, ds, rfl, hd, htail⟩ := List.map_eq_cons_iff.mp hds
  obtain rfl := eq_of_withoutNull hd (by rintro rfl; exact absurd hq (by decide))
  exact ⟨[d], ds, rfl, htail, .close⟩

lemma goesBack_value {left : List Char} : value.GoesBack (Unread (Takes BlockRest left)) := by
  have hquoted (q : Char) (hq : isQuote q = true) (cs rest : List Char) (s : Spelling)
      (h : quotedValue q cs = some (s, rest)) (hrest : Unread (Takes BlockRest left) rest) :
      Unread (Takes BlockRest left) (q :: cs) := by
    intro ds hds
    obtain ⟨d, ds, rfl, hd, htail⟩ := List.map_eq_cons_iff.mp hds
    obtain rfl := eq_of_withoutNull hd (by rintro rfl; exact absurd hq (by decide))
    obtain ⟨inner, tail, rfl, hread, hinner⟩ := takes_quotedValue hq h ds htail
    obtain ⟨body, tail, rfl, hread, hbody⟩ := hrest tail hread
    exact ⟨d :: (inner ++ body), tail, by simp, hread, .quoted hq hinner hbody⟩
  intro cs s rest h hrest
  unfold value at h
  split at h
  · exact hquoted '"' rfl _ _ s h hrest
  · exact hquoted '\'' rfl _ _ s h hrest
  · exact lexical_block.unread.identifier cs s rest h hrest

lemma takes_brackets {a : Option Simple} (h : Brackets skipGaps cs a rest) :
    Unread (Takes BlockRest rest) cs := by
  refine lexical_block.unread.brackets (fun _ => lexical_block.unread.skipGaps) goesBack_value h
    fun ds hds => ?_
  obtain ⟨d, ds, rfl, hd, hread⟩ := List.map_eq_cons_iff.mp hds
  obtain rfl := eq_of_withoutNull hd (by decide)
  exact ⟨[']'], ds, rfl, hread, .close⟩

end MarkupQuery.Css
