import MarkupQuery.Proofs.Css.Compound
import MarkupQuery.Proofs.Css.Continuation

namespace MarkupQuery.Css

open Text

variable {c e : Char} {cs rest tail : List Char} {ts : List Token}

-- What a text without colons starts with, as a token, and what is left after it.
inductive Starts : List Char → Token → List Char → Prop
  | atRule {name : Spelling} {c : Char} {cs rest : List Char} (hc : (c == 'p' || c == 'P') = true)
      (h : identifier cs = some (name, rest)) : Starts ('@' :: c :: cs) .unsupported rest
  | scope (cs : List Char) : Starts ('&' :: cs) (.simple (some .scope)) cs
  | id {name : Spelling} {cs rest : List Char} (h : identifier cs = some (name, rest)) :
      Starts ('#' :: cs) (.simple (name.simple? .id)) rest
  | className {name : Spelling} {cs rest : List Char} (h : identifier cs = some (name, rest)) :
      Starts ('.' :: cs) (.simple (name.simple? .className)) rest
  | test {a : Option Simple} {cs rest : List Char} (h : bracketed cs = some (a, rest)) :
      Starts ('[' :: cs) (.simple a) rest
  | type {a : Option Simple} {cs rest : List Char} (h : typeSelector cs = some (a, rest)) :
      Starts cs (.leading a) rest
  | sign {t : Token} {cs rest : List Char} (h : separator cs = some ([t], rest)) : Starts cs t rest

def signs : List Char := [')', ',', '>', '+', '~']

lemma skipSeparation?_of_none (h : space cs = none) : skipSeparation? cs = none := by
  rw [skipSeparation?, many_of_none h]
  rfl

lemma mem_of_separator (h : separator (c :: cs) = some (ts, rest)) :
    c ∈ '/' :: signs ∨ isGap c = true := by
  by_contra hc
  obtain ⟨hsign, hgap⟩ := not_or.mp hc
  simp only [signs, List.mem_cons, List.not_mem_nil, or_false, not_or] at hsign
  have hspace : space (c :: cs) = none := space_of_not_gap (by simpa using hgap) hsign.1
  simp [separator, skipSpace_of_none hspace, skipSeparation?_of_none hspace, hsign] at h

lemma separator_nil : separator [] = none := by
  rw [separator, skipSpace_of_none rfl, skipSeparation?_of_none rfl]
  rfl

lemma token_of_separator (h : separator cs = some (ts, rest)) : token cs = some (ts, rest) := by
  cases cs with
  | nil =>
    rw [separator_nil] at h
    cases h
  | cons c cs =>
    have hc := mem_of_separator h
    simp only [signs, isGap, List.mem_cons, List.not_mem_nil, or_false, Bool.or_eq_true,
      beq_iff_eq] at hc
    -- No other token starts with such a character.
    rcases hc with (rfl | rfl | rfl | rfl | rfl | rfl) | (((rfl | rfl) | rfl) | rfl) | rfl
    all_goals exact h

lemma skipSeparation?_eq_some (h : skipSeparation? cs = some rest) : rest = skipSpace cs := by
  rw [skipSeparation?] at h
  dsimp only at h
  split at h
  · exact (Option.some.inj h).symm
  · cases h

lemma exists_of_separator (h : separator cs = some (ts, rest)) :
    ∃ t, ts = [t] ∧
      ((skipSpace cs = ')' :: rest ∧ t = .closing) ∨
        (∃ left, skipSpace cs = ',' :: left ∧ rest = skipSpace left ∧ t = .comma) ∨
        (∃ d a left, d.sign? = some a ∧ skipSpace cs = a :: left ∧ rest = skipSpace left ∧
          t = .combinator d) ∨
        ((∀ c ∈ (skipSpace cs).head?, c ∉ signs) ∧ skipSeparation? cs = some rest ∧
          t = .combinator .descendant)) := by
  simp only [separator] at h
  split at h
  · next hcs =>
    obtain ⟨rfl, rfl⟩ := Prod.mk.inj (Option.some.inj h)
    exact ⟨_, rfl, .inl ⟨hcs, rfl⟩⟩
  · next hcs =>
    obtain ⟨rfl, rfl⟩ := Prod.mk.inj (Option.some.inj h)
    exact ⟨_, rfl, .inr (.inl ⟨_, hcs, rfl, rfl⟩)⟩
  · next hcs =>
    obtain ⟨rfl, rfl⟩ := Prod.mk.inj (Option.some.inj h)
    exact ⟨_, rfl, .inr (.inr (.inl ⟨.child, _, _, rfl, hcs, rfl, rfl⟩))⟩
  · next hcs =>
    obtain ⟨rfl, rfl⟩ := Prod.mk.inj (Option.some.inj h)
    exact ⟨_, rfl, .inr (.inr (.inl ⟨.next, _, _, rfl, hcs, rfl, rfl⟩))⟩
  · next hcs =>
    obtain ⟨rfl, rfl⟩ := Prod.mk.inj (Option.some.inj h)
    exact ⟨_, rfl, .inr (.inr (.inl ⟨.later, _, _, rfl, hcs, rfl, rfl⟩))⟩
  · next hclose hcomma hchild hnext hlater =>
    obtain ⟨left, hleft, h⟩ := Option.map_eq_some_iff.mp h
    obtain ⟨rfl, rfl⟩ := Prod.mk.inj h
    refine ⟨_, rfl, .inr (.inr (.inr ⟨fun c hc => ?_, hleft, rfl⟩))⟩
    obtain ⟨ds, hds⟩ := List.head?_eq_some_iff.mp hc
    simp only [signs, List.mem_cons, List.not_mem_nil, or_false, not_or]
    refine ⟨?_, ?_, ?_, ?_, ?_⟩ <;> rintro rfl
    exacts [hclose _ hds, hcomma _ hds, hchild _ hds, hnext _ hds, hlater _ hds]

lemma separator_suffix (h : separator cs = some (ts, rest)) : rest <:+ cs := by
  have hafter {a : Char} {left : List Char} (h : skipSpace cs = a :: left) : left <:+ cs :=
    ((List.suffix_cons a left).trans (h ▸ List.suffix_rfl)).trans (skipSpace_suffix cs)
  obtain ⟨t, -, hcase⟩ := exists_of_separator h
  rcases hcase with ⟨hcs, -⟩ | ⟨left, hcs, rfl, -⟩ | ⟨d, a, left, -, hcs, rfl, -⟩ | ⟨-, hrest, -⟩
  · exact hafter hcs
  · exact (skipSpace_suffix left).trans (hafter hcs)
  · exact (skipSpace_suffix left).trans (hafter hcs)
  · exact skipSeparation?_eq_some hrest ▸ skipSpace_suffix cs

lemma starts_of_token (hcolon : ':' ∉ cs) (h : token cs = some (ts, rest)) :
    ∃ t, ts = [t] ∧ Starts cs t rest := by
  unfold token at h
  split at h
  · simp at hcolon
  · simp at hcolon
  · split at h
    · next hc =>
      obtain ⟨⟨name, left⟩, hname, h⟩ := Option.map_eq_some_iff.mp h
      obtain ⟨rfl, rfl⟩ := Prod.mk.inj h
      exact ⟨_, rfl, .atRule hc hname⟩
    · cases h
  · obtain ⟨rfl, rfl⟩ := Prod.mk.inj (Option.some.inj h)
    exact ⟨_, rfl, .scope _⟩
  · obtain ⟨⟨name, left⟩, hname, h⟩ := Option.map_eq_some_iff.mp h
    obtain ⟨rfl, rfl⟩ := Prod.mk.inj h
    exact ⟨_, rfl, .id hname⟩
  · obtain ⟨⟨name, left⟩, hname, h⟩ := Option.map_eq_some_iff.mp h
    obtain ⟨rfl, rfl⟩ := Prod.mk.inj h
    exact ⟨_, rfl, .className hname⟩
  · obtain ⟨⟨a, left⟩, ha, h⟩ := Option.map_eq_some_iff.mp h
    obtain ⟨rfl, rfl⟩ := Prod.mk.inj h
    exact ⟨_, rfl, .test ha⟩
  · split at h
    · next a left ha =>
      obtain ⟨rfl, rfl⟩ := Prod.mk.inj (Option.some.inj h)
      exact ⟨_, rfl, .type ha⟩
    · obtain ⟨t, rfl, -⟩ := exists_of_separator h
      exact ⟨t, rfl, .sign h⟩

-- A text that ends neither with an open escape nor with a gap or a comment, that has no colon and
-- of which nothing is left when its tokens are read.
structure Whole (cs : List Char) : Prop where
  finished : Finished cs
  comment : ¬ ['*', '/'] <:+ cs
  colon : ':' ∉ cs
  read : (many token cs).2 = []

lemma eq_nil_of_skipSpace (hcs : Finished cs) (hcomment : ¬ ['*', '/'] <:+ cs)
    (h : skipSpace cs = []) : cs = [] := by
  -- From the end: the last gap or comment would end the text.
  rw [skipSpace] at h
  fun_induction many space cs with
  | case1 cs b rest hspace hlt bs rest' hmany ih =>
    rw [hmany] at ih
    have hsuffix := (space_suffix hspace).1
    obtain rfl := ih (hcs.of_suffix hsuffix) (fun h => hcomment (h.trans hsuffix)) h
    unfold space at hspace
    split at hspace
    · obtain ⟨left, hleft, hspace⟩ := Option.map_eq_some_iff.mp hspace
      obtain ⟨-, rfl⟩ := Prod.mk.inj hspace
      have hends := commentEnd?_suffix hleft
      exact absurd ((hends.trans (List.suffix_cons _ _)).trans (List.suffix_cons _ _)) hcomment
    · next c ds _ =>
      split at hspace
      · next hgap =>
        obtain ⟨-, rfl⟩ := Prod.mk.inj (Option.some.inj hspace)
        have hlast : isGap c = false := (hcs c rfl).2
        rw [hlast] at hgap
        cases hgap
      · cases hspace
    · cases hspace
  | case2 => exact h
  | case3 => exact h

lemma closingLength_eq_zero (hcs : Finished cs) (hcomment : ¬ ['*', '/'] <:+ cs) :
    closingLength cs = 0 := by
  induction cs with
  | nil => rfl
  | cons c cs ih =>
    have hsuffix := List.suffix_cons c cs
    have hne : skipSpace (c :: cs) ≠ [] := fun h => nomatch eq_nil_of_skipSpace hcs hcomment h
    rw [closingLength, if_neg (by simpa using hne)]
    exact ih (hcs.of_suffix hsuffix) fun h => hcomment (h.trans hsuffix)

lemma tokens_of_finished (hcs : Finished cs) (hcomment : ¬ ['*', '/'] <:+ cs) :
    tokens cs = ((many token (skipSpace cs)).1.flatten, (many token (skipSpace cs)).2.isEmpty) := by
  have htoken : tokenBefore 0 = token := by
    funext ds
    rw [tokenBefore]
    split
    · next h => rw [List.length_eq_zero_iff.mp (Nat.le_zero.mp h), token_nil]
    · rfl
  rw [tokens, closingLength_eq_zero hcs hcomment, htoken]
  generalize many token (skipSpace cs) = read
  obtain ⟨tss, rest⟩ := read
  cases rest <;> simp

lemma many_token_of_read (hread : (many token cs).2 = []) (h : token cs = some (ts, rest)) :
    (many token rest).2 = [] := by
  by_cases hlt : rest.length < cs.length
  · rw [many_cons h hlt] at hread
    exact hread
  · have hmany : many token cs = ([], cs) := by
      rw [many, h]
      simp [hlt]
    rw [hmany] at hread
    rw [show cs = [] from hread, token_nil] at h
    cases h

lemma head?_of_read (hread : (many token cs).2 = []) (hskip : skipSpace cs = cs) :
    cs.head? ≠ some '/' := by
  intro hslash
  obtain ⟨ds, rfl⟩ := List.head?_eq_some_iff.mp hslash
  have hspace : space ('/' :: ds) = none := by
    rw [← hskip]
    exact many_end (fun _ _ _ h => (space_suffix h).2) _
  have hnone : token ('/' :: ds) = none := by
    change separator ('/' :: ds) = none
    simp [separator, skipSpace_of_none hspace, skipSeparation?_of_none hspace]
  rw [many_of_none hnone] at hread
  cases hread

lemma skipSeparation?_append (he : IsStop e) (hslash : (skipSpace cs).head? ≠ some '/')
    (h : skipSeparation? cs = some rest) :
    skipSeparation? (cs ++ e :: tail) = some (rest ++ e :: tail) := by
  rw [skipSeparation?] at h
  rw [skipSeparation?, many_space_append he hslash]
  generalize many space cs = read at h ⊢
  obtain ⟨gaps, left⟩ := read
  dsimp only [leaving] at h ⊢
  split at h
  · next hgap =>
    obtain rfl := Option.some.inj h
    rw [if_pos hgap]
  · cases h

lemma separator_append (he : IsStop e) (hcs : Finished cs) (hcomment : ¬ ['*', '/'] <:+ cs)
    (hrest : (many token rest).2 = []) (h : separator cs = some (ts, rest)) :
    separator (cs ++ e :: tail) = some (ts, rest ++ e :: tail) := by
  have hsign {a : Char} {left : List Char} (ha : a ≠ '/') (h : skipSpace cs = a :: left) :
      skipSpace (cs ++ e :: tail) = a :: (left ++ e :: tail) := by
    rw [skipSpace_append he (by simp [h, ha]), h]
    rfl
  have hafter {left : List Char} (h : rest = skipSpace left) :
      skipSpace (left ++ e :: tail) = rest ++ e :: tail := by
    rw [h] at hrest ⊢
    exact skipSpace_append he (head?_of_read hrest (skipSpace_skipSpace left)) tail
  obtain ⟨t, rfl, hcase⟩ := exists_of_separator h
  rcases hcase with ⟨hread, rfl⟩ | ⟨left, hread, hleft, rfl⟩ | ⟨d, a, left, hd, hread, hleft, rfl⟩ |
    ⟨hnot, hread, rfl⟩
  · rw [separator, hsign (by decide) hread]
    rfl
  · rw [separator, hsign (by decide) hread]
    simp [hafter hleft]
  · cases d <;> cases hd
    all_goals
      rw [separator, hsign (by decide) hread]
      simp [hafter hleft]
  · obtain rfl := skipSeparation?_eq_some hread
    have hslash := head?_of_read hrest (skipSpace_skipSpace cs)
    cases hcs' : skipSpace cs with
    | nil =>
      rw [eq_nil_of_skipSpace hcs hcomment hcs', separator_nil] at h
      cases h
    | cons c ds =>
      have hc : c ∉ signs := hnot c (by rw [hcs']; rfl)
      simp only [signs, List.mem_cons, List.not_mem_nil, or_false, not_or] at hc
      have hskip : skipSpace (cs ++ e :: tail) = c :: (ds ++ e :: tail) := by
        rw [skipSpace_append he hslash, hcs', List.cons_append]
      rw [separator, hskip]
      simp [hc, skipSeparation?_append he hslash hread, hcs']

namespace Starts

variable {t : Token}

lemma token (h : Starts cs t rest) : token cs = some ([t], rest) := by
  cases h with
  | @atRule name c cs _ hc h =>
    change (if c == 'p' || c == 'P' then _ else _) = _
    rw [hc, h]
    rfl
  | scope => rfl
  | id h => exact token_id h
  | className h => exact token_className h
  | test h => exact token_of_brackets (bracketed_eq_some_iff.mp h)
  | type h => exact token_of_typeSelector h
  | sign h => exact token_of_separator h

lemma suffix (h : Starts cs t rest) : rest <:+ cs := by
  have hcons {c : Char} {cs : List Char} (h : rest <:+ cs) : rest <:+ c :: cs :=
    h.trans (List.suffix_cons c cs)
  cases h with
  | atRule _ h => exact hcons (hcons (identifier_suffix h))
  | scope => exact hcons List.suffix_rfl
  | id h | className h => exact hcons (identifier_suffix h)
  | test h => exact hcons (bracketed_suffix h)
  | type h => exact typeSelector_suffix h
  | sign h => exact separator_suffix h

lemma append (h : Starts cs t rest) (he : IsStop e) (hcs : Finished cs)
    (hcomment : ¬ ['*', '/'] <:+ cs) (hrest : (many Css.token rest).2 = []) (tail : List Char) :
    Starts (cs ++ e :: tail) t (rest ++ e :: tail) := by
  have hname {name : Spelling} {cs : List Char} (hcs : Finished cs)
      (h : identifier cs = some (name, rest)) :
      identifier (cs ++ e :: tail) = some (name, rest ++ e :: tail) := by
    rw [identifier_append he hcs, h]
    rfl
  cases h with
  | atRule hc h =>
    have hcs := (hcs.of_suffix (List.suffix_cons _ _)).of_suffix (List.suffix_cons _ _)
    exact .atRule hc (hname hcs h)
  | scope => exact .scope _
  | id h => exact .id (hname (hcs.of_suffix (List.suffix_cons _ _)) h)
  | className h => exact .className (hname (hcs.of_suffix (List.suffix_cons _ _)) h)
  | test h => exact .test (bracketed_append he (hcs.of_suffix (List.suffix_cons _ _)) h)
  | type h =>
    refine .type ?_
    rw [typeSelector_append he hcs, h]
    rfl
  | sign h => exact .sign (separator_append he hcs hcomment hrest h)

end Starts

section Flat

variable {lib : Library} {o : Origin} {n : Node} {s : Simple} {b : Bool}

def Simple.IsFlat (s : Simple) : Prop :=
  ∀ (lib : Library) (o : Origin) (n : Node), ∃ b, Yields (s.accepts lib o n) b

def Simple.holds (lib : Library) (o : Origin) (n : Node) (s : Simple) : Bool :=
  ((s.accepts lib o n).run .empty).1

lemma Simple.holds_eq (h : Yields (s.accepts lib o n) b) : s.holds lib o n = b := h .empty

lemma Simple.IsFlat.yields (h : s.IsFlat) (lib : Library) (o : Origin) (n : Node) :
    Yields (s.accepts lib o n) (s.holds lib o n) := by
  obtain ⟨b, hb⟩ := h lib o n
  rwa [Simple.holds_eq hb]

lemma allAccept_yields_all {ss : List Simple}
    (h : ∀ s ∈ ss, Yields (s.accepts lib o n) (s.holds lib o n)) :
    Yields (allAccept lib o ss n) (ss.all (Simple.holds lib o n)) := by
  induction ss with
  | nil => exact .of_pure true
  | cons s ss ih =>
    obtain ⟨hs, hss⟩ := List.forall_mem_cons.mp h
    refine hs.bind ?_
    have hrest := (ih hss).map (· && s.holds lib o n)
    rw [List.all_cons, Bool.and_comm]
    split
    · exact hrest
    · next hrefused =>
      rw [Bool.or_eq_true, not_or, Bool.not_eq_true] at hrefused
      rw [hrefused.1, Bool.and_false]
      exact .of_pure false

lemma anyAccepts_singleton_yields {c : Complex} (h : Yields (c.accepts lib o n) b) :
    Yields (anyAccepts lib o [c] n) b := by
  refine h.bind ?_
  cases b <;> exact .of_pure _

lemma Simple.isFlat_attribute (test : AttributeTest) : (Simple.attribute test).IsFlat := by
  intro lib o n
  simp only [accepts]
  split <;> exact ⟨_, .of_pure _⟩

lemma Simple.IsPart.isFlat (h : s.IsPart) : s.IsFlat := by
  intro lib o n
  cases h with
  | test test => exact isFlat_attribute test lib o n
  | unequal test =>
    have hone : Yields (Complex.accepts lib o (.compound [.attribute test]) n) _ :=
      allAccept_yields_all <|
        List.forall_mem_singleton.mpr ((isFlat_attribute test).yields lib o n)
    exact ⟨_, Yields.map (anyAccepts_singleton_yields hone) (!·)⟩
  | type | id | className | nothing | anything => exact ⟨_, .of_pure _⟩

end Flat

-- A token of a complex selector without groups, or one at which its reading stops.
def Token.IsFlat : Token → Prop
  | .leading s | .simple s => ∀ p ∈ s, p.IsFlat
  | .comma | .opening _ | .onlyHtml => False
  | .combinator _ | .closing | .unsupported => True

lemma Token.IsPart.isFlat {t : Token} (h : t.IsPart) : t.IsFlat := by
  cases t with
  | leading | simple => exact fun p hp => (h p hp).isFlat
  | _ => cases h

lemma Starts.isFlat {t : Token} (h : Starts cs t rest) (hcomma : ',' ∉ cs) : t.IsFlat := by
  cases h with
  | atRule => trivial
  | scope => exact fun p hp => Option.some.inj hp ▸ fun _ _ _ => ⟨_, .of_pure _⟩
  | id => exact fun p hp => (isPart_simple? .id p hp).isFlat
  | className => exact fun p hp => (isPart_simple? .className p hp).isFlat
  | test h => exact fun p hp => (isPart_brackets (bracketed_eq_some_iff.mp h) p hp).isFlat
  | type h => exact fun p hp => (isPart_typeSelector h p hp).isFlat
  | sign h =>
    obtain ⟨t, ht, hcase⟩ := exists_of_separator h
    obtain rfl := (List.singleton_inj.mp ht)
    rcases hcase with ⟨-, rfl⟩ | ⟨left, hcs, -⟩ | ⟨d, a, left, -, -, -, rfl⟩ | ⟨-, -, rfl⟩
    · trivial
    · have hmem : ',' ∈ skipSpace cs := hcs ▸ List.mem_cons_self
      exact absurd ((skipSpace_suffix cs).subset hmem) hcomma
    · trivial
    · trivial

lemma many_token_flat (hcolon : ':' ∉ cs) (hcomma : ',' ∉ cs) :
    ∀ t ∈ (many token cs).1.flatten, t.IsFlat := by
  fun_induction many token cs with
  | case1 cs ts rest hcs hlt tss rest' hmany ih =>
    obtain ⟨t, rfl, ht⟩ := starts_of_token hcolon hcs
    have hsub := ht.suffix.subset
    have hrest := ih (fun h => hcolon (hsub h)) fun h => hcomma (hsub h)
    rw [hmany] at hrest
    exact List.forall_mem_cons.mpr ⟨ht.isFlat hcomma, hrest⟩
  | case2 => simp
  | case3 => simp

lemma Whole.of_token (h : Whole cs) (ht : token cs = some (ts, rest)) : Whole rest := by
  obtain ⟨t, rfl, hstart⟩ := starts_of_token h.colon ht
  exact ⟨h.finished.of_suffix hstart.suffix, fun hends => h.comment (hends.trans hstart.suffix),
    fun hcolon => h.colon (hstart.suffix.subset hcolon), many_token_of_read h.read ht⟩

lemma Whole.many_token_append (h : Whole cs) (he : IsStop e) (tail : List Char) :
    many token (cs ++ e :: tail) =
      ((many token cs).1 ++ (many token (e :: tail)).1, (many token (e :: tail)).2) := by
  have hstep (cs : List Char) (ts : List Token) (rest : List Char) (h : Whole cs)
      (ht : token cs = some (ts, rest)) :
      token (cs ++ e :: tail) = some (ts, rest ++ e :: tail) ∧ Whole rest := by
    have hrest := h.of_token ht
    obtain ⟨t, rfl, hstart⟩ := starts_of_token h.colon ht
    exact ⟨(hstart.append he h.finished h.comment hrest.read tail).token, hrest⟩
  rw [many_append hstep h, h.read, List.nil_append]

lemma Whole.of_plain (hcs : Finished cs) (hcomment : ¬ ['*', '/'] <:+ cs) (hcolon : ':' ∉ cs)
    (hread : (many token (skipSpace cs)).2 = []) : Whole (skipSpace cs) := by
  have hsuffix := skipSpace_suffix cs
  exact ⟨hcs.of_suffix hsuffix, fun h => hcomment (h.trans hsuffix),
    fun h => hcolon (hsuffix.subset h), hread⟩

inductive Anchored : List Char → Prop
  | plain {cs : List Char} (h : ':' ∉ cs) : Anchored cs
  | afterScope {cs : List Char} (h : ':' ∉ cs) : Anchored (":scope ".toList ++ cs)

lemma many_token_scope (cs : List Char) : many token (":scope ".toList ++ cs) =
    ([.simple (some .scope)] :: (many token (' ' :: cs)).1, (many token (' ' :: cs)).2) :=
  many_cons (token_scope cs) (by simp)

lemma Anchored.many_append (h : Anchored cs) (hcomma : ',' ∉ cs) (hcs : Finished cs)
    (hcomment : ¬ ['*', '/'] <:+ cs) (he : IsStop e) (hread : (many token (skipSpace cs)).2 = []) :
    (∀ t ∈ (many token (skipSpace cs)).1.flatten, t.IsFlat) ∧
      ∀ tail, many token (skipSpace (cs ++ e :: tail)) =
        ((many token (skipSpace cs)).1 ++ (many token (e :: tail)).1,
          (many token (e :: tail)).2) := by
  cases h with
  | plain h =>
    have hwhole := Whole.of_plain hcs hcomment h hread
    refine ⟨many_token_flat hwhole.colon fun h => hcomma ((skipSpace_suffix cs).subset h),
      fun tail => ?_⟩
    rw [skipSpace_append he (head?_of_read hread (skipSpace_skipSpace cs)),
      hwhole.many_token_append he]
  | @afterScope cs h =>
    have hskip (cs : List Char) : skipSpace (":scope ".toList ++ cs) = ":scope ".toList ++ cs :=
      skipSpace_of_none rfl
    have hsuffix : ' ' :: cs <:+ ":scope ".toList ++ cs := ⟨[':', 's', 'c', 'o', 'p', 'e'], rfl⟩
    rw [hskip, many_token_scope] at hread ⊢
    have hwhole : Whole (' ' :: cs) := ⟨hcs.of_suffix hsuffix,
      fun h => hcomment (h.trans hsuffix), by simp [h], hread⟩
    refine ⟨?_, fun tail => ?_⟩
    · refine List.forall_mem_cons.mpr ⟨(Starts.scope []).isFlat (by simp), ?_⟩
      exact many_token_flat hwhole.colon fun h => hcomma (hsuffix.subset h)
    · have hrest := hwhole.many_token_append he tail
      rw [List.cons_append] at hrest
      rw [List.append_assoc, hskip, many_token_scope, hrest]
      rfl

lemma Anchored.tokens_append (h : Anchored cs) (hcomma : ',' ∉ cs) (hcs : Finished cs)
    (hcomment : ¬ ['*', '/'] <:+ cs) (he : IsStop e) (hts : tokens cs = (ts, true)) :
    (∀ t ∈ ts, t.IsFlat) ∧ ∀ tail, Finished (cs ++ e :: tail) →
      ¬ ['*', '/'] <:+ cs ++ e :: tail → tokens (cs ++ e :: tail) =
        (ts ++ (many token (e :: tail)).1.flatten, (many token (e :: tail)).2.isEmpty) := by
  rw [tokens_of_finished hcs hcomment] at hts
  obtain ⟨rfl, hread⟩ := Prod.mk.inj hts
  obtain ⟨hflat, happend⟩ :=
    h.many_append hcomma hcs hcomment he (List.isEmpty_iff.mp hread)
  refine ⟨hflat, fun tail hcs hcomment => ?_⟩
  rw [tokens_of_finished hcs hcomment, happend, List.flatten_append]

lemma not_isNameStart_of_digit (h : isAsciiDigit c = true) : isNameStart c = false := by
  obtain ⟨hlow, hhigh⟩ : '0' ≤ c ∧ c ≤ '9' := by simpa [isAsciiDigit] using h
  have hle : c.toNat ≤ 57 := hhigh
  have hsmall : ¬ 'a' ≤ c := fun hc => absurd (Nat.le_trans hc hle) (by decide)
  have hlarge : ¬ 'A' ≤ c := fun hc => absurd (Nat.le_trans hc hle) (by decide)
  have hline : c ≠ '_' := by
    rintro rfl
    exact absurd hle (by decide)
  have hwide : ¬ 0xA0 ≤ c.toNat := by omega
  simp [isNameStart, hsmall, hlarge, hline, hwide]

lemma identifier_of_digit (h : isAsciiDigit c = true) (cs : List Char) :
    identifier (c :: cs) = none := by
  have hhyphen : c ≠ '-' := by
    rintro rfl
    cases h
  have hback : c ≠ '\\' := by
    rintro rfl
    cases h
  rw [identifier_of_ne_hyphen fun ds hds => hhyphen (List.cons.inj hds).1, nameAfter,
    letterOr.eq_2 _ _ _ hback, not_isNameStart_of_digit h]
  rfl

lemma typeSelector_of_digit (h : isAsciiDigit c = true) (cs : List Char) :
    typeSelector (c :: cs) = none := by
  have hbar : c ≠ '|' := by
    rintro rfl
    cases h
  have hstar : c ≠ '*' := by
    rintro rfl
    cases h
  have hspace : namePrefix (c :: cs) = none := by
    rw [namePrefix.eq_3 _ (fun ds hds => hbar (List.cons.inj hds).1) fun ds hds =>
      hstar (List.cons.inj hds).1, identifier_of_digit h]
    rfl
  have hname : typeName (c :: cs) = none := by
    rw [typeName.eq_2 _ fun ds hds => hstar (List.cons.inj hds).1, identifier_of_digit h]
  simp [typeSelector, qualified, hspace, hname]

namespace Compound

variable {skip : List Char → List Char}

lemma notMem_signs (h : Compound skip (c :: cs)) : c ∉ signs := by
  intro hc
  simp only [signs, List.mem_cons, List.not_mem_nil, or_false] at hc
  cases h with
  | type h => rcases hc with rfl | rfl | rfl | rfl | rfl <;> cases h
  | id | className | test => simp at hc

lemma not_isAsciiDigit (h : Compound skip (c :: cs)) : isAsciiDigit c = false := by
  by_contra hc
  have hdigit : isAsciiDigit c = true := by simpa using hc
  cases h with
  | type h =>
    rw [typeSelector_of_digit hdigit] at h
    cases h
  | id | className | test => cases hdigit

end Compound

def Group.name : Group → List Char
  | .anyOf => ['i', 's']
  | .noneOf => ['n', 'o', 't']
  | .has => ['h', 'a', 's']

lemma called_group (g : Group) (cs : List Char) :
    called (lowered (String.ofList g.name)) cs = some ([.opening (.group g)], cs) := by
  have hname : lowered (String.ofList g.name) =
      match g with | .anyOf => "is" | .noneOf => "not" | .has => "has" := by
    cases g <;> decide +kernel
  rw [hname]
  cases g <;> rfl

lemma token_opening (g : Group) (cs : List Char) :
    token (':' :: (g.name ++ '(' :: cs)) = some ([.opening (.group g)], skipSpace cs) := by
  have hname : identifier (g.name ++ '(' :: cs) =
      some (.text (String.ofList g.name), '(' :: cs) := by
    cases g
    · exact identifier_of_name ['s'] rfl rfl rfl
    · exact identifier_of_name ['o', 't'] rfl rfl rfl
    · exact identifier_of_name ['a', 's'] rfl rfl rfl
  have htoken : token (':' :: (g.name ++ '(' :: cs)) = pseudo (g.name ++ '(' :: cs) := by
    cases g <;> rfl
  rw [htoken, pseudo, hname, Option.bind_eq_bind, Option.bind_some]
  exact called_group g (skipSpace cs)

lemma whole_of_compound (hcompound : Compound skipSpace cs) (hcs : Finished cs)
    (hcolon : ':' ∉ cs) (hback : '\\' ∉ cs) : Whole cs := by
  refine ⟨hcs, fun h => hcompound.getLast?_ne hback ?_, hcolon, ?_⟩
  · obtain ⟨body, rfl⟩ := h
    exact List.getLast?_append_of_ne_nil _ (by simp)
  · obtain ⟨tss, hmany, -⟩ := hcompound.many_token
    rw [hmany]

lemma many_token_group (g : Group) (hcompound : Compound skipSpace cs) (hwhole : Whole cs) :
    (many token (':' :: (g.name ++ '(' :: (cs ++ [')'])))).1.flatten =
      .opening (.group g) :: ((tokens cs).1 ++ [.closing]) ∧
    (many token (':' :: (g.name ++ '(' :: (cs ++ [')'])))).2 = [] := by
  have hskip := hcompound.skipSpace_eq
  have hclosing : many token [')'] = ([[.closing]], []) := by
    have htoken : token [')'] = some ([.closing], []) := by
      change separator [')'] = _
      rw [separator, skipSpace_of_none rfl]
      rfl
    rw [many_cons htoken (Nat.lt_succ_self _), many_of_none token_nil]
  have hinside : skipSpace (cs ++ [')']) = cs ++ [')'] := by
    rw [skipSpace_append (.inr rfl) (by rw [hskip]; exact head?_of_read hwhole.read hskip), hskip]
  have hlt : (skipSpace (cs ++ [')'])).length <
      (':' :: (g.name ++ '(' :: (cs ++ [')']))).length := by
    rw [hinside]
    simp only [List.length_cons, List.length_append]
    omega
  rw [many_cons (token_opening g _) hlt, hinside, hwhole.many_token_append (.inr rfl), hclosing,
    tokens_of_finished hwhole.finished hwhole.comment, hskip]
  simp

end MarkupQuery.Css
