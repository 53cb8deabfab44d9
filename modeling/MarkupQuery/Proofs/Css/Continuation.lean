import MarkupQuery.Proofs.Css.Lexical

namespace MarkupQuery.Css

open Text

variable {c e q : Char} {cs rest tail : List Char}

def Finished (cs : List Char) : Prop := ∀ c ∈ cs.getLast?, c ≠ '\\' ∧ isGap c = false

lemma Finished.of_suffix (h : Finished cs) (hrest : rest <:+ cs) : Finished rest := by
  obtain ⟨before, rfl⟩ := hrest
  intro c hc
  exact h c (by rw [List.getLast?_append, hc]; rfl)

lemma lexical_suffix (rest : List Char) : Lexical (rest <:+ ·) :=
  .of_cons fun c _ h => h.trans (List.suffix_cons c _)

lemma letterOr_suffix {accept : Char → Bool} (haccept : marks.any accept = false) {l : Letter}
    (h : letterOr accept cs = some (l, rest)) : rest <:+ cs :=
  (lexical_suffix rest).letterOr haccept cs l rest h List.suffix_rfl

lemma identifier_suffix {s : Spelling} (h : identifier cs = some (s, rest)) : rest <:+ cs :=
  (lexical_suffix rest).identifier cs s rest h List.suffix_rfl

lemma quotedPiece_suffix {ls : List Letter} (h : quotedPiece q cs = some (ls, rest)) :
    rest <:+ cs :=
  (lexical_suffix rest).quotedPiece (fun c _ _ _ h => h.trans (List.suffix_cons c _)) cs ls rest h
    List.suffix_rfl

lemma comparison_suffix {relation : Option AttributeRelation}
    (h : comparison cs = some (relation, rest)) : rest <:+ cs :=
  (lexical_suffix rest).comparison cs relation rest h List.suffix_rfl

lemma namePrefix_suffix {s : Spelling} (h : namePrefix cs = some (s, rest)) : rest <:+ cs :=
  (lexical_suffix rest).namePrefix cs s rest h List.suffix_rfl

lemma qualified_suffix {s : Spelling × Spelling} (h : qualified identifier cs = some (s, rest)) :
    rest <:+ cs :=
  (lexical_suffix rest).qualified (lexical_suffix rest).identifier cs s rest h List.suffix_rfl

lemma typeSelector_suffix {a : Option Simple} (h : typeSelector cs = some (a, rest)) :
    rest <:+ cs :=
  (lexical_suffix rest).typeSelector cs a rest h List.suffix_rfl

lemma bracketed_suffix {a : Option Simple} (h : bracketed cs = some (a, rest)) : rest <:+ cs := by
  have hcons (c : Char) (cs : List Char) (h : rest <:+ cs) := h.trans (List.suffix_cons c cs)
  exact (lexical_suffix rest).brackets (fun _ => of_skipSpace hcons) (goesBack_value_of_cons hcons)
    (bracketed_eq_some_iff.mp h) (List.suffix_cons _ _)

def leaving {α : Type} (tail : List Char) (taken : α × List Char) : α × List Char :=
  (taken.1, taken.2 ++ tail)

def IsStop (e : Char) : Prop := e = ':' ∨ e = ')'

lemma IsStop.eq_false (he : IsStop e) {p : Char → Bool} (hp : p ':' = false) (hp' : p ')' = false) :
    p e = false := by
  rcases he with rfl | rfl
  · exact hp
  · exact hp'

lemma commentEnd?_append (h : commentEnd? cs = some rest) (tail : List Char) :
    commentEnd? (cs ++ tail) = some (rest ++ tail) := by
  fun_induction commentEnd? cs with
  | case1 ds =>
    obtain rfl := Option.some.inj h
    rfl
  | case2 c ds hne ih =>
    rw [List.cons_append, commentEnd?.eq_2]
    · exact ih h
    · intro bs hc hbs
      cases ds with
      | nil => cases h
      | cons d ds => exact hne ds hc (by rw [(List.cons.inj hbs).1])
  | case3 => cases h

lemma space_append {b : Bool} (h : space cs = some (b, rest)) (tail : List Char) :
    space (cs ++ tail) = some (b, rest ++ tail) := by
  unfold space at h
  split at h
  · obtain ⟨left, hleft, h⟩ := Option.map_eq_some_iff.mp h
    obtain ⟨rfl, rfl⟩ := Prod.mk.inj h
    exact congrArg (Option.map _) (commentEnd?_append hleft tail)
  · next c ds hne =>
    split at h
    · next hc =>
      obtain ⟨rfl, rfl⟩ := Prod.mk.inj (Option.some.inj h)
      have hslash : c ≠ '/' := by
        rintro rfl
        cases hc
      rw [List.cons_append, space.eq_2 _ _ fun _ h => absurd h hslash, if_pos hc]
    · cases h
  · cases h

lemma many_space_append (he : IsStop e) (h : (skipSpace cs).head? ≠ some '/')
    (tail : List Char) : many space (cs ++ e :: tail) = leaving (e :: tail) (many space cs) := by
  have hstep (cs : List Char) (b : Bool) (rest : List Char) (_ : True)
      (h : space cs = some (b, rest)) :
      space (cs ++ e :: tail) = some (b, rest ++ e :: tail) ∧ True :=
    ⟨space_append h _, trivial⟩
  have hnone : space (skipSpace cs ++ e :: tail) = none := by
    have hend : space (skipSpace cs) = none :=
      many_end (fun _ _ _ h => (space_suffix h).2) cs
    cases hcs : skipSpace cs with
    | nil => exact space_of_not_gap (he.eq_false rfl rfl) (by rcases he with rfl | rfl <;> decide)
    | cons c ds =>
      rw [hcs] at h hend
      have hslash : c ≠ '/' := fun hc => h (by rw [hc]; rfl)
      rw [space.eq_2 _ _ fun _ h => absurd h hslash] at hend
      rw [List.cons_append, space.eq_2 _ _ fun _ h => absurd h hslash]
      split at hend
      · cases hend
      · next hgap => rw [if_neg hgap]
  rw [many_append hstep trivial, ← skipSpace, many_of_none hnone, List.append_nil]
  rfl

lemma skipSpace_append (he : IsStop e) (h : (skipSpace cs).head? ≠ some '/') (tail : List Char) :
    skipSpace (cs ++ e :: tail) = skipSpace cs ++ e :: tail :=
  congrArg Prod.snd (many_space_append he h tail)

lemma codeDigits_append (he : IsStop e) (cs tail : List Char) :
    codeDigits (cs ++ e :: tail) = codeDigits cs := by
  have hdigit : (hexDigitValue? e).isSome = false :=
    he.eq_false (p := fun c => (hexDigitValue? c).isSome) rfl rfl
  rw [codeDigits, codeDigits, List.take_append]
  cases 6 - cs.length with
  | zero => rw [List.take_zero, List.append_nil]
  | succ n =>
    rw [List.take_succ_cons, List.takeWhile_append, List.takeWhile_cons, hdigit]
    split
    · next hlen =>
      have hall := (List.takeWhile_prefix fun c => (hexDigitValue? c).isSome).eq_of_length hlen
      simpa using hall.symm
    · rfl

lemma drop_codeDigits_append (he : IsStop e) (cs tail : List Char) :
    (cs ++ e :: tail).drop (codeDigits (cs ++ e :: tail)).length =
      cs.drop (codeDigits cs).length ++ e :: tail := by
  rw [codeDigits_append he]
  exact List.drop_append_of_le_length (List.IsPrefix.length_le ⟨_, codeDigits_append_drop cs⟩)

lemma skipGap_append (he : IsStop e) (cs tail : List Char) :
    skipGap (cs ++ e :: tail) = skipGap cs ++ e :: tail := by
  have hgap : isGap e = false := he.eq_false rfl rfl
  have hbreak : e ≠ '\n' := by rcases he with rfl | rfl <;> decide
  have hfirst (c : Char) (cs : List Char) (h : ∀ ds, c = '\r' → cs = '\n' :: ds → False) :
      skipGap (c :: cs) = if isGap c then cs else c :: cs := skipGap.eq_2 c cs h
  cases cs with
  | nil => rw [List.nil_append, hfirst e tail (by rintro _ rfl; cases hgap), hgap]; rfl
  | cons c cs =>
    by_cases hpair : c = '\r' ∧ ∃ ds, cs = '\n' :: ds
    · obtain ⟨rfl, ds, rfl⟩ := hpair
      rfl
    · rw [hfirst c cs fun ds hc hcs => hpair ⟨hc, ds, hcs⟩, List.cons_append, hfirst]
      · split <;> rfl
      · rintro ds rfl hds
        cases cs with
        | nil => exact hbreak (List.cons.inj hds).1
        | cons d cs => exact hpair ⟨rfl, cs, by rw [(List.cons.inj hds).1]⟩

lemma escaped_of_code (h : codeDigits cs ≠ []) :
    escaped cs = some (.ofCode (ofHexDigits ((codeDigits cs).filterMap hexDigitValue?)),
      skipGap (cs.drop (codeDigits cs).length)) := by
  unfold escaped
  split
  · next hnil => exact absurd hnil h
  · next hnil => exact absurd hnil h
  · next hnil => exact absurd hnil h
  · rfl

lemma escaped_of_no_code (h : codeDigits (c :: cs) = []) (hend : ¬ (c = '\n' ∧ cs = [])) :
    escaped (c :: cs) = if isLineBreak c then none else some (.char c, cs) := by
  unfold escaped
  rw [h]
  split
  · next hcs => cases hcs
  · next hcs =>
    obtain ⟨rfl, rfl⟩ := List.cons.inj hcs
    exact absurd ⟨rfl, rfl⟩ hend
  · next hcs =>
    obtain ⟨rfl, rfl⟩ := List.cons.inj hcs
    rfl
  · next hnil => exact absurd rfl (hnil c cs rfl)

lemma escaped_append (he : IsStop e) (hcs : Finished ('\\' :: cs)) (tail : List Char) :
    escaped (cs ++ e :: tail) = (escaped cs).map (leaving (e :: tail)) := by
  cases cs with
  | nil => exact absurd rfl (hcs '\\' rfl).1
  | cons c cs =>
    have hdigits : codeDigits (c :: (cs ++ e :: tail)) = codeDigits (c :: cs) :=
      codeDigits_append he (c :: cs) tail
    rw [List.cons_append]
    cases hds : codeDigits (c :: cs) with
    | nil =>
      have hend : ¬ (c = '\n' ∧ cs = []) := by
        rintro ⟨rfl, rfl⟩
        exact absurd (hcs '\n' rfl).2 (by decide)
      rw [escaped_of_no_code hds hend, escaped_of_no_code (hdigits.trans hds) (by simp)]
      split <;> rfl
    | cons d ds =>
      have hne : codeDigits (c :: cs) ≠ [] := by simp [hds]
      have hdrop := drop_codeDigits_append he (c :: cs) tail
      rw [List.cons_append] at hdrop
      rw [escaped_of_code hne, escaped_of_code (hdigits ▸ hne), hdrop, skipGap_append he, hdigits]
      rfl

lemma letterOr_append (he : IsStop e) {accept : Char → Bool} (haccept : accept e = false)
    (hcs : Finished cs) :
    letterOr accept (cs ++ e :: tail) = (letterOr accept cs).map (leaving (e :: tail)) := by
  cases cs with
  | nil =>
    have hback : e ≠ '\\' := by rcases he with rfl | rfl <;> decide
    rw [List.nil_append, letterOr.eq_2 _ _ _ hback, haccept]
    rfl
  | cons c cs =>
    by_cases hc : c = '\\'
    · subst hc
      exact escaped_append he hcs _
    · rw [List.cons_append, letterOr.eq_2 _ _ _ hc, letterOr.eq_2 _ _ _ hc]
      split <;> rfl

lemma many_letterOr_append (he : IsStop e) {accept : Char → Bool} (haccept : accept e = false)
    (hmarks : marks.any accept = false) (hcs : Finished cs) (tail : List Char) :
    many (letterOr accept) (cs ++ e :: tail) =
      leaving (e :: tail) (many (letterOr accept) cs) := by
  have hstep (cs : List Char) (l : Letter) (rest : List Char) (hcs : Finished cs)
      (h : letterOr accept cs = some (l, rest)) :
      letterOr accept (cs ++ e :: tail) = some (l, rest ++ e :: tail) ∧ Finished rest := by
    refine ⟨?_, hcs.of_suffix (letterOr_suffix hmarks h)⟩
    rw [letterOr_append he haccept hcs, h]
    rfl
  have hrest : Finished (many (letterOr accept) cs).2 :=
    many_leaves (fun _ _ _ hcs h => hcs.of_suffix (letterOr_suffix hmarks h)) hcs
  have hend : letterOr accept ((many (letterOr accept) cs).2 ++ e :: tail) = none := by
    rw [letterOr_append he haccept hrest, many_end fun _ _ _ => length_letterOr_lt]
    rfl
  rw [many_append hstep hcs, many_of_none hend, List.append_nil]
  rfl

def nameAfter (lead : List Letter) (cs : List Char) : Option (Spelling × List Char) :=
  (letterOr isNameStart cs).map fun first =>
    let (name, rest) := many (letterOr isNameChar) first.2
    (.ofLetters (lead ++ first.1 :: name), rest)

lemma identifier_hyphen (h : ∀ ds, cs ≠ '-' :: ds) :
    identifier ('-' :: cs) = nameAfter [.char '-'] cs := by
  rw [identifier.eq_2 cs h, nameAfter]
  cases letterOr isNameStart cs <;> rfl

lemma identifier_of_ne_hyphen (h : ∀ ds, cs ≠ '-' :: ds) : identifier cs = nameAfter [] cs := by
  rw [identifier.eq_3 cs (fun ds => h ('-' :: ds)) h, nameAfter]
  cases letterOr isNameStart cs <;> rfl

lemma nameAfter_append (he : IsStop e) (lead : List Letter) (hcs : Finished cs) :
    nameAfter lead (cs ++ e :: tail) = (nameAfter lead cs).map (leaving (e :: tail)) := by
  have hstart : isNameStart e = false := he.eq_false rfl rfl
  have hchar : isNameChar e = false := he.eq_false rfl rfl
  rw [nameAfter, nameAfter, letterOr_append he hstart hcs]
  cases hfirst : letterOr isNameStart cs with
  | none => rfl
  | some first =>
    have hrest : Finished first.2 := hcs.of_suffix (letterOr_suffix isNameStart_marks hfirst)
    have hname := many_letterOr_append he hchar isNameChar_marks hrest tail
    simp only [Option.map_some, leaving] at hname ⊢
    rw [hname]

lemma identifier_append (he : IsStop e) (hcs : Finished cs) :
    identifier (cs ++ e :: tail) = (identifier cs).map (leaving (e :: tail)) := by
  have hhyphen : e ≠ '-' := by rcases he with rfl | rfl <;> decide
  have hstop (cs : List Char) (h : ∀ ds, cs ≠ '-' :: ds) (ds : List Char) :
      cs ++ e :: tail ≠ '-' :: ds := by
    cases cs with
    | nil => exact fun hds => hhyphen (List.cons.inj hds).1
    | cons c cs => exact fun hds => h cs (by rw [(List.cons.inj hds).1])
  by_cases hfirst : ∃ ds, cs = '-' :: ds
  · obtain ⟨ds, rfl⟩ := hfirst
    have hds : Finished ds := hcs.of_suffix (List.suffix_cons _ _)
    by_cases hsecond : ∃ bs, ds = '-' :: bs
    · obtain ⟨bs, rfl⟩ := hsecond
      have hbs : Finished bs := hds.of_suffix (List.suffix_cons _ _)
      have hchar : isNameChar e = false := he.eq_false rfl rfl
      have hname := many_letterOr_append he hchar isNameChar_marks hbs tail
      rw [List.cons_append, List.cons_append, identifier.eq_1, identifier.eq_1]
      simp [hname, leaving]
    · have hds' : ∀ bs, ds ≠ '-' :: bs := fun bs h => hsecond ⟨bs, h⟩
      rw [List.cons_append, identifier_hyphen (hstop ds hds'), identifier_hyphen hds',
        nameAfter_append he _ hds]
  · have hcs' : ∀ ds, cs ≠ '-' :: ds := fun ds h => hfirst ⟨ds, h⟩
    rw [identifier_of_ne_hyphen (hstop cs hcs'), identifier_of_ne_hyphen hcs',
      nameAfter_append he _ hcs]

lemma quotedPiece_escape_append (he : IsStop e) (hcs : Finished ('\\' :: c :: cs)) :
    quotedPiece q ('\\' :: c :: (cs ++ e :: tail)) =
      (quotedPiece q ('\\' :: c :: cs)).map (leaving (e :: tail)) := by
  have hbreak : isLineBreak e = false := he.eq_false rfl rfl
  by_cases hpair : c = '\r' ∧ ∃ ds, cs = '\n' :: ds
  · obtain ⟨rfl, ds, rfl⟩ := hpair
    rfl
  have hpair' (ds : List Char) (hc : c = '\r') (hds : cs ++ e :: tail = '\n' :: ds) : False := by
    cases cs with
    | nil =>
      obtain rfl := (List.cons.inj hds).1
      cases hbreak
    | cons d cs => exact hpair ⟨hc, cs, by rw [(List.cons.inj hds).1]⟩
  -- A line feed that is escaped is not the end of a finished text.
  have hfeed : (c == '\n' && (cs ++ e :: tail).head? == some q) =
      (c == '\n' && cs.head? == some q) := by
    cases cs with
    | nil =>
      have hc : c ≠ '\n' := by
        rintro rfl
        exact absurd (hcs '\n' rfl).2 (by decide)
      simp [hc]
    | cons d cs => rfl
  have hdrop := drop_codeDigits_append he (c :: cs) tail
  rw [List.cons_append] at hdrop
  have hescaped := escaped_append he hcs tail
  rw [List.cons_append] at hescaped
  have hnext (ds : List Char) : (ds ++ e :: tail).head?.any isLineBreak =
      ds.head?.any isLineBreak := by
    cases ds <;> simp [hbreak]
  rw [quotedPiece.eq_2 _ _ _ hpair', quotedPiece.eq_2 _ _ _ fun ds hc hds => hpair ⟨hc, ds, hds⟩,
    hfeed, hdrop, hescaped, hnext]
  split
  · rfl
  split
  · rfl
  split
  · rfl
  · cases escaped (c :: cs) <;> rfl

lemma quotedPiece_append (he : IsStop e) {ls : List Letter} (hcs : Finished cs)
    (h : quotedPiece q cs = some (ls, rest)) :
    quotedPiece q (cs ++ e :: tail) = some (ls, rest ++ e :: tail) := by
  cases cs with
  | nil => cases h
  | cons c cs =>
    by_cases hc : c = '\\'
    · subst hc
      cases cs with
      | nil => exact absurd rfl (hcs '\\' rfl).1
      | cons d cs =>
        rw [List.cons_append, List.cons_append, quotedPiece_escape_append he hcs, h]
        rfl
    · rw [quotedPiece.eq_3 _ _ _ (fun _ h _ => hc h) fun _ _ h _ => hc h] at h
      rw [List.cons_append, quotedPiece.eq_3 _ _ _ (fun _ h _ => hc h) fun _ _ h _ => hc h]
      split at h
      · cases h
      · next hplain =>
        obtain ⟨rfl, rfl⟩ := Prod.mk.inj (Option.some.inj h)
        rw [if_neg hplain]

lemma quotedValue_append (he : IsStop e) (hq : q ≠ '\\') {v : Spelling} (hcs : Finished cs)
    (h : quotedValue q cs = some (v, rest)) :
    quotedValue q (cs ++ e :: tail) = some (v, rest ++ e :: tail) := by
  have hstep (cs : List Char) (ls : List Letter) (rest : List Char) (hcs : Finished cs)
      (h : quotedPiece q cs = some (ls, rest)) :
      quotedPiece q (cs ++ e :: tail) = some (ls, rest ++ e :: tail) ∧ Finished rest :=
    ⟨quotedPiece_append he hcs h, hcs.of_suffix (quotedPiece_suffix h)⟩
  obtain ⟨hend, rfl⟩ := quotedValue_eq_some_iff.mp h
  have hclose : quotedPiece q (q :: (rest ++ e :: tail)) = none := by
    rw [quotedPiece.eq_3 _ _ _ (fun _ h _ => hq h) fun _ _ h _ => hq h]
    simp
  have hmany := many_append hstep hcs
  rw [hend, List.cons_append, many_of_none hclose, List.append_nil] at hmany
  exact quotedValue_eq_some_iff.mpr (by rw [hmany]; exact ⟨rfl, rfl⟩)

lemma value_append (he : IsStop e) {v : Spelling} (hcs : Finished cs)
    (h : value cs = some (v, rest)) : value (cs ++ e :: tail) = some (v, rest ++ e :: tail) := by
  unfold value at h
  split at h
  · exact quotedValue_append he (by decide) (hcs.of_suffix (List.suffix_cons _ _)) h
  · exact quotedValue_append he (by decide) (hcs.of_suffix (List.suffix_cons _ _)) h
  · next hdouble hsingle =>
    have hname : identifier (cs ++ e :: tail) = some (v, rest ++ e :: tail) := by
      rw [identifier_append he hcs, h]
      rfl
    cases cs with
    | nil => cases h
    | cons c cs =>
      rw [List.cons_append, value.eq_3 _ (fun ds hds => hdouble cs ?_) fun ds hds => hsingle cs ?_]
      · exact hname
      · rw [(List.cons.inj hds).1]
      · rw [(List.cons.inj hds).1]

lemma comparison_append {relation : Option AttributeRelation}
    (h : comparison cs = some (relation, rest)) (tail : List Char) :
    comparison (cs ++ tail) = some (relation, rest ++ tail) := by
  unfold comparison at h
  split at h
  case h_8 => cases h
  all_goals
    obtain ⟨rfl, rfl⟩ := Prod.mk.inj (Option.some.inj h)
    rfl

lemma namePrefix_append (he : IsStop e) (hcs : Finished cs) :
    namePrefix (cs ++ e :: tail) = (namePrefix cs).map (leaving (e :: tail)) := by
  have hbar : e ≠ '|' := by rcases he with rfl | rfl <;> decide
  by_cases hfirst : ∃ ds, cs = '|' :: ds
  · obtain ⟨ds, rfl⟩ := hfirst
    rfl
  by_cases hstar : ∃ ds, cs = '*' :: '|' :: ds
  · obtain ⟨ds, rfl⟩ := hstar
    rfl
  have hfirst' (ds : List Char) (h : cs ++ e :: tail = '|' :: ds) : False := by
    cases cs with
    | nil => exact hbar (List.cons.inj h).1
    | cons c cs => exact hfirst ⟨cs, by rw [(List.cons.inj h).1]⟩
  have hstar' (ds : List Char) (h : cs ++ e :: tail = '*' :: '|' :: ds) : False := by
    match cs with
    | [] => rcases he with rfl | rfl <;> cases h
    | [c] => exact hbar (List.cons.inj (List.cons.inj h).2).1
    | c :: d :: cs =>
      obtain ⟨hc, h⟩ := List.cons.inj h
      exact hstar ⟨cs, by rw [hc, (List.cons.inj h).1]⟩
  rw [namePrefix.eq_3 _ hfirst' hstar',
    namePrefix.eq_3 _ (fun ds h => hfirst ⟨ds, h⟩) fun ds h => hstar ⟨ds, h⟩,
    identifier_append he hcs]
  cases identifier cs with
  | none => rfl
  | some found =>
    obtain ⟨s, rest⟩ := found
    cases rest with
    | nil => rcases he with rfl | rfl <;> rfl
    | cons c ds =>
      by_cases hc : c = '|'
      · rw [hc]
        rfl
      · simp [leaving, hc]

def StopsAt {α : Type} (item : Reader α) (e : Char) : Prop :=
  ∀ {cs tail}, Finished cs → item (cs ++ e :: tail) = (item cs).map (leaving (e :: tail))

lemma qualified_append (he : IsStop e) {name : Reader Spelling} (hname : StopsAt name e) :
    StopsAt (qualified name) e := by
  intro cs tail hcs
  simp only [qualified, namePrefix_append he hcs, hname hcs, Option.orElse_eq_orElse,
    Option.orElse_eq_or]
  cases hprefix : namePrefix cs with
  | none => cases name cs <;> rfl
  | some found =>
    obtain ⟨space, inner⟩ := found
    have hinner : Finished inner := hcs.of_suffix (namePrefix_suffix hprefix)
    simp only [Option.map_some, leaving, Option.bind_eq_bind, Option.bind_some, hname hinner]
    cases name inner with
    | none => cases name cs <;> rfl
    | some => rfl

lemma typeName_append (he : IsStop e) : StopsAt typeName e := by
  intro cs tail hcs
  by_cases hstar : ∃ ds, cs = '*' :: ds
  · obtain ⟨ds, rfl⟩ := hstar
    rfl
  · rw [typeName.eq_2 _ fun ds h => hstar ⟨ds, h⟩, typeName.eq_2, identifier_append he hcs]
    intro ds h
    cases cs with
    | nil => rcases he with rfl | rfl <;> cases h
    | cons c cs => exact hstar ⟨cs, by rw [(List.cons.inj h).1]⟩

lemma typeSelector_append (he : IsStop e) : StopsAt typeSelector e := by
  intro cs tail hcs
  rw [typeSelector, typeSelector, qualified_append he (typeName_append he) hcs]
  cases qualified typeName cs <;> rfl

lemma caseFlag_append (h : cs ≠ []) (tail : List Char) :
    caseFlag (cs ++ tail) = ((caseFlag cs).1, (caseFlag cs).2 ++ tail) := by
  obtain ⟨c, ds, rfl⟩ := List.exists_cons_of_ne_nil h
  simp only [caseFlag, List.cons_append]
  split
  · rfl
  split <;> rfl

lemma bracketed_append (he : IsStop e) {a : Option Simple} (hcs : Finished cs)
    (h : bracketed cs = some (a, rest)) :
    bracketed (cs ++ e :: tail) = some (a, rest ++ e :: tail) := by
  have hskip {cs : List Char} (hcs : Finished cs) : Finished (skipSpace cs) :=
    hcs.of_suffix (skipSpace_suffix cs)
  have hname {cs left : List Char} {name : Spelling × Spelling} (hcs : Finished cs)
      (h : qualified identifier (skipSpace cs) = some (name, left)) :
      qualified identifier (skipSpace (cs ++ e :: tail)) = some (name, left ++ e :: tail) := by
    rw [skipSpace_append he (head?_of_qualified h),
      qualified_append he (fun h => identifier_append he h) (hskip hcs), h]
    rfl
  have hend {cs : List Char} (h : skipSpace cs = ']' :: rest) :
      skipSpace (cs ++ e :: tail) = ']' :: (rest ++ e :: tail) := by
    rw [skipSpace_append he (head?_of_bracket h), h]
    rfl
  rw [bracketed_eq_some_iff] at h ⊢
  cases h with
  | present h htail => exact .present (hname hcs h) (hend htail)
  | @compared _ left inner last _ _ _ _ _ h hrelation hv hflag hlast =>
    have hleft : Finished left := (hskip hcs).of_suffix (qualified_suffix h)
    have hinner : Finished inner := (hskip hleft).of_suffix (comparison_suffix hrelation)
    have hslash := head?_of_caseFlag skipSpace_skipSpace hflag hlast
    have hne : skipSpace last ≠ [] := by
      intro hnil
      rw [hnil] at hflag
      obtain ⟨-, rfl⟩ := Prod.mk.inj hflag
      rw [skipSpace_of_none rfl] at hlast
      cases hlast
    have hrelation' := comparison_append hrelation (e :: tail)
    have hv' : value (skipSpace inner ++ e :: tail) = _ := value_append he (hskip hinner) hv
    have hflag' := caseFlag_append hne (e :: tail)
    rw [← skipSpace_append he (head?_of_comparison hrelation)] at hrelation'
    rw [← skipSpace_append he (head?_of_value hv)] at hv'
    rw [← skipSpace_append he hslash, hflag] at hflag'
    exact .compared (hname hcs h) hrelation' hv' hflag' (hend hlast)

end MarkupQuery.Css
