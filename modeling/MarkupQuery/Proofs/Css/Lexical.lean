import Mathlib.Data.List.DropRight
import MarkupQuery.Css.Token
import MarkupQuery.Proofs.Text.Reading

namespace MarkupQuery.Css

open Text

def marks : List Char := ['\\', '"', '\'', '[', ']', ':']

structure Lexical (Q : List Char → Prop) : Prop where
  char {c : Char} {cs : List Char} : c ∉ marks → Q cs → Q (c :: cs)
  escape (c : Char) {cs : List Char} : Q cs → Q ('\\' :: c :: cs)
  ending {cs : List Char} : cs = [] ∨ cs = ['\n'] → Q cs → Q ('\\' :: cs)

variable {Q : List Char → Prop} {c q : Char} {cs ds rest : List Char}

lemma notMem_marks {accept : Char → Bool} (h : marks.any accept = false)
    (hc : accept c = true) : c ∉ marks :=
  fun hm => List.any_eq_false.mp h c hm hc

lemma isNameStart_marks : marks.any isNameStart = false := by decide

lemma isNameChar_marks : marks.any isNameChar = false := by decide

lemma isGap_marks : marks.any isGap = false := by decide

lemma hexDigitValue?_marks : (marks.any fun d => (hexDigitValue? d).isSome) = false := by decide

lemma letterI_marks : (marks.any fun d => d == 'i' || d == 'I') = false := by decide

lemma flag_marks : (marks.any fun d => foldCase d == 'i' || foldCase d == 's') = false := by
  decide +kernel

lemma codeDigits_append_drop (cs : List Char) :
    codeDigits cs ++ cs.drop (codeDigits cs).length = cs :=
  List.prefix_iff_eq_append.mp ((List.takeWhile_prefix _).trans (List.take_prefix 6 cs))

lemma isSome_of_mem_codeDigits (h : c ∈ codeDigits cs) : (hexDigitValue? c).isSome = true :=
  List.mem_takeWhile_imp (p := fun c => (hexDigitValue? c).isSome) h

lemma exists_of_escaped {l : Letter} (h : escaped cs = some (l, rest)) :
    (rest = cs ∧ (cs = [] ∨ cs = ['\n'])) ∨
      ∃ d ds left, cs = d :: (ds ++ left) ∧ (∀ c ∈ ds, c ∉ marks) ∧
        (rest = left ∨ rest = skipGap left) := by
  unfold escaped at h
  split at h
  · obtain ⟨-, rfl⟩ := Prod.mk.inj (Option.some.inj h)
    exact .inl ⟨rfl, .inl rfl⟩
  · obtain ⟨-, rfl⟩ := Prod.mk.inj (Option.some.inj h)
    exact .inl ⟨rfl, .inr rfl⟩
  · split at h
    · cases h
    · obtain ⟨-, rfl⟩ := Prod.mk.inj (Option.some.inj h)
      exact .inr ⟨_, [], _, rfl, by simp, .inl rfl⟩
  · next cs _ _ hempty _ hchar =>
    obtain ⟨-, rfl⟩ := Prod.mk.inj (Option.some.inj h)
    have hsplit := codeDigits_append_drop cs
    cases hds : codeDigits cs with
    | nil =>
      cases cs with
      | nil => exact absurd rfl (hempty hds)
      | cons c cs => exact absurd rfl (hchar c cs hds)
    | cons d ds =>
      have hdigits (c : Char) (hc : c ∈ ds) : c ∉ marks :=
        notMem_marks hexDigitValue?_marks
          (isSome_of_mem_codeDigits (hds ▸ List.mem_cons_of_mem d hc))
      rw [hds] at hsplit
      exact .inr ⟨d, ds, _, hsplit.symm, hdigits, .inr rfl⟩

lemma exists_of_identifier {s : Spelling} (h : identifier cs = some (s, rest)) :
    (∃ tail, cs = '-' :: '-' :: tail ∧ rest = (many (letterOr isNameChar) tail).2) ∨
      ∃ lead tail l body, (lead = [] ∨ lead = ['-']) ∧ cs = lead ++ tail ∧
        letterOr isNameStart tail = some (l, body) ∧
        rest = (many (letterOr isNameChar) body).2 := by
  simp only [identifier] at h
  split at h
  · next tail =>
    obtain ⟨-, rfl⟩ := Prod.mk.inj (Option.some.inj h)
    exact .inl ⟨tail, rfl, rfl⟩
  · next tail _ =>
    obtain ⟨⟨l, body⟩, hl, h⟩ := Option.bind_eq_some_iff.mp h
    obtain ⟨-, rfl⟩ := Prod.mk.inj (Option.some.inj h)
    exact .inr ⟨['-'], tail, l, body, .inr rfl, rfl, hl, rfl⟩
  · obtain ⟨⟨l, body⟩, hl, h⟩ := Option.bind_eq_some_iff.mp h
    obtain ⟨-, rfl⟩ := Prod.mk.inj (Option.some.inj h)
    exact .inr ⟨[], _, l, body, .inl rfl, rfl, hl, rfl⟩

lemma many_letterOr_name {name : List Char} (hname : ∀ c ∈ name, isNameChar c = true)
    (hrest : letterOr isNameChar rest = none) :
    many (letterOr isNameChar) (name ++ rest) = (name.map .char, rest) := by
  induction name with
  | nil => exact many_of_none hrest
  | cons c name ih =>
    obtain ⟨hc, hname⟩ := List.forall_mem_cons.mp hname
    have hback : c ≠ '\\' := by
      rintro rfl
      cases hc
    have hletter : letterOr isNameChar (c :: (name ++ rest)) = some (.char c, name ++ rest) := by
      rw [letterOr.eq_2 _ _ _ hback, if_pos hc]
    rw [List.cons_append, many_cons hletter (Nat.lt_succ_self _), ih hname]
    rfl

lemma ofLetters_chars (cs : List Char) :
    Spelling.ofLetters (cs.map .char) = .text (String.ofList cs) := by
  induction cs with
  | nil => rfl
  | cons c cs ih =>
    have hcons : Spelling.ofLetters ((c :: cs).map .char) =
        .cons (.char c) (.ofLetters (cs.map .char)) := rfl
    rw [hcons, ih, Spelling.cons, Spelling.text.injEq, ← String.toList_inj]
    simp

lemma identifier_of_name (name : List Char) (hc : isNameStart c = true)
    (hname : name.all isNameChar = true) (hrest : letterOr isNameChar rest = none) :
    identifier (c :: (name ++ rest)) = some (.text (String.ofList (c :: name)), rest) := by
  have hhyphen : c ≠ '-' := by
    rintro rfl
    cases hc
  have hback : c ≠ '\\' := by
    rintro rfl
    cases hc
  have hletter : letterOr isNameStart (c :: (name ++ rest)) = some (.char c, name ++ rest) := by
    rw [letterOr.eq_2 _ _ _ hback, if_pos hc]
  have hspelled : Spelling.ofLetters (.char c :: name.map .char) =
      .text (String.ofList (c :: name)) := ofLetters_chars (c :: name)
  rw [identifier.eq_3 _ (fun _ h => hhyphen (List.cons.inj h).1)
    fun _ h => hhyphen (List.cons.inj h).1, hletter]
  simp [many_letterOr_name (List.all_eq_true.mp hname) hrest, hspelled]

inductive Brackets (skip : List Char → List Char) (cs : List Char) :
    Option Simple → List Char → Prop
  | present {name : Spelling × Spelling} {tail rest : List Char}
      (hname : qualified identifier (skip cs) = some (name, tail))
      (hend : skip tail = ']' :: rest) :
      Brackets skip cs (attributeSimple? name (.text "") (some .present) none) rest
  | compared {name : Spelling × Spelling} {tail inner left last rest : List Char}
      {relation : Option AttributeRelation} {v : Spelling} {flag : Option Bool}
      (hname : qualified identifier (skip cs) = some (name, tail))
      (hrelation : comparison (skip tail) = some (relation, inner))
      (hv : value (skip inner) = some (v, left)) (hflag : caseFlag (skip left) = (flag, last))
      (hend : skip last = ']' :: rest) :
      Brackets skip cs (attributeSimple? name v relation flag) rest

lemma bracketed_eq_some_iff {a : Option Simple} :
    bracketed cs = some (a, rest) ↔ Brackets skipSpace cs a rest := by
  constructor
  · intro h
    simp only [bracketed] at h
    obtain ⟨⟨name, tail⟩, hname, h⟩ := Option.bind_eq_some_iff.mp h
    split at h
    · next htail =>
      obtain ⟨rfl, rfl⟩ := Prod.mk.inj (Option.some.inj h)
      exact .present hname htail
    · obtain ⟨⟨relation, inner⟩, hrelation, h⟩ := Option.bind_eq_some_iff.mp h
      obtain ⟨⟨v, left⟩, hv, h⟩ := Option.bind_eq_some_iff.mp h
      split at h
      · next hend =>
        obtain ⟨rfl, rfl⟩ := Prod.mk.inj (Option.some.inj h)
        exact .compared hname hrelation hv rfl hend
      · cases h
  · rintro (⟨hname, hend⟩ | ⟨hname, hrelation, hv, hflag, hend⟩)
    · simp [bracketed, hname, hend]
    · simp only [bracketed, hname, Option.bind_eq_bind, Option.bind_some]
      split
      · next htail =>
        rw [htail] at hrelation
        cases hrelation
      · simp [hrelation, hv, hflag, hend]

lemma exists_attributeSimple? {skip : List Char → List Char} {a : Option Simple}
    (h : Brackets skip cs a rest) :
    ∃ name value relation flag, a = attributeSimple? name value relation flag := by
  cases h with
  | present => exact ⟨_, _, _, _, rfl⟩
  | compared => exact ⟨_, _, _, _, rfl⟩

lemma exists_of_qualified {name : Reader Spelling} {s : Spelling × Spelling}
    (h : qualified name cs = some (s, rest)) :
    (∃ inner, namePrefix cs = some (s.1, inner) ∧ name inner = some (s.2, rest)) ∨
      s.1 = .text "*" ∧ name cs = some (s.2, rest) := by
  simp only [qualified, Option.orElse_eq_orElse, Option.orElse_eq_or] at h
  rcases Option.or_eq_some_iff.mp h with h | ⟨-, h⟩
  · obtain ⟨⟨space, inner⟩, hspace, h⟩ := Option.bind_eq_some_iff.mp h
    obtain ⟨⟨t, left⟩, ht, h⟩ := Option.bind_eq_some_iff.mp h
    obtain ⟨rfl, rfl⟩ := Prod.mk.inj (Option.some.inj h)
    exact .inl ⟨inner, hspace, ht⟩
  · obtain ⟨⟨t, left⟩, ht, h⟩ := Option.map_eq_some_iff.mp h
    obtain ⟨rfl, rfl⟩ := Prod.mk.inj h
    exact .inr ⟨rfl, ht⟩

lemma exists_of_namePrefix {s : Spelling} (h : namePrefix cs = some (s, rest)) :
    cs = '|' :: rest ∨ cs = '*' :: '|' :: rest ∨ identifier cs = some (s, '|' :: rest) := by
  unfold namePrefix at h
  split at h
  · obtain ⟨-, rfl⟩ := Prod.mk.inj (Option.some.inj h)
    exact .inl rfl
  · obtain ⟨-, rfl⟩ := Prod.mk.inj (Option.some.inj h)
    exact .inr (.inl rfl)
  · obtain ⟨⟨t, left⟩, ht, h⟩ := Option.bind_eq_some_iff.mp h
    dsimp only at h
    split at h
    · obtain ⟨rfl, rfl⟩ := Prod.mk.inj (Option.some.inj h)
      exact .inr (.inr ht)
    · cases h

namespace Lexical

lemma append (hQ : Lexical Q) (hds : ∀ c ∈ ds, c ∉ marks) (h : Q cs) : Q (ds ++ cs) := by
  induction ds with
  | nil => exact h
  | cons d ds ih =>
    obtain ⟨hd, hds⟩ := List.forall_mem_cons.mp hds
    exact hQ.char hd (ih hds)

lemma skipGaps (hQ : Lexical Q) (h : Q (skipGaps cs)) : Q cs :=
  of_skipGaps (fun _ _ hc => hQ.char (notMem_marks isGap_marks hc)) h

lemma skipGap (hQ : Lexical Q) (h : Q (skipGap cs)) : Q cs := by
  unfold Css.skipGap at h
  split at h
  · exact hQ.char (by decide) (hQ.char (by decide) h)
  · split at h
    · next hc => exact hQ.char (notMem_marks isGap_marks hc) h
    · exact h
  · exact h

lemma escaped (hQ : Lexical Q) {l : Letter} (h : escaped cs = some (l, rest)) (hrest : Q rest) :
    Q ('\\' :: cs) := by
  rcases exists_of_escaped h with ⟨rfl, hcs⟩ | ⟨d, ds, left, rfl, hds, rfl | rfl⟩
  · exact hQ.ending hcs hrest
  · exact hQ.escape d (hQ.append hds hrest)
  · exact hQ.escape d (hQ.append hds (hQ.skipGap hrest))

lemma letterOr (hQ : Lexical Q) {accept : Char → Bool} (haccept : marks.any accept = false) :
    (letterOr accept).GoesBack Q := by
  intro cs l rest h hrest
  unfold Css.letterOr at h
  split at h
  · exact hQ.escaped h hrest
  · split at h
    · next hc =>
      obtain ⟨-, rfl⟩ := Prod.mk.inj (Option.some.inj h)
      exact hQ.char (notMem_marks haccept hc) hrest
    · cases h
  · cases h

lemma identifier (hQ : Lexical Q) : identifier.GoesBack Q := by
  intro cs s rest h hrest
  rcases exists_of_identifier h with ⟨tail, rfl, rfl⟩ | ⟨lead, tail, l, body, hlead, rfl, hl, rfl⟩
  · have htail : Q tail := (hQ.letterOr isNameChar_marks).many hrest
    exact hQ.char (by decide) (hQ.char (by decide) htail)
  · have hbody : Q body := (hQ.letterOr isNameChar_marks).many hrest
    have htail : Q tail := hQ.letterOr isNameStart_marks tail l body hl hbody
    rcases hlead with rfl | rfl
    · exact htail
    · exact hQ.char (by decide) htail

lemma comparison (hQ : Lexical Q) : comparison.GoesBack Q := by
  intro cs r rest h hrest
  unfold Css.comparison at h
  split at h
  case h_8 => cases h
  all_goals
    obtain ⟨-, rfl⟩ := Prod.mk.inj (Option.some.inj h)
  case h_1 => exact hQ.char (by decide) hrest
  all_goals exact hQ.char (by decide) (hQ.char (by decide) hrest)

lemma caseFlag (hQ : Lexical Q) (h : Q (caseFlag cs).2) : Q cs := by
  unfold Css.caseFlag at h
  split at h
  · split at h
    · next hc => exact hQ.char (notMem_marks letterI_marks hc) h
    split at h
    · next hc => exact hQ.char (notMem_marks flag_marks hc) h
    · exact h
  · exact h

lemma namePrefix (hQ : Lexical Q) : namePrefix.GoesBack Q := by
  intro cs s rest h hrest
  rcases exists_of_namePrefix h with rfl | rfl | h
  · exact hQ.char (by decide) hrest
  · exact hQ.char (by decide) (hQ.char (by decide) hrest)
  · exact hQ.identifier cs s _ h (hQ.char (by decide) hrest)

lemma qualified (hQ : Lexical Q) {name : Reader Spelling} (hname : name.GoesBack Q) :
    (qualified name).GoesBack Q := by
  intro cs s rest h hrest
  rcases exists_of_qualified h with ⟨inner, hspace, h⟩ | ⟨-, h⟩
  · exact hQ.namePrefix cs _ inner hspace (hname inner _ rest h hrest)
  · exact hname cs _ rest h hrest

lemma typeName (hQ : Lexical Q) : typeName.GoesBack Q := by
  intro cs s rest h hrest
  unfold Css.typeName at h
  split at h
  · obtain ⟨-, rfl⟩ := Prod.mk.inj (Option.some.inj h)
    exact hQ.char (by decide) hrest
  · exact hQ.identifier cs s rest h hrest

lemma typeSelector (hQ : Lexical Q) : typeSelector.GoesBack Q := by
  intro cs s rest h hrest
  obtain ⟨⟨name, left⟩, hname, h⟩ := Option.map_eq_some_iff.mp h
  obtain ⟨-, rfl⟩ := Prod.mk.inj h
  exact hQ.qualified hQ.typeName cs name left hname hrest

lemma quotedPiece (hQ : Lexical Q)
    (hplain : ∀ c cs, c ≠ q → c ≠ '\\' → Q cs → Q (c :: cs)) : (quotedPiece q).GoesBack Q := by
  intro cs ls rest h hrest
  unfold Css.quotedPiece at h
  split at h
  · obtain ⟨-, rfl⟩ := Prod.mk.inj (Option.some.inj h)
    exact hQ.escape _ (hQ.char (by decide) hrest)
  · split at h
    · obtain ⟨-, rfl⟩ := Prod.mk.inj (Option.some.inj h)
      exact hQ.escape _ hrest
    split at h
    · obtain ⟨-, rfl⟩ := Prod.mk.inj (Option.some.inj h)
      exact hQ.escape _ hrest
    split at h
    · cases h
    · obtain ⟨⟨l, left⟩, hl, h⟩ := Option.map_eq_some_iff.mp h
      obtain ⟨-, rfl⟩ := Prod.mk.inj h
      exact hQ.escaped hl hrest
  · split at h
    · cases h
    · next c cs _ _ hc =>
      obtain ⟨-, rfl⟩ := Prod.mk.inj (Option.some.inj h)
      have hkept : (c ≠ q ∧ c ≠ '\\') ∧ isLineBreak c = false := by simpa using hc
      exact hplain c cs hkept.1.1 hkept.1.2 hrest
  · cases h

lemma brackets (hQ : Lexical Q) {skip : List Char → List Char} (hskip : ∀ cs, Q (skip cs) → Q cs)
    (hvalue : value.GoesBack Q) {a : Option Simple} (h : Brackets skip cs a rest)
    (hrest : Q (']' :: rest)) : Q cs := by
  cases h with
  | present hname hend =>
    exact hskip cs (hQ.qualified hQ.identifier _ _ _ hname (hskip _ (hend ▸ hrest)))
  | compared hname hrelation hv hflag hend =>
    have hleft := hskip _ (hQ.caseFlag (by rw [hflag]; exact hskip _ (hend ▸ hrest)))
    have hinner := hskip _ (hvalue _ _ _ hv hleft)
    have htail := hskip _ (hQ.comparison _ _ _ hrelation hinner)
    exact hskip cs (hQ.qualified hQ.identifier _ _ _ hname htail)

end Lexical

lemma Lexical.of_cons (h : ∀ c cs, Q cs → Q (c :: cs)) : Lexical Q where
  char _ := h _ _
  escape c _ hcs := h _ _ (h c _ hcs)
  ending _ := h _ _

lemma commentEnd?_suffix (h : commentEnd? cs = some rest) : '*' :: '/' :: rest <:+ cs := by
  fun_induction commentEnd? cs with
  | case1 ds =>
    obtain rfl := Option.some.inj h
    exact List.suffix_rfl
  | case2 c ds _ ih => exact (ih h).trans (List.suffix_cons c ds)
  | case3 => cases h

lemma of_suffix (hQ : ∀ c cs, Q cs → Q (c :: cs)) (h : rest <:+ cs) (hrest : Q rest) : Q cs := by
  obtain ⟨ds, rfl⟩ := h
  induction ds with
  | nil => exact hrest
  | cons d ds ih => exact hQ d _ ih

lemma space_suffix {b : Bool} (h : space cs = some (b, rest)) :
    rest <:+ cs ∧ rest.length < cs.length := by
  unfold space at h
  split at h
  · next ds =>
    obtain ⟨left, hleft, h⟩ := Option.map_eq_some_iff.mp h
    obtain ⟨-, rfl⟩ := Prod.mk.inj h
    have hsuffix : left <:+ ds :=
      ((List.suffix_cons _ _).trans (List.suffix_cons _ _)).trans (commentEnd?_suffix hleft)
    have hle := hsuffix.length_le
    refine ⟨(hsuffix.trans (List.suffix_cons _ _)).trans (List.suffix_cons _ _), ?_⟩
    simp only [List.length_cons]
    omega
  · split at h
    · obtain ⟨-, rfl⟩ := Prod.mk.inj (Option.some.inj h)
      exact ⟨List.suffix_cons _ _, Nat.lt_succ_self _⟩
    · cases h
  · cases h

lemma of_skipSpace (hQ : ∀ c cs, Q cs → Q (c :: cs)) (h : Q (skipSpace cs)) : Q cs :=
  Reader.GoesBack.many (fun _ _ _ h => of_suffix hQ (space_suffix h).1) h

lemma skipSpace_suffix (cs : List Char) : skipSpace cs <:+ cs :=
  of_skipSpace (Q := (skipSpace cs <:+ ·)) (fun c _ h => h.trans (List.suffix_cons c _))
    List.suffix_rfl

lemma skipSpace_of_none (h : space cs = none) : skipSpace cs = cs := by
  rw [skipSpace, many_of_none h]

lemma skipSpace_gap (hc : isGap c = true) (cs : List Char) :
    skipSpace (c :: cs) = skipSpace cs := by
  have hslash : c ≠ '/' := by
    rintro rfl
    cases hc
  have hspace : space (c :: cs) = some (true, cs) := by
    rw [space.eq_2 _ _ fun _ h => absurd h hslash, if_pos hc]
  rw [skipSpace, many_cons hspace (Nat.lt_succ_self _)]
  rfl

lemma space_of_not_gap (hc : isGap c = false) (hslash : c ≠ '/') : space (c :: cs) = none := by
  rw [space.eq_2 _ _ fun _ h => absurd h hslash, hc]
  rfl

lemma skipSpace_eq_skipGaps (h : (skipGaps cs).head? ≠ some '/') : skipSpace cs = skipGaps cs := by
  induction cs with
  | nil => exact skipSpace_of_none rfl
  | cons c cs ih =>
    rw [skipGaps, List.dropWhile_cons] at h ⊢
    split at h
    · next hc =>
      rw [if_pos hc, skipSpace_gap hc]
      exact ih h
    · next hc =>
      have hc : isGap c = false := by simpa using hc
      rw [if_neg (by simp [hc])]
      exact skipSpace_of_none (space_of_not_gap hc fun hslash => h (by rw [hslash]; rfl))

lemma skipSpace_skipSpace (cs : List Char) : skipSpace (skipSpace cs) = skipSpace cs :=
  skipSpace_of_none (many_end (fun _ _ _ h => (space_suffix h).2) cs)

lemma head?_of_qualified {name : Spelling × Spelling}
    (h : qualified identifier cs = some (name, rest)) : cs.head? ≠ some '/' := by
  intro hslash
  obtain ⟨ds, rfl⟩ := List.head?_eq_some_iff.mp hslash
  cases h

lemma head?_of_comparison {relation : Option AttributeRelation}
    (h : comparison cs = some (relation, rest)) : cs.head? ≠ some '/' := by
  intro hslash
  obtain ⟨ds, rfl⟩ := List.head?_eq_some_iff.mp hslash
  cases h

lemma head?_of_value {v : Spelling} (h : value cs = some (v, rest)) : cs.head? ≠ some '/' := by
  intro hslash
  obtain ⟨ds, rfl⟩ := List.head?_eq_some_iff.mp hslash
  cases h

lemma head?_of_bracket (h : cs = ']' :: rest) : cs.head? ≠ some '/' := by
  rw [h]
  simp

lemma head?_of_caseFlag {skip : List Char → List Char} (hskip : ∀ cs, skip (skip cs) = skip cs)
    {flag : Option Bool} {last : List Char} (hflag : caseFlag (skip cs) = (flag, last))
    (hend : skip last = ']' :: rest) : (skip cs).head? ≠ some '/' := by
  intro hslash
  obtain ⟨ds, hds⟩ := List.head?_eq_some_iff.mp hslash
  have hnone : caseFlag ('/' :: ds) = (none, '/' :: ds) := rfl
  rw [hds, hnone] at hflag
  obtain ⟨-, rfl⟩ := Prod.mk.inj hflag
  rw [← hds, hskip, hds] at hend
  cases hend

lemma Brackets.of_skipGaps {a : Option Simple} (h : Brackets skipGaps cs a rest) :
    Brackets skipSpace cs a rest := by
  have hend {cs : List Char} (h : skipGaps cs = ']' :: rest) : skipSpace cs = ']' :: rest :=
    (skipSpace_eq_skipGaps (head?_of_bracket h)).trans h
  cases h with
  | present hname htail =>
    exact .present (skipSpace_eq_skipGaps (head?_of_qualified hname) ▸ hname) (hend htail)
  | compared hname hrelation hv hflag hlast =>
    exact .compared (skipSpace_eq_skipGaps (head?_of_qualified hname) ▸ hname)
      (skipSpace_eq_skipGaps (head?_of_comparison hrelation) ▸ hrelation)
      (skipSpace_eq_skipGaps (head?_of_value hv) ▸ hv)
      (skipSpace_eq_skipGaps (head?_of_caseFlag (List.dropWhile_idempotent isGap) hflag hlast) ▸
        hflag)
      (hend hlast)

lemma quotedValue_eq_some_iff {v : Spelling} : quotedValue q cs = some (v, rest) ↔
    (many (quotedPiece q) cs).2 = q :: rest ∧
      v = .ofLetters (many (quotedPiece q) cs).1.flatten := by
  simp only [quotedValue]
  cases (many (quotedPiece q) cs).2 with
  | nil => simp
  | cons c left =>
    by_cases hc : c = q
    · simp [hc, eq_comm, and_comm]
    · simp [hc]

lemma goesBack_value_of_cons (hQ : ∀ c cs, Q cs → Q (c :: cs)) : value.GoesBack Q := by
  have hquoted {q : Char} {cs rest : List Char} {v : Spelling}
      (h : quotedValue q cs = some (v, rest)) (hrest : Q rest) : Q cs := by
    have hpiece : (quotedPiece q).GoesBack Q :=
      (Lexical.of_cons hQ).quotedPiece fun c cs _ _ => hQ c cs
    refine hpiece.many ?_
    rw [(quotedValue_eq_some_iff.mp h).1]
    exact hQ q rest hrest
  intro cs v rest h hrest
  unfold value at h
  split at h
  · exact hQ _ _ (hquoted h hrest)
  · exact hQ _ _ (hquoted h hrest)
  · exact (Lexical.of_cons hQ).identifier cs v rest h hrest

lemma lexical_length (n : Nat) : Lexical fun cs => n ≤ cs.length :=
  .of_cons fun _ _ => Nat.le_succ_of_le

lemma length_skipGap_le (cs : List Char) : (skipGap cs).length ≤ cs.length :=
  (lexical_length _).skipGap (Nat.le_refl _)

lemma length_letterOr_lt {accept : Char → Bool} {l : Letter}
    (h : letterOr accept cs = some (l, rest)) : rest.length < cs.length := by
  unfold letterOr at h
  split at h
  · rcases exists_of_escaped h with ⟨rfl, -⟩ | ⟨d, ds, left, rfl, -, hrest⟩
    · exact Nat.lt_succ_self _
    · have hleft : rest.length ≤ left.length := by
        rcases hrest with rfl | rfl
        · exact Nat.le_refl _
        · exact length_skipGap_le left
      simp only [List.length_cons, List.length_append]
      omega
  · split at h
    · obtain ⟨-, rfl⟩ := Prod.mk.inj (Option.some.inj h)
      exact Nat.lt_succ_self _
    · cases h
  · cases h

lemma length_identifier_lt {s : Spelling} (h : identifier cs = some (s, rest)) :
    rest.length < cs.length := by
  have hname (cs : List Char) := length_many_le (letterOr isNameChar) cs
  rcases exists_of_identifier h with ⟨tail, rfl, rfl⟩ | ⟨lead, tail, l, body, -, rfl, hl, rfl⟩
  · exact Nat.lt_succ_of_le (Nat.le_succ_of_le (hname tail))
  · have hbody := Nat.lt_of_le_of_lt (hname body) (length_letterOr_lt hl)
    rw [List.length_append]
    omega

lemma length_typeName_lt {s : Spelling} (h : typeName cs = some (s, rest)) :
    rest.length < cs.length := by
  unfold typeName at h
  split at h
  · obtain ⟨-, rfl⟩ := Prod.mk.inj (Option.some.inj h)
    exact Nat.lt_succ_self _
  · exact length_identifier_lt h

lemma length_typeSelector_lt {a : Option Simple} (h : typeSelector cs = some (a, rest)) :
    rest.length < cs.length := by
  obtain ⟨⟨name, left⟩, hname, h⟩ := Option.map_eq_some_iff.mp h
  obtain ⟨-, rfl⟩ := Prod.mk.inj h
  rcases exists_of_qualified hname with ⟨inner, hspace, h⟩ | ⟨-, h⟩
  · exact (lexical_length (left.length + 1)).namePrefix cs _ inner hspace (length_typeName_lt h)
  · exact length_typeName_lt h

lemma length_bracketed_lt {a : Option Simple} (h : bracketed cs = some (a, rest)) :
    rest.length < cs.length := by
  have hcons (c : Char) (cs : List Char) := @Nat.le_succ_of_le (rest.length + 1) cs.length
  exact (lexical_length (rest.length + 1)).brackets (fun _ => of_skipSpace hcons)
    (goesBack_value_of_cons hcons) (bracketed_eq_some_iff.mp h) (Nat.le_refl _)

end MarkupQuery.Css
