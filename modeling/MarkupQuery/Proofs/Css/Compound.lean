import MarkupQuery.Proofs.Css.Plain
import MarkupQuery.Proofs.Css.Scoped

namespace MarkupQuery.Css

open MarkupQuery.Selector Text

/-- A text of type, id, class and attribute selectors with nothing between them, where `skip` passes
over what stands inside the brackets of these. -/
inductive Compound (skip : List Char → List Char) : List Char → Prop
  | nil : Compound skip []
  | type {a : Option Simple} {cs rest : List Char} (h : typeSelector cs = some (a, rest))
      (hrest : Compound skip rest) : Compound skip cs
  | id {name : Spelling} {cs rest : List Char} (h : identifier cs = some (name, rest))
      (hrest : Compound skip rest) : Compound skip ('#' :: cs)
  | className {name : Spelling} {cs rest : List Char} (h : identifier cs = some (name, rest))
      (hrest : Compound skip rest) : Compound skip ('.' :: cs)
  | test {a : Option Simple} {cs rest : List Char} (h : Brackets skip cs a rest)
      (hrest : Compound skip rest) : Compound skip ('[' :: cs)

def IsCompound (css : String) : Prop := Compound skipSpace (css.toList.map withoutNull)

variable {cs rest : List Char} {ts : List Token} {f : Frame} {x : Selector}

-- A comment may hold the sign of a call or a quote, so this is of compounds without any.
lemma Compound.plain (h : Compound skipGaps cs) : Unread Plain cs := by
  -- From the end of the compound: every part carries plainness back over what it takes.
  have hQ : Lexical (Unread Plain) := lexical_plain.unread
  induction h with
  | nil =>
    intro ds hds
    rw [List.map_eq_nil_iff.mp hds]
    exact plain_nil
  | type h _ ih => exact hQ.typeSelector _ _ _ h ih
  | id h _ ih => exact hQ.char (by decide) (hQ.identifier _ _ _ h ih)
  | className h _ ih => exact hQ.char (by decide) (hQ.identifier _ _ _ h ih)
  | test h _ ih =>
    intro ds hds
    obtain ⟨d, ds, rfl, hd, htail⟩ := List.map_eq_cons_iff.mp hds
    obtain rfl := eq_of_withoutNull hd (by decide)
    obtain ⟨body, left, rfl, hleft, hbody⟩ := takes_brackets h ds htail
    exact (ih left hleft).cons_item (.block [] hbody) (by simp)

lemma Compound.of_skipGaps (h : Compound skipGaps cs) : Compound skipSpace cs := by
  induction h with
  | nil => exact .nil
  | type h _ ih => exact .type h ih
  | id h _ ih => exact .id h ih
  | className h _ ih => exact .className h ih
  | test h _ ih => exact .test h.of_skipGaps ih

def Token.IsPart : Token → Prop
  | .leading s | .simple s => ∀ p ∈ s, p.IsPart
  | _ => False

lemma isPart_simple? {name : Spelling} {make : String → Simple} (hmake : ∀ t, (make t).IsPart) :
    ∀ p ∈ name.simple? make, p.IsPart := by
  cases name with
  | text t => exact fun p hp => Option.some.inj hp ▸ hmake t
  | unmatched => exact fun p hp => Option.some.inj hp ▸ .nothing
  | beyond => exact nofun

lemma isPart_typeSelector {a : Option Simple} (h : typeSelector cs = some (a, rest)) :
    ∀ p ∈ a, p.IsPart := by
  obtain ⟨⟨⟨space, name⟩, left⟩, -, h⟩ := Option.map_eq_some_iff.mp h
  obtain ⟨rfl, -⟩ := Prod.mk.inj h
  cases space <;> cases name <;> simp [typeSimple?, Simple.IsPart.type, Simple.IsPart.nothing]

lemma isPart_brackets {skip : List Char → List Char} {a : Option Simple}
    (h : Brackets skip cs a rest) : ∀ p ∈ a, p.IsPart := by
  obtain ⟨⟨space, name⟩, value, relation, flag, rfl⟩ := exists_attributeSimple? h
  cases space <;> cases name <;> cases value <;> cases relation <;>
    simp [attributeSimple?, Simple.IsPart.test, Simple.IsPart.unequal,
      Simple.IsPart.nothing, Simple.IsPart.anything]

lemma space_of_typeSelector {a : Option Simple} (h : typeSelector cs = some (a, rest)) :
    space cs = none := by
  cases cs with
  | nil => rfl
  | cons c cs =>
    refine space_of_not_gap ?_ ?_
    · by_contra hc
      have hgap : isGap c = true := by simpa using hc
      simp only [isGap, Bool.or_eq_true, beq_iff_eq] at hgap
      rcases hgap with (((rfl | rfl) | rfl) | rfl) | rfl <;> cases h
    · rintro rfl
      cases h

lemma token_of_typeSelector {a : Option Simple} (h : typeSelector cs = some (a, rest)) :
    token cs = some ([.leading a], rest) := by
  unfold token
  split
  case h_8 => rw [h]
  all_goals cases h

lemma token_of_brackets {a : Option Simple} (h : Brackets skipSpace cs a rest) :
    token ('[' :: cs) = some ([.simple a], rest) := by
  change (bracketed cs).map _ = _
  rw [bracketed_eq_some_iff.mpr h]
  rfl

lemma token_id {name : Spelling} (h : identifier cs = some (name, rest)) :
    token ('#' :: cs) = some ([.simple (name.simple? .id)], rest) := by
  change (identifier cs).map _ = _
  rw [h]
  rfl

lemma token_className {name : Spelling} (h : identifier cs = some (name, rest)) :
    token ('.' :: cs) = some ([.simple (name.simple? .className)], rest) := by
  change (identifier cs).map _ = _
  rw [h]
  rfl

lemma token_nil : token [] = none := by
  change separator [] = none
  simp [separator, skipSeparation?, skipSpace, many_of_none (show space [] = none from rfl)]

lemma many_token_of_part {t : Token} (h : token cs = some ([t], rest))
    (hlt : rest.length < cs.length) (ht : t.IsPart)
    (hrest : ∃ tss, many token rest = (tss, []) ∧ ∀ t ∈ tss.flatten, t.IsPart) :
    ∃ tss, many token cs = (tss, []) ∧ ∀ t ∈ tss.flatten, t.IsPart := by
  obtain ⟨tss, hmany, htss⟩ := hrest
  refine ⟨[t] :: tss, by rw [many_cons h hlt, hmany], ?_⟩
  rw [List.flatten_cons, List.singleton_append, List.forall_mem_cons]
  exact ⟨ht, htss⟩

lemma many_tokenBefore_prefix (n : Nat) (cs : List Char) :
    (many (tokenBefore n) cs).1 <+: (many token cs).1 := by
  fun_induction many (tokenBefore n) cs with
  | case1 cs ts rest hcs hlt tss rest' hmany ih =>
    rw [tokenBefore] at hcs
    split at hcs
    · cases hcs
    · rw [hmany] at ih
      rw [many_cons hcs hlt]
      exact List.cons_prefix_cons.mpr ⟨rfl, ih⟩
  | case2 => exact List.nil_prefix
  | case3 => exact List.nil_prefix

namespace Compound

lemma many_token (h : Compound skipSpace cs) :
    ∃ tss, many token cs = (tss, []) ∧ ∀ t ∈ tss.flatten, t.IsPart := by
  induction h with
  | nil => exact ⟨[], many_of_none token_nil, by simp⟩
  | type h _ ih =>
    exact many_token_of_part (token_of_typeSelector h) (length_typeSelector_lt h)
      (isPart_typeSelector h) ih
  | id h _ ih =>
    exact many_token_of_part (token_id h) (Nat.lt_succ_of_lt (length_identifier_lt h))
      (isPart_simple? .id) ih
  | className h _ ih =>
    exact many_token_of_part (token_className h) (Nat.lt_succ_of_lt (length_identifier_lt h))
      (isPart_simple? .className) ih
  | test h _ ih =>
    exact many_token_of_part (token_of_brackets h)
      (Nat.lt_succ_of_lt (length_bracketed_lt (bracketed_eq_some_iff.mpr h))) (isPart_brackets h) ih

lemma skipSpace_eq (h : Compound skipSpace cs) : skipSpace cs = cs := by
  cases h with
  | type h => exact skipSpace_of_none (space_of_typeSelector h)
  | nil | id | className | test => exact skipSpace_of_none rfl

lemma isPart_of_mem_tokens (h : Compound skipSpace cs) : ∀ t ∈ (tokens cs).1, t.IsPart := by
  obtain ⟨tss, hmany, hparts⟩ := h.many_token
  obtain ⟨later, hlater⟩ := many_tokenBefore_prefix (closingLength cs) cs
  have hlater : (many (tokenBefore (closingLength cs)) cs).1 ++ later = tss := by rw [hlater, hmany]
  rw [tokens, h.skipSpace_eq]
  intro t ht
  refine hparts t ?_
  rw [← hlater, List.flatten_append]
  exact List.mem_append_left _ ht

end Compound

lemma mem_ordered_imp {s : Simple} {parts : List Simple} (h : s ∈ Frame.ordered parts) :
    s ∈ parts := by
  obtain ⟨rank, -, hs⟩ := List.mem_flatMap.mp h
  exact (List.mem_filter.mp hs).1

lemma exists_parts_of_assemble {isWhole : Bool} (hts : ∀ t ∈ ts, t.IsPart)
    (hf : ∀ p ∈ f.parts, p.IsPart) (hopening : f.opening = none) (hhtml : f.isHtml = false)
    (halternatives : f.alternatives = []) (hsteps : f.steps = [])
    (h : assemble isWhole ts f [] = .ok x) :
    ∃ parts, x = [.compound parts] ∧ ∀ p ∈ parts, p.IsPart := by
  induction ts generalizing f with
  | nil =>
    simp only [assemble] at h
    split at h
    · cases h
    · obtain rfl := Except.ok.inj h
      obtain ⟨opening, isHtml, alternatives, relatives, steps, link, parts⟩ := f
      obtain rfl : opening = none := hopening
      obtain rfl : isHtml = false := hhtml
      obtain rfl : alternatives = [] := halternatives
      obtain rfl : steps = [] := hsteps
      refine ⟨Frame.ordered parts.reverse, rfl, fun p hp => hf p ?_⟩
      exact List.mem_reverse.mp (mem_ordered_imp hp)
  | cons t ts ih =>
    obtain ⟨ht, hts⟩ := List.forall_mem_cons.mp hts
    have hadd (s : Simple) (hs : s.IsPart) (h : assemble isWhole ts (f.add s) [] = .ok x) :
        ∃ parts, x = [.compound parts] ∧ ∀ p ∈ parts, p.IsPart :=
      @ih (f.add s) hts (List.forall_mem_cons.mpr ⟨hs, hf⟩) hopening hhtml halternatives hsteps h
    cases t with
    | leading s? =>
      simp only [assemble] at h
      split at h
      · cases h
      cases s? with
      | none => cases h
      | some s => exact hadd s (ht s rfl) h
    | simple s? =>
      cases s? with
      | none => cases h
      | some s => exact hadd s (ht s rfl) h
    | _ => cases ht

lemma Compound.exists_parts {css : String} (h : Compound skipSpace (css.toList.map withoutNull))
    (hx : Selector.ofText css = .ok x) :
    ∃ parts, x = [.compound parts] ∧ ∀ p ∈ parts, p.IsPart :=
  exists_parts_of_assemble h.isPart_of_mem_tokens (by simp [Frame.start]) rfl rfl rfl rfl hx

lemma Simple.IsPart.isSteady_html {s : Simple} (h : s.IsPart) : s.isSteady .html = true := by
  cases h with
  | type | test | unequal => simp [isSteady, allSteady, Complex.isSteady, partsSteady]
  | _ => rfl

lemma partsSteady_html {parts : List Simple} (h : ∀ p ∈ parts, p.IsPart) :
    partsSteady .html parts = true := by
  induction parts with
  | nil => rfl
  | cons p parts ih =>
    obtain ⟨hp, hparts⟩ := List.forall_mem_cons.mp h
    exact Bool.and_eq_true_iff.mpr ⟨hp.isSteady_html, ih hparts⟩

/-- In HTML, where no prefixes are known, every compound judges each element by itself. -/
lemma IsCompound.isSteady_html {css : String} (h : IsCompound css)
    (hx : Selector.ofText css = .ok x) : x.isSteady .html = true := by
  obtain ⟨parts, rfl, hparts⟩ := Compound.exists_parts h hx
  rw [isSteady_compound]
  exact partsSteady_html hparts

lemma exists_of_letterOr {accept : Char → Bool} {l : Letter} (hback : '\\' ∉ cs)
    (h : letterOr accept cs = some (l, rest)) : ∃ c, cs = c :: rest ∧ accept c = true := by
  unfold letterOr at h
  split at h
  · simp at hback
  · split at h
    · next hc =>
      obtain ⟨-, rfl⟩ := Prod.mk.inj (Option.some.inj h)
      exact ⟨_, rfl, hc⟩
    · cases h
  · cases h

lemma exists_body_of_many (accept : Char → Bool) (hback : '\\' ∉ cs) :
    ∃ body, cs = body ++ (many (letterOr accept) cs).2 ∧ ∀ c ∈ body, accept c = true := by
  have hitem : (letterOr accept).GoesBack fun ds => '\\' ∉ ds →
      ∃ body, ds = body ++ (many (letterOr accept) cs).2 ∧ ∀ c ∈ body, accept c = true := by
    intro ds l rest hl ih hback
    obtain ⟨c, rfl, hc⟩ := exists_of_letterOr hback hl
    obtain ⟨body, hbody, hall⟩ := ih fun h => hback (List.mem_cons_of_mem c h)
    exact ⟨c :: body, congrArg (c :: ·) hbody, List.forall_mem_cons.mpr ⟨hc, hall⟩⟩
  exact hitem.many (fun _ => ⟨[], rfl, List.forall_mem_nil _⟩) hback

lemma exists_body_of_identifier {s : Spelling} (hback : '\\' ∉ cs)
    (h : identifier cs = some (s, rest)) :
    ∃ body, cs = body ++ rest ∧ ∀ c ∈ body, isNameChar c = true := by
  rcases exists_of_identifier h with ⟨tail, rfl, rfl⟩ | ⟨lead, tail, l, left, hlead, rfl, hl, rfl⟩
  · have hback : '\\' ∉ tail :=
      fun h => hback (List.mem_cons_of_mem _ (List.mem_cons_of_mem _ h))
    obtain ⟨body, hbody, hall⟩ := exists_body_of_many isNameChar hback
    refine ⟨'-' :: '-' :: body, congrArg ('-' :: '-' :: ·) hbody, ?_⟩
    exact List.forall_mem_cons.mpr ⟨rfl, List.forall_mem_cons.mpr ⟨rfl, hall⟩⟩
  · have hback : '\\' ∉ tail := fun h => hback (List.mem_append_right _ h)
    obtain ⟨c, rfl, hc⟩ := exists_of_letterOr hback hl
    have hback : '\\' ∉ left := fun h => hback (List.mem_cons_of_mem _ h)
    obtain ⟨body, hbody, hall⟩ := exists_body_of_many isNameChar hback
    refine ⟨lead ++ c :: body, ?_, ?_⟩
    · rw [List.append_assoc, List.cons_append, ← hbody]
    · refine List.forall_mem_append.mpr ⟨?_, List.forall_mem_cons.mpr ⟨?_, hall⟩⟩
      · rcases hlead with rfl | rfl
        · exact nofun
        · exact List.forall_mem_singleton.mpr rfl
      · simp [isNameChar, hc]

lemma exists_body_of_typeSelector {a : Option Simple} (hback : '\\' ∉ cs)
    (h : typeSelector cs = some (a, rest)) : ∃ body, cs = body ++ rest ∧ '/' ∉ body := by
  have hidentifier {cs rest : List Char} {s : Spelling} (hback : '\\' ∉ cs)
      (h : identifier cs = some (s, rest)) : ∃ body, cs = body ++ rest ∧ '/' ∉ body := by
    obtain ⟨body, hcs, hall⟩ := exists_body_of_identifier hback h
    exact ⟨body, hcs, fun h => absurd (hall _ h) (by decide)⟩
  have htype {cs : List Char} {s : Spelling} (hback : '\\' ∉ cs)
      (h : typeName cs = some (s, rest)) : ∃ body, cs = body ++ rest ∧ '/' ∉ body := by
    unfold typeName at h
    split at h
    · obtain ⟨-, rfl⟩ := Prod.mk.inj (Option.some.inj h)
      exact ⟨['*'], rfl, by decide⟩
    · exact hidentifier hback h
  obtain ⟨⟨name, left⟩, hname, h⟩ := Option.map_eq_some_iff.mp h
  obtain ⟨-, rfl⟩ := Prod.mk.inj h
  rcases exists_of_qualified hname with ⟨inner, hspace, htaken⟩ | ⟨-, htaken⟩
  · obtain ⟨lead, rfl, hlead⟩ : ∃ lead, cs = lead ++ inner ∧ '/' ∉ lead := by
      rcases exists_of_namePrefix hspace with rfl | rfl | h
      · exact ⟨['|'], rfl, by decide⟩
      · exact ⟨['*', '|'], rfl, by decide⟩
      · obtain ⟨lead, rfl, hlead⟩ := hidentifier hback h
        exact ⟨lead ++ ['|'], by simp, by simp [hlead]⟩
    obtain ⟨body, rfl, hbody⟩ := htype (fun h => hback (List.mem_append_right _ h)) htaken
    exact ⟨lead ++ body, by simp, by simp [hlead, hbody]⟩
  · exact htype hback htaken

lemma getLast?_append_ne {c : Char} {body rest : List Char} (hbody : c ∉ body)
    (hrest : rest.getLast? ≠ some c) : (body ++ rest).getLast? ≠ some c := by
  rw [List.getLast?_append]
  intro h
  rcases Option.or_eq_some_iff.mp h with h | ⟨-, h⟩
  · exact hrest h
  · exact hbody (List.mem_of_getLast? h)

lemma brackets_suffix {skip : List Char → List Char} {a : Option Simple}
    (hskip : ∀ cs, skip cs <:+ cs) (h : Brackets skip cs a rest) : ']' :: rest <:+ cs := by
  have hcons (c : Char) (cs : List Char) (h : ']' :: rest <:+ cs) := h.trans (List.suffix_cons c cs)
  exact (Lexical.of_cons hcons).brackets (fun cs h => h.trans (hskip cs))
    (goesBack_value_of_cons hcons) h List.suffix_rfl

lemma Compound.getLast?_ne (h : Compound skipSpace cs) (hback : '\\' ∉ cs) :
    cs.getLast? ≠ some '/' := by
  have hcons {c : Char} {cs rest : List Char} (hc : c ≠ '/') (hback : '\\' ∉ c :: cs)
      {name : Spelling} (h : identifier cs = some (name, rest))
      (ih : '\\' ∉ rest → rest.getLast? ≠ some '/') : (c :: cs).getLast? ≠ some '/' := by
    obtain ⟨body, rfl, hbody⟩ :=
      exists_body_of_identifier (fun h => hback (List.mem_cons_of_mem c h)) h
    have hslash : '/' ∉ c :: body := by
      intro h
      rcases List.mem_cons.mp h with h | h
      · exact hc h.symm
      · exact absurd (hbody _ h) (by decide)
    refine getLast?_append_ne hslash (ih fun h => hback ?_)
    exact List.mem_cons_of_mem c (List.mem_append_right _ h)
  induction h with
  | nil => nofun
  | type h _ ih =>
    obtain ⟨body, rfl, hbody⟩ := exists_body_of_typeSelector hback h
    exact getLast?_append_ne hbody (ih fun h => hback (List.mem_append_right _ h))
  | id h _ ih => exact hcons (by decide) hback h ih
  | className h _ ih => exact hcons (by decide) hback h ih
  | @test a cs rest h _ ih =>
    obtain ⟨body, rfl⟩ := brackets_suffix skipSpace_suffix h
    have hlast : ('[' :: (body ++ ']' :: rest)).getLast? = (']' :: rest).getLast? := by
      rw [← List.cons_append, List.getLast?_append_of_ne_nil _ (List.cons_ne_nil _ _)]
    rw [hlast, ← List.singleton_append]
    refine getLast?_append_ne (by decide) (ih fun h => hback ?_)
    simp [h]

end MarkupQuery.Css
