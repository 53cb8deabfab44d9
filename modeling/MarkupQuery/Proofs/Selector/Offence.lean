import MarkupQuery.Proofs.Selector.Refusal
import MarkupQuery.Proofs.Text.Escape

namespace MarkupQuery.Selector

open Text

def Sound (cs : List Char) : Prop := Blank cs ∨ ∃ ss, segments (String.ofList cs) = .ok ss

/-- What is wrong with a selector, and at which position. A call is at fault for its name, its
parentheses or an argument, and before its colon all is in order; so it is before a bracket that is
not closed. A quote that is not closed stands by itself or after an opening bracket. -/
inductive Offends (s : List Char) : Malformation → Nat → Prop
  | blank : Blank s → Offends s .blank 0
  | missingName {before rest : List Char} : s = before ++ ':' :: rest →
      (∀ c ∈ rest.head?, isGap c = true ∨ c = '(' ∨ c = ':') → Sound before →
        Offends s .missingName before.length
  | openArguments {before name rest : List Char} : s = before ++ ':' :: (name ++ '(' :: rest) →
      IsName name → ')' ∉ rest → Sound before →
        Offends s .openArguments (before.length + 1 + name.length)
  | nestedArguments {before name inside rest : List Char} :
      s = before ++ ':' :: (name ++ '(' :: (inside ++ ')' :: rest)) →
      IsName name → ')' ∉ inside → '(' ∈ inside → Sound before →
        Offends s .nestedArguments (before.length + 1 + name.length)
  | spacedArgument {before name inside rest front back : List Char} {gap : Char} :
      s = before ++ ':' :: (name ++ '(' :: (inside ++ ')' :: rest)) →
      IsName name → ')' ∉ inside → front ++ gap :: back ∈ argumentTokens inside →
      front ≠ [] → back ≠ [] → isGap gap = true → Sound before →
        Offends s (.spacedArgument (String.ofList (front ++ gap :: back)))
          (before.length + 1 + name.length + 1)
  | openQuote {before rest : List Char} {q : Char} : s = before ++ q :: rest → isQuote q = true →
      Shielded q rest →
      (Sound before ∨ ∃ outer inner, before = outer ++ '[' :: inner ∧ Sound outer) →
        Offends s .openQuote before.length
  | openBracket {before rest : List Char} : s = before ++ '[' :: rest → Sound before →
      Offends s .openBracket before.length

variable {cs before left more rest : List Char} {ls : List Lexeme} {l : Lexeme} {c q : Char}
  {position n offset : Nat} {stop : Stop} {cause : Malformation} {s : String}

lemma Item.cut (h : Item l (more ++ left)) (hleft : left ≠ []) : Item l more := by
  generalize htext : more ++ left = rest at h
  cases h with
  | escape => exact .escape _ _
  | ending => exact absurd (List.append_eq_nil_iff.mp htext).2 hleft
  | quoted _ hq hb => exact .quoted _ hq hb
  | block _ hb => exact .block _ hb
  | bareCall hn hr =>
    refine .bareCall hn fun c hc => hr c ?_
    rw [← htext, List.head?_append, hc]
    rfl
  | call _ hn hne hp => exact .call _ hn hne hp
  | char _ hb hq hbracket hcolon => exact .char _ hb hq hbracket hcolon

lemma Starts.suffix (h : Starts cs ls left) : left <:+ cs := by
  induction h with
  | nil => exact List.suffix_rfl
  | cons _ _ ih => exact ih.trans (List.suffix_append _ _)

lemma Starts.split (h : Starts (before ++ left) ls left) (hleft : left ≠ []) :
    Split before ls := by
  generalize htext : before ++ left = cs at h
  induction h generalizing before with
  | nil cs =>
    obtain rfl : before = [] := by simpa using htext
    exact .nil
  | @cons l rest left ls hi hs ih =>
    obtain ⟨more, rfl⟩ := hs.suffix
    rw [← List.append_assoc] at htext
    obtain rfl := List.append_cancel_right htext
    exact .cons (hi.cut hleft) (ih hleft rfl)

lemma Split.sound (h : Split cs ls) : Sound cs := by
  by_cases hb : Blank cs
  · exact .inl hb
  · refine .inr ⟨gather 0 [] ls, segments_eq_ok_iff.mpr ?_⟩
    rw [String.toList_ofList]
    exact ⟨hb, ls, h, rfl⟩

lemma shielded_of_quotedSpan (hq : isQuote q = true) (h : quotedSpan q cs = none) :
    Shielded q cs := by
  have hne := quote_ne_backslash hq
  fun_induction quotedSpan q cs with
  | case1 => exact shielded_nil
  | case2 => exact shielded_backslash hne
  | case3 c cs ih => exact (ih (Option.map_eq_none_iff.mp h)).escape hne
  | case4 => cases h
  | case5 c cs hlast hpair hc ih =>
    exact (ih (Option.map_eq_none_iff.mp h)).cons (ne_backslash hlast hpair) (by simpa using hc)

lemma exists_open_quote {quote : Option (Char × Nat)} (hquote : ∀ p ∈ quote, isQuote p.1 = true)
    (h : blockSpan quote n cs = .openQuote offset) :
    (∃ q, quote = some (q, offset) ∧ Shielded q cs) ∨
      ∃ inner q rest, cs = inner ++ q :: rest ∧ offset = n + inner.length ∧ isQuote q = true ∧
        Shielded q rest := by
  fun_induction blockSpan quote n cs with
  | case1 n q offset' =>
    obtain rfl := BlockEnd.openQuote.inj h
    exact .inl ⟨q, rfl, shielded_nil⟩
  | case2 => cases h
  | case3 n q offset' =>
    obtain rfl := BlockEnd.openQuote.inj h
    exact .inl ⟨q, rfl, shielded_backslash (quote_ne_backslash (hquote _ rfl))⟩
  | case4 => cases h
  | case5 quote n c cs ih =>
    rcases ih hquote h with ⟨q, rfl, hq⟩ | ⟨inner, q, rest, rfl, rfl, hq, hrest⟩
    · exact .inl ⟨q, rfl, hq.escape (quote_ne_backslash (hquote _ rfl))⟩
    · exact .inr ⟨'\\' :: c :: inner, q, rest, rfl, by simp; omega, hq, hrest⟩
  | case6 n c cs hlast hpair q offset' ih =>
    have hne : c ≠ '\\' := ne_backslash hlast hpair
    rcases ih (by split <;> simp_all) h with ⟨q', heq, hq⟩ | ⟨inner, q', rest, rfl, rfl, hq, hrest⟩
    · split at heq
      · cases heq
      · next hc =>
        obtain ⟨rfl, rfl⟩ := Prod.mk.inj (Option.some.inj heq)
        exact .inl ⟨q, rfl, hq.cons hne (by simpa using hc)⟩
    · exact .inr ⟨c :: inner, q', rest, rfl, by simp; omega, hq, hrest⟩
  | case7 => cases h
  | case8 n c cs hlast hpair hc ih =>
    rcases ih (by split <;> simp_all) h with ⟨q, heq, hq⟩ | ⟨inner, q, rest, rfl, rfl, hq, hrest⟩
    · split at heq
      · next hcq =>
        obtain ⟨rfl, rfl⟩ := Prod.mk.inj (Option.some.inj heq)
        exact .inr ⟨[], c, cs, rfl, rfl, hcq, hq⟩
      · cases heq
    · exact .inr ⟨c :: inner, q, rest, rfl, by simp; omega, hq, hrest⟩

lemma exists_gap_of_mem_argumentTokens {token inside : List Char}
    (htoken : token ∈ argumentTokens inside) (hgap : token.any isGap = true) :
    ∃ front gap back, token = front ++ gap :: back ∧ front ≠ [] ∧ back ≠ [] ∧
      isGap gap = true := by
  obtain ⟨hmem, -⟩ := List.mem_filter.mp htoken
  obtain ⟨part, -, rfl⟩ := List.mem_map.mp hmem
  obtain ⟨gap, hmem, hgap⟩ := List.any_eq_true.mp hgap
  obtain ⟨front, back, htrim⟩ := List.append_of_mem hmem
  have htrimmed := trim_trim part
  have hblank : isBlank gap = true := isBlank_of_isGap hgap
  refine ⟨front, gap, back, htrim, ?_, ?_, hgap⟩
  · rintro rfl
    rw [htrim] at htrimmed
    simp [not_isBlank_of_trim_cons htrimmed] at hblank
  · rintro rfl
    rw [htrim, trim_append_blank (List.forall_mem_singleton.mpr hblank)] at htrimmed
    have hlen := congrArg List.length htrimmed
    obtain ⟨a, b, hfront, -, -⟩ := exists_blank_trim front
    have hle := congrArg List.length hfront
    simp only [List.length_append, List.length_singleton] at hlen hle
    omega

lemma any_isGap_of_readArgument {token : List Char} {argument : String}
    (h : readArgument token = .error (.spaced argument)) :
    argument = String.ofList token ∧ token.any isGap = true := by
  rw [readArgument, Argument.ofToken] at h
  split at h
  · next hgap => exact ⟨(Refusal.spaced.inj (Except.error.inj h)).symm, hgap⟩
  split at h
  · split at h <;> cases h
  · cases h

lemma offends_of_readCall (hbefore : Sound before)
    (h : readCall before.length rest = .error (.malformed cause position)) :
    Offends (before ++ ':' :: rest) cause position := by
  obtain ⟨hn, hstop⟩ | ⟨name, rest, rfl, hn, ⟨hi, hstop⟩ | ⟨inside, after, rfl, hi, hstop⟩⟩ :=
    exists_of_readCall_error h
  · obtain ⟨rfl, rfl⟩ := Stop.malformed.inj hstop
    exact .missingName rfl (fun c hc => isNameChar_eq_false_iff.mp (hn c hc)) hbefore
  · obtain ⟨rfl, rfl⟩ := Stop.malformed.inj hstop
    exact .openArguments rfl hn hi hbefore
  obtain ⟨ho, hstop⟩ | ⟨-, token, htoken, refusal, hread, hstop⟩ := hstop
  · obtain ⟨rfl, rfl⟩ := Stop.malformed.inj hstop
    exact .nestedArguments rfl hn hi ho hbefore
  · cases refusal with
    | digitLimit => cases hstop
    | spaced argument =>
      obtain ⟨rfl, rfl⟩ := Stop.malformed.inj hstop
      obtain ⟨rfl, hgap⟩ := any_isGap_of_readArgument hread
      obtain ⟨front, gap, back, rfl, hfront, hback, hgap⟩ :=
        exists_gap_of_mem_argumentTokens htoken hgap
      exact .spacedArgument rfl hn hi htoken hfront hback hgap hbefore

lemma offends_of_extent (hbefore : Sound before)
    (h : extent before.length c rest = .error (.malformed cause position)) :
    Offends (before ++ c :: rest) cause position := by
  simp only [extent, beq_iff_eq] at h
  split at h
  · cases h
  split at h
  · next hc =>
    subst hc
    cases hr : readCall before.length rest with
    | ok found =>
      rw [hr] at h
      cases h
    | error stop =>
      rw [hr] at h
      obtain rfl := Except.error.inj h
      exact offends_of_readCall hbefore hr
  split at h
  · next hc =>
    subst hc
    split at h
    · cases h
    · next offset hspan =>
      obtain ⟨rfl, rfl⟩ := Stop.malformed.inj (Except.error.inj h)
      obtain ⟨q, hnone, -⟩ | ⟨inner, q, after, rfl, rfl, hq, hafter⟩ :=
        exists_open_quote (by simp) hspan
      · cases hnone
      · have hplace : before.length + 1 + (0 + inner.length) =
            (before ++ '[' :: inner).length := by
          simp
          omega
        rw [hplace]
        exact .openQuote (by simp) hq hafter (.inr ⟨before, inner, rfl, hbefore⟩)
    · obtain ⟨rfl, rfl⟩ := Stop.malformed.inj (Except.error.inj h)
      exact .openBracket rfl hbefore
  split at h
  · next hq =>
    split at h
    · cases h
    · next hspan =>
      obtain ⟨rfl, rfl⟩ := Stop.malformed.inj (Except.error.inj h)
      exact .openQuote rfl hq (shielded_of_quotedSpan hq hspan) (.inl hbefore)
  · cases h

lemma HasLongNumber.length (h : HasLongNumber s) : digitLimit < s.length := by
  obtain ⟨ls, name, inside, rest, hstarts, -, -, -, token, htoken, hlong, -⟩ := h
  obtain ⟨hmem, -⟩ := List.mem_filter.mp htoken
  obtain ⟨part, hpart, rfl⟩ := List.mem_map.mp hmem
  obtain ⟨a, b, htrim, -, -⟩ := exists_blank_trim part
  have htoken := congrArg List.length htrim
  have hinside := length_le_of_mem_pieces hpart
  have hsuffix := hstarts.suffix.length_le
  simp only [List.length_append, List.length_cons, String.length_toList] at htoken hsuffix
  omega

/-- A selector that is not read, and not for the length of a number, is told with the position of
what is wrong with it; before the call or the bracket that is at fault all is in order. -/
theorem segments_error_offends {s : String} {fault : Fault} (h : segments s = .error fault)
    (hlong : ¬ HasLongNumber s) :
    ∃ (cause : Malformation) (position : Nat),
      fault = .malformed cause (some s) (some (position : Int)) ∧
        Offends s.toList cause position := by
  rcases exists_of_segments_error h with hb | ⟨stop, hl, rfl⟩
  · rw [segments, segmentsOf, if_pos (by exact hb)] at h
    exact ⟨.blank, 0, (Except.error.inj h).symm, .blank (by simpa [isBlankText, Blank] using hb)⟩
  · cases stop with
    | digitLimit => exact absurd (hasLongNumber_of_segments h) hlong
    | malformed cause position =>
      refine ⟨cause, position, rfl, ?_⟩
      obtain ⟨ls, before, c, rest, htext, hstarts, hextent⟩ := exists_of_lexemes_error hl
      rw [Nat.zero_add] at hextent
      rw [htext] at hstarts ⊢
      exact offends_of_extent (hstarts.split (List.cons_ne_nil c rest)).sound hextent

theorem segments_error_offends_nested :
    let s := " a\\:b[c=':x(']:d:é(1, (2) e:f(g h)"
    ¬ HasLongNumber s ∧
    segments s = .error (.malformed .nestedArguments (some s) (some 18)) ∧
    Offends s.toList .nestedArguments 18 := by
  intro s
  have hlong : ¬ HasLongNumber s := fun h => absurd h.length (by decide +kernel)
  have hs : segments s = .error (.malformed .nestedArguments (some s) (some 18)) := by
    decide +kernel
  obtain ⟨cause, position, hfault, hoffends⟩ := segments_error_offends hs hlong
  obtain ⟨rfl, -, hposition⟩ := Fault.malformed.inj hfault
  obtain rfl : 18 = position := Int.ofNat.inj (Option.some.inj hposition)
  exact ⟨hlong, hs, hoffends⟩

end MarkupQuery.Selector
