import MarkupQuery.Proofs.Selector.RoundTrip

namespace MarkupQuery.Selector

open Text

namespace Segment

def stop (x : Segment) : Nat := x.position + x.text.length

def Covers (x : Segment) (i : Nat) : Prop := x.position ≤ i ∧ i < x.stop

def Exact : Segment → Prop
  | plain text _ => text ≠ "" ∧ trim text.toList = text.toList
  | pseudo text _ call => ':' :: call.name.toList <+: text.toList

end Segment

inductive Laid : Nat → List Char → List Segment → Prop
  | blank (position : Nat) {cs : List Char} : Blank cs → Laid position cs []
  | cons {position : Nat} {before cs : List Char} {x : Segment} {xs : List Segment} :
      Blank before → x.Exact → x.position = position + before.length → Laid x.stop cs xs →
        Laid position (before ++ (x.text.toList ++ cs)) (x :: xs)

variable {position i : Nat} {bs cs ds plain rest : List Char} {x : Segment} {ss ts : List Segment}

lemma Segment.Exact.text_ne_nil (h : x.Exact) : x.text.toList ≠ [] := by
  cases x with
  | plain text position => simpa [Segment.text] using h.1
  | pseudo text position call => exact List.ne_nil_of_mem (h.subset List.mem_cons_self)

lemma Segment.Exact.position_lt_stop (h : x.Exact) : x.position < x.stop := by
  have hlen := List.length_pos_of_ne_nil h.text_ne_nil
  rw [String.length_toList] at hlen
  rw [stop]
  omega

namespace Laid

lemma blank_append (hb : Blank bs) (h : Laid (position + bs.length) cs ss) :
    Laid position (bs ++ cs) ss := by
  cases h with
  | blank _ hc => exact .blank position (Text.blank_append.mpr ⟨hb, hc⟩)
  | @cons _ before cs x xs hbefore hx hp h =>
    rw [← List.append_assoc]
    refine .cons (Text.blank_append.mpr ⟨hb, hbefore⟩) hx ?_ h
    rw [hp, List.length_append, Nat.add_assoc]

lemma append (h : Laid position cs ss) (h' : Laid (position + cs.length) ds ts) :
    Laid position (cs ++ ds) (ss ++ ts) := by
  induction h with
  | blank position hb => exact blank_append hb h'
  | @cons position before cs x xs hb hx hp h ih =>
    have hstop : x.stop + cs.length =
        position + (before ++ (x.text.toList ++ cs)).length := by
      simp only [Segment.stop, hp, List.length_append, String.length_toList]
      omega
    rw [List.append_assoc, List.append_assoc, List.cons_append]
    exact .cons hb hx hp (ih (hstop ▸ h'))

lemma exact (h : Laid position cs ss) : ∀ x ∈ ss, x.Exact := by
  induction h with
  | blank => simp
  | cons _ hx _ _ ih => exact List.forall_mem_cons.mpr ⟨hx, ih⟩

lemma position_le (h : Laid position cs ss) : ∀ x ∈ ss, position ≤ x.position := by
  induction h with
  | blank => simp
  | cons _ hx hp _ ih =>
    have hlt := hx.position_lt_stop
    refine List.forall_mem_cons.mpr ⟨by omega, fun y hy => ?_⟩
    have hle := ih y hy
    omega

lemma pairwise (h : Laid position cs ss) : ss.Pairwise fun x y => x.stop ≤ y.position := by
  induction h with
  | blank => exact .nil
  | cons _ _ _ h ih => exact .cons h.position_le ih

lemma slice (h : Laid position cs ss) (hb : bs.length = position) :
    ∀ x ∈ ss, ((bs ++ cs).drop x.position).take x.text.length = x.text.toList := by
  induction h generalizing bs with
  | blank => simp
  | @cons position before cs x xs _ hx hp _ ih =>
    have hsplit : bs ++ (before ++ (x.text.toList ++ cs)) =
        bs ++ before ++ x.text.toList ++ cs := by
      simp
    have hlen : (bs ++ before).length = x.position := by rw [List.length_append, hb, hp]
    refine List.forall_mem_cons.mpr ⟨?_, ?_⟩
    · rw [hsplit, List.append_assoc, ← hlen, List.drop_left, ← String.length_toList,
        List.take_left]
    · rw [hsplit]
      refine ih ?_
      rw [List.length_append, hlen, String.length_toList, Segment.stop]

lemma blank_of_not_covers (h : Laid position cs ss) {c : Char} (hc : cs[i]? = some c)
    (hi : ∀ x ∈ ss, ¬ x.Covers (position + i)) : isBlank c = true := by
  induction h generalizing i with
  | blank _ hb => exact hb c (List.mem_of_getElem? hc)
  | @cons position before cs x xs hb _ hp _ ih =>
    obtain ⟨hx, hxs⟩ := List.forall_mem_cons.mp hi
    by_cases hbefore : i < before.length
    · rw [List.getElem?_append_left hbefore] at hc
      exact hb c (List.mem_of_getElem? hc)
    rw [List.getElem?_append_right (by omega)] at hc
    -- The character is neither before the segment nor in it, so it stands after it.
    have hstop : x.stop ≤ position + i := by
      by_contra hlt
      exact hx ⟨by omega, by omega⟩
    rw [Segment.stop] at hstop
    rw [List.getElem?_append_right (by rw [String.length_toList]; omega)] at hc
    refine ih hc fun y hy hcovers => hxs y hy ?_
    have hplace : x.stop + (i - before.length - x.text.toList.length) = position + i := by
      rw [String.length_toList, Segment.stop]
      omega
    rwa [hplace] at hcovers

end Laid

lemma blank_or_plainSegment_eq (position : Nat) (cs : List Char) :
    Blank cs ∧ plainSegment position cs = [] ∨
      ∃ lead text tail, cs = lead ++ (text ++ tail) ∧ Blank lead ∧ Blank tail ∧ text ≠ [] ∧
        trim text = text ∧
        plainSegment position cs = [.plain (String.ofList text) (position + lead.length)] := by
  by_cases htrim : trim cs = []
  · exact .inl ⟨trim_eq_nil_iff.mp htrim, by simp [plainSegment, htrim]⟩
  · obtain ⟨tail, hstart, htail⟩ := exists_trimStart_eq cs
    have hcs : cs = cs.takeWhile isBlank ++ (trim cs ++ tail) := by
      rw [← hstart]
      exact List.takeWhile_append_dropWhile.symm
    refine .inr ⟨_, _, tail, hcs, fun c hc => List.mem_takeWhile_imp hc, htail, htrim,
      trim_trim cs, ?_⟩
    rw [plainSegment, if_neg (by simpa using htrim), length_sub_trimStart]

lemma laid_plainSegment (position : Nat) (cs : List Char) :
    Laid position cs (plainSegment position cs) := by
  obtain ⟨hb, hnil⟩ | ⟨lead, text, tail, hcs, hlead, htail, hne, htrim, hx⟩ :=
    blank_or_plainSegment_eq position cs
  · rw [hnil]
    exact .blank position hb
  · have hexact : (Segment.plain (String.ofList text) (position + lead.length)).Exact :=
      ⟨by simpa using hne, by simpa using htrim⟩
    have hlaid := Laid.cons hlead hexact rfl (.blank _ htail)
    rwa [Segment.text, String.toList_ofList, ← hcs, ← hx] at hlaid

lemma exact_of_item {text : List Char} {call : Call} (h : Item ⟨text, some call⟩ rest) :
    (Segment.pseudo (String.ofList text) position call).Exact := by
  cases h with
  | bareCall => simp [Segment.Exact]
  | call => simp [Segment.Exact]

lemma laid_gather {ls : List Lexeme} (h : Split cs ls) (position : Nat) (plain : List Char) :
    Laid position (plain ++ cs) (gather position plain ls) := by
  induction h generalizing position plain with
  | nil =>
    rw [List.append_nil]
    exact laid_plainSegment position plain
  | @cons l rest ls hi hs ih =>
    obtain ⟨text, call?⟩ := l
    cases call? with
    | none =>
      rw [gather, ← List.append_assoc]
      exact ih position (plain ++ text)
    | some call =>
      rw [gather]
      refine (laid_plainSegment position plain).append ?_
      have hcall := Laid.cons
        (x := .pseudo (String.ofList text) (position + plain.length) call) blank_nil
        (exact_of_item hi) rfl (ih _ [])
      simpa [Segment.stop, Segment.text, Segment.position] using hcall

lemma isCall_part (x : Segment) : x.part.isCall = x.call?.isSome := by
  cases x <;> rfl

lemma laid_segments {s : String} (h : segments s = .ok ss) : Laid 0 s.toList ss := by
  obtain ⟨-, ls, hl, rfl⟩ := segments_eq_ok_iff.mp h
  exact laid_gather hl 0 []

lemma canonical_segments {s : String} (h : segments s = .ok ss) :
    (∀ x ∈ ss, x.part.Canonical) ∧ Alternating (ss.map Segment.part) := by
  obtain ⟨ls, hl, hparts, -⟩ := exists_parts_of_segments h
  obtain ⟨hcanon, halt⟩ := canonical_partsOf [] hl fun ds hd => hd
  rw [hparts] at hcanon halt
  exact ⟨fun x hx => hcanon _ (List.mem_map_of_mem hx), halt⟩

lemma Plain.head_ne_colon {c : Char} (h : Plain (c :: cs)) : c ≠ ':' := by
  obtain ⟨ls, hs, hn⟩ := h
  generalize hds : c :: cs = ds at hs
  cases hs with
  | nil => cases hds
  | @cons l rest ls hi _ =>
    have hl := hn l List.mem_cons_self
    rintro rfl
    cases hi with
    | escape | ending | block => cases hds
    | quoted _ hq =>
      obtain ⟨rfl, -⟩ := List.cons.inj hds
      exact absurd hq (by decide)
    | char _ _ _ _ hcolon => exact hcolon (List.cons.inj hds).1.symm
    | bareCall => cases hl
    | call => cases hl

lemma head?_trimStart_iff {s : String} (h : segments s = .ok (x :: ss)) :
    (trimStart s.toList).head? = some ':' ↔ x.call?.isSome := by
  have hcanon := (canonical_segments h).1 x List.mem_cons_self
  have hlaid := laid_segments h
  generalize s.toList = ds at hlaid
  cases hlaid with
  | @cons _ before cs _ _ hb hx _ _ =>
    rw [trimStart_blank_append hb]
    cases x with
    | plain text position =>
      obtain ⟨hplain, htrim, hne⟩ := hcanon
      obtain ⟨c, rest, htext⟩ := List.exists_cons_of_ne_nil hx.text_ne_nil
      rw [Segment.text] at htext
      rw [htext] at hplain htrim
      have hblank := not_isBlank_of_trim_cons htrim
      simp [trimStart, Segment.text, Segment.call?, htext, hblank, hplain.head_ne_colon]
    | pseudo text position call =>
      obtain ⟨rest, htext⟩ := hx
      have hblank : isBlank ':' = false := by decide
      simp [trimStart, Segment.text, Segment.call?, ← htext, hblank]

/-- Segments keep every character that is not blank: each stands in the selector at its position,
they follow one another, and what they leave out is blank. -/
theorem segments_lossless {s : String} {ss : List Segment} (h : segments s = .ok ss) :
    ss ≠ [] ∧
    (∀ x ∈ ss, (s.toList.drop x.position).take x.text.length = x.text.toList) ∧
    ss.Pairwise (fun x y => x.position < y.position ∧ x.position + x.text.length ≤ y.position) ∧
    (∀ (i : Nat) (c : Char), s.toList[i]? = some c →
      (∀ x ∈ ss, ¬ (x.position ≤ i ∧ i < x.position + x.text.length)) → isBlank c = true) ∧
    ss.IsChain (fun x y => x.call?.isSome ∨ y.call?.isSome) ∧
    (∀ text position, .plain text position ∈ ss → text ≠ "" ∧ trimmed text = text) ∧
    ∀ text position call, .pseudo text position call ∈ ss →
      ':' :: call.name.toList <+: text.toList := by
  have hlaid := laid_segments h
  obtain ⟨-, -, -, hne⟩ := exists_parts_of_segments h
  have halt := (canonical_segments h).2
  refine ⟨hne, hlaid.slice List.length_nil, ?_, fun i c hc hi => ?_, ?_, ?_, ?_⟩
  · refine hlaid.pairwise.imp_of_mem fun {x y} hx _ hxy => ⟨?_, hxy⟩
    exact (hlaid.exact x hx).position_lt_stop.trans_le hxy
  · exact hlaid.blank_of_not_covers hc fun x hx => by rw [Nat.zero_add]; exact hi x hx
  · simpa only [Alternating, List.isChain_map, isCall_part] using halt
  · intro text position hx
    obtain ⟨hne, htrim⟩ := hlaid.exact _ hx
    exact ⟨hne, by rw [trimmed, htrim, String.ofList_toList]⟩
  · intro text position call hx
    exact hlaid.exact _ hx

theorem segments_lossless_escapes :
    let s := " a\\  :eq( 1 ) [b=':'] \\"
    let ss : List Segment := [.plain "a\\" 1, .pseudo ":eq( 1 )" 5 ⟨"eq", [.number 1]⟩,
      .plain "[b=':'] \\" 14]
    segments s = .ok ss ∧
    (∀ x ∈ ss, (s.toList.drop x.position).take x.text.length = x.text.toList) ∧
    ∀ (i : Nat) (c : Char), s.toList[i]? = some c →
      (∀ x ∈ ss, ¬ (x.position ≤ i ∧ i < x.position + x.text.length)) → isBlank c = true := by
  intro s ss
  have hs : segments s = .ok ss := by decide +kernel
  obtain ⟨-, hslice, -, hblank, -⟩ := segments_lossless hs
  exact ⟨hs, hslice, hblank⟩

end MarkupQuery.Selector
