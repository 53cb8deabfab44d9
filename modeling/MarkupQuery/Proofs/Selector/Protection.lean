import MarkupQuery.Proofs.Selector.Layout
import MarkupQuery.Proofs.Text.Escape

/-! The escapes of a selector in its plain segments. Lexemes keep a backslash and what it protects
together, but trimming does not know of escapes, so a protected blank can be cut off. -/

namespace MarkupQuery.Selector

open Text

-- A plain segment shows the escapes of the text as they stand there, and if it ends within an
-- escape, a blank comes next in the text.
def Segment.Keeps (s : List Char) : Segment → Prop
  | plain text p =>
    (∀ i ≤ text.length, protects (s.take (p + i)) = protects (text.toList.take i)) ∧
      (protects text.toList = true → ∃ b, s[p + text.length]? = some b ∧ isBlank b = true)
  | pseudo .. => True

variable {before plain text rest cs : List Char} {ls : List Lexeme} {c : Char} {call : Call}
  {s : String} {ss : List Segment}

lemma Item.protects_eq_false (h : Item ⟨text, none⟩ rest) (ht : text ≠ ['\\']) :
    protects text = false := by
  cases h with
  | escape c => simp [protects]
  | ending => exact absurd rfl ht
  | @quoted q body _ hq hb =>
    refine protects_of_getLast? (c := q) ?_ (quote_ne_backslash hq)
    rw [List.getLast?_cons, hb.getLast?]
    rfl
  | block _ hb =>
    refine protects_of_getLast? (c := ']') ?_ (by decide)
    rw [List.getLast?_cons, hb.getLast?]
    rfl
  | @char c _ hc => exact protects_of_getLast? rfl hc

lemma Item.head_ne_colon (h : Item ⟨c :: text, none⟩ rest) : c ≠ ':' := by
  rintro rfl
  cases h with
  | quoted _ hq => exact absurd hq (by decide)
  | char _ _ _ _ hcolon => exact hcolon rfl

lemma Item.protects_append (h : Item ⟨text, none⟩ rest) (ht : text ≠ ['\\'])
    (hgap : protects before = true → ∀ c ∈ text.head?, isGap c = true) :
    protects (before ++ text) = false := by
  cases hbefore : protects before with
  | false =>
    rw [Text.protects_append hbefore]
    exact h.protects_eq_false ht
  | true =>
    have hgap := hgap hbefore
    cases h with
    | escape | ending | block => exact absurd (hgap _ rfl) (by decide)
    | @quoted q _ _ hq =>
      have hblank := isGap_eq_false_of_isBlank (not_isBlank_of_isQuote hq)
      cases (hgap q rfl).symm.trans hblank
    | char => simp [protects_concat, hbefore]

lemma Item.next_of_protects (h : Item ⟨text, some call⟩ rest)
    (hend : protects (before ++ text) = true) : ∀ c ∈ rest.head?, isGap c = true ∨ c = ':' := by
  intro c hc
  cases h with
  | bareCall _ hr =>
    obtain ⟨hname, hopen⟩ := hr c hc
    exact (isNameChar_eq_false_iff.mp hname).imp_right fun h => h.resolve_left hopen
  | @call name parts =>
    have htext : before ++ ':' :: (name ++ '(' :: ([','].intercalate parts ++ [')'])) =
        before ++ ':' :: (name ++ '(' :: [','].intercalate parts) ++ [')'] := by simp
    rw [htext, protects_concat] at hend
    simp at hend

lemma protects_append_blank (hbefore : cs = [] → protects before = false) (hcs : Blank cs) :
    protects (before ++ cs) = false := by
  rcases List.eq_nil_or_concat' cs with rfl | ⟨init, b, rfl⟩
  · rw [List.append_nil]
    exact hbefore rfl
  · have hb : isBlank b = true := hcs b (by simp)
    refine protects_of_getLast? (c := b) (by simp) ?_
    rintro rfl
    exact absurd hb (by decide)

lemma keeps_plainSegment (hstart : protects before = true → ∀ c ∈ plain.head?, isGap c = true)
    (hend : protects (before ++ plain) = true → plain = []) (after : List Char) :
    ∀ x ∈ plainSegment before.length plain, x.Keeps (before ++ (plain ++ after)) := by
  obtain ⟨-, hnil⟩ | ⟨lead, text, tail, rfl, hlead, htail, hne, htrim, hx⟩ :=
    blank_or_plainSegment_eq before.length plain
  · simp [hnil]
  rw [hx]
  refine List.forall_mem_singleton.mpr ?_
  have hcut : protects (before ++ lead) = false := by
    refine protects_append_blank (fun hnil => ?_) hlead
    subst hnil
    by_contra hbefore
    obtain ⟨c, text, rfl⟩ := List.exists_cons_of_ne_nil hne
    have hgap := isGap_eq_false_of_isBlank (not_isBlank_of_trim_cons htrim)
    cases (hstart (by simpa using hbefore) c rfl).symm.trans hgap
  have hassoc : before ++ (lead ++ (text ++ tail) ++ after) =
      (before ++ lead) ++ (text ++ (tail ++ after)) := by simp
  rw [hassoc, Segment.Keeps, ← List.length_append, String.length_ofList, String.toList_ofList]
  refine ⟨fun i hi => ?_, fun hp => ?_⟩
  · rw [List.take_length_add_append, List.take_append_of_le_length hi, Text.protects_append hcut]
  · cases tail with
    | nil =>
      have hopen : protects (before ++ (lead ++ (text ++ []))) = true := by
        rw [List.append_nil, ← List.append_assoc, Text.protects_append hcut, hp]
      simpa [hne] using hend hopen
    | cons b tail =>
      refine ⟨b, ?_, htail b List.mem_cons_self⟩
      rw [← List.append_assoc, ← List.length_append, List.getElem?_append_right le_rfl]
      simp

lemma keeps_gather (h : Split cs ls) (hend : protects (before ++ (plain ++ cs)) = false)
    (hstart : protects before = true → ∀ c ∈ plain.head?, isGap c = true)
    (hopen : protects (before ++ plain) = true →
      plain = [] ∧ ∀ c ∈ cs.head?, isGap c = true ∨ c = ':') :
    ∀ x ∈ gather before.length plain ls, x.Keeps (before ++ (plain ++ cs)) := by
  -- An escape is open at most where a call has just ended, so that `plain` is still empty.
  induction h generalizing before plain with
  | nil => exact keeps_plainSegment hstart (fun hp => (hopen hp).1) []
  | @cons l rest ls hi hs ih =>
    obtain ⟨text, call?⟩ := l
    cases call? with
    | none =>
      have hgap : protects (before ++ plain) = true → ∀ c ∈ text.head?, isGap c = true := by
        intro hp c hc
        obtain ⟨text, rfl⟩ := List.head?_eq_some_iff.mp hc
        exact ((hopen hp).2 c rfl).resolve_right hi.head_ne_colon
      have hlast : text ≠ ['\\'] := by
        rintro rfl
        obtain rfl := hi.eq_nil_of_ending
        rw [List.append_nil, ← List.append_assoc, protects_concat] at hend
        exact absurd (hgap (by simpa using hend) _ rfl) (by decide)
      have hpart : protects (before ++ (plain ++ text)) = false := by
        rw [← List.append_assoc]
        exact hi.protects_append hlast hgap
      have htext : plain ++ (text ++ rest) = plain ++ text ++ rest := by simp
      rw [gather]
      simp only [htext] at hend ⊢
      refine ih hend (fun hp => ?_) fun hp => ?_
      · cases plain with
        | nil => exact hgap (by simpa using hp)
        | cons c plain => exact hstart hp
      · rw [hpart] at hp
        cases hp
    | some call =>
      have htext : before ++ (plain ++ (text ++ rest)) = before ++ plain ++ text ++ ([] ++ rest) :=
        by simp
      have hrest := ih (htext ▸ hend) (by simp) fun hp =>
        ⟨rfl, hi.next_of_protects (by rwa [List.append_nil] at hp)⟩
      rw [gather]
      refine List.forall_mem_append.mpr ⟨keeps_plainSegment hstart (fun hp => (hopen hp).1) _, ?_⟩
      refine List.forall_mem_cons.mpr ⟨trivial, ?_⟩
      rwa [htext, ← List.length_append, ← List.length_append]

/-- A selector that ends in no open escape is cut into segments with the escapes it has. A segment
that yet ends within an escape has lost a blank, which the backslash protected, by trimming. -/
theorem segments_keep_escapes {s : String} {ss : List Segment} (h : segments s = .ok ss)
    (hs : protects s.toList = false) : ∀ x ∈ ss, x.Keeps s.toList := by
  obtain ⟨-, ls, hl, rfl⟩ := segments_eq_ok_iff.mp h
  have hstart : protects [] = true → ∀ c ∈ ([] : List Char).head?, isGap c = true := nofun
  exact keeps_gather hl hs hstart nofun

theorem segments_keep_escapes_blank :
    let s := "#a\\:b\\ :first p\\\\"
    let ss : List Segment :=
      [.plain "#a\\:b\\" 0, .pseudo ":first" 7 ⟨"first", []⟩, .plain "p\\\\" 14]
    segments s = .ok ss ∧ protects s.toList = false ∧ ∀ x ∈ ss, x.Keeps s.toList := by
  intro s ss
  have h : segments s = .ok ss := by decide +kernel
  have hs : protects s.toList = false := by decide +kernel
  exact ⟨h, hs, segments_keep_escapes h hs⟩

theorem not_plain_ends_paired : ¬ ∀ (s : String) (ss : List Segment), segments s = .ok ss →
    protects s.toList = false → ∀ text p, Segment.plain text p ∈ ss →
      protects text.toList = false := by
  intro h
  have hs : segments "a\\ " = .ok [.plain "a\\" 0] := by decide +kernel
  exact absurd (h _ _ hs (by decide) "a\\" 0 (by simp)) (by decide)

end MarkupQuery.Selector
