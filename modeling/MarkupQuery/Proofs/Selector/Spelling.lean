import MarkupQuery.Proofs.Selector.RoundTrip

namespace MarkupQuery.Selector

open Text

def Gaps (s : String) : Prop := ∀ c ∈ s.toList, isGap c = true

/-- What may stand between the commas of a call: its arguments in their order, with gaps around
them, and gaps alone anywhere. -/
inductive Spread : List String → List Argument → Prop
  | nil : Spread [] []
  | blank {part : String} {parts : List String} {arguments : List Argument} :
      Gaps part → Spread parts arguments → Spread (part :: parts) arguments
  | argument {before after : String} (a : Argument) {parts : List String}
      {arguments : List Argument} : Gaps before → Gaps after → Spread parts arguments →
        Spread ((before ++ a.text ++ after) :: parts) (a :: arguments)

inductive Spelling : String → Call → Prop
  | bare (name : String) : Spelling (":" ++ name) ⟨name, []⟩
  | applied (name : String) {parts : List String} {arguments : List Argument} : parts ≠ [] →
      Spread parts arguments →
        Spelling (":" ++ name ++ "(" ++ ",".intercalate parts ++ ")") ⟨name, arguments⟩

variable {s before after text : String} {cs : List Char} {parts : List String} {a : Argument}
  {arguments : List Argument} {c : Call}

lemma Gaps.blank (h : Gaps s) : Blank s.toList := fun c hc => isBlank_of_isGap (h c hc)

lemma Gaps.notMem {d : Char} (h : Gaps s) (hd : isGap d = false) : d ∉ s.toList := by
  intro hm
  cases hd.symm.trans (h d hm)

lemma trim_padded (hb : Gaps before) (ha : Gaps after) (hcs : trim cs = cs) :
    trim (before.toList ++ cs ++ after.toList) = cs := by
  rw [trim_append_blank ha.blank, trim_blank_append hb.blank, hcs]

lemma isPart_padded (hb : Gaps before) (ha : Gaps after) (hcs : IsPart cs) (ht : trim cs = cs) :
    IsPart (before.toList ++ cs ++ after.toList) := by
  have hnot {d : Char} (hd : isGap d = false) (hm : d ∉ cs) :
      d ∉ before.toList ++ cs ++ after.toList := by
    simp [hb.notMem hd, ha.notMem hd, hm]
  refine ⟨hnot (by decide) hcs.comma, hnot (by decide) hcs.opening,
    hnot (by decide) hcs.closing, ?_⟩
  rw [trim_padded hb ha ht, ← ht]
  exact hcs.readable

lemma isPart_nil : IsPart [] := by
  refine ⟨List.not_mem_nil, List.not_mem_nil, List.not_mem_nil, ?_⟩
  rw [trim_of_blank blank_nil]
  exact ⟨List.forall_mem_nil _, by simp⟩

lemma Gaps.isPart (h : Gaps s) : IsPart s.toList := by
  have hnone : Gaps "" := List.forall_mem_nil _
  simpa using isPart_padded h hnone isPart_nil (trim_of_blank blank_nil)

namespace Spread

lemma isPart (h : Spread parts arguments) (hargs : ∀ a ∈ arguments, a.Canonical) :
    ∀ part ∈ parts, IsPart part.toList := by
  induction h with
  | nil => exact List.forall_mem_nil _
  | blank hpart _ ih => exact List.forall_mem_cons.mpr ⟨hpart.isPart, ih hargs⟩
  | argument a hb ha _ ih =>
    obtain ⟨hcanon, hrest⟩ := List.forall_mem_cons.mp hargs
    have hspells := spells_text hcanon
    refine List.forall_mem_cons.mpr ⟨?_, ih hrest⟩
    rw [String.toList_append, String.toList_append]
    exact isPart_padded hb ha hspells.isPart hspells.trimmed

lemma argumentsOf (h : Spread parts arguments) (hargs : ∀ a ∈ arguments, a.Canonical) :
    argumentsOf (parts.map String.toList) = arguments := by
  induction h with
  | nil => rfl
  | blank hpart _ ih =>
    rw [List.map_cons, argumentsOf_cons, if_pos (trim_of_blank hpart.blank), ih hargs]
  | argument a hb ha _ ih =>
    obtain ⟨hcanon, hrest⟩ := List.forall_mem_cons.mp hargs
    obtain ⟨-, htrim, hne, hread⟩ := spells_text hcanon
    rw [List.map_cons, argumentsOf_cons, String.toList_append, String.toList_append,
      trim_padded hb ha htrim, if_neg hne, hread, ih hrest]

end Spread

lemma Spelling.item (h : Spelling text c) (hc : c.Canonical) : Item ⟨text.toList, some c⟩ [] := by
  obtain ⟨hname, hargs⟩ := hc
  cases h with
  | bare name =>
    have hitem : Item ⟨':' :: name.toList, some ⟨String.ofList name.toList, []⟩⟩ [] :=
      .bareCall hname (by simp)
    simpa using hitem
  | @applied name parts arguments hne hparts =>
    have hitem := Item.call [] hname (mt List.map_eq_nil_iff.mp hne)
      (List.forall_mem_map.mpr (hparts.isPart hargs))
    rw [hparts.argumentsOf hargs, String.ofList_toList] at hitem
    simpa using hitem

lemma segments_of_item (h : Item ⟨text.toList, some c⟩ []) :
    segments text = .ok [.pseudo text 0 c] := by
  have hblank : ¬ Blank text.toList := fun hb => absurd (hb ':' h.colon_mem) (by decide)
  have hsplit := Split.cons h .nil
  rw [List.append_nil] at hsplit
  refine segments_eq_ok_iff.mpr ⟨hblank, _, hsplit, ?_⟩
  simp [gather, plainSegment, trim_of_blank blank_nil]

lemma singleCall_eq_ok_iff :
    singleCall text = .ok c ↔ ∃ s position, segments text = .ok [.pseudo s position c] := by
  constructor
  · intro h
    rw [singleCall] at h
    split at h
    · cases h
    · next s position call hsegments =>
      obtain rfl := Except.ok.inj h
      exact ⟨s, position, hsegments⟩
    · cases h
  · rintro ⟨s, position, hsegments⟩
    rw [singleCall, hsegments]

lemma canonical_of_singleCall (h : singleCall text = .ok c) : c.Canonical := by
  obtain ⟨s, position, hsegments⟩ := singleCall_eq_ok_iff.mp h
  obtain ⟨ls, hl, hparts, -⟩ := exists_parts_of_segments hsegments
  obtain ⟨hcanon, -⟩ := canonical_partsOf [] hl fun ds hd => hd
  exact hcanon (.call c) (hparts ▸ List.mem_singleton_self _)

lemma spread_texts (arguments : List Argument) :
    Spread (arguments.map Argument.text) arguments := by
  have hnone : Gaps "" := List.forall_mem_nil _
  induction arguments with
  | nil => exact .nil
  | cons a arguments ih => simpa using Spread.argument a hnone hnone ih

lemma spelling_text (c : Call) : Spelling c.text c := by
  obtain ⟨name, arguments⟩ := c
  cases arguments with
  | nil => exact .bare name
  | cons a arguments => exact .applied name (by simp) (spread_texts (a :: arguments))

/-- The calls that texts spell are the canonical ones, and each is read from all its spellings, one
of which is its shortest text. -/
theorem singleCall_canonical (c : Call) :
    (c.Canonical ↔ ∃ text, singleCall text = .ok c) ∧
      (c.Canonical → Spelling c.text c ∧ ∀ text, Spelling text c → singleCall text = .ok c) := by
  have hread (hc : c.Canonical) (text : String) (h : Spelling text c) :
      singleCall text = .ok c :=
    singleCall_eq_ok_iff.mpr ⟨text, 0, segments_of_item (h.item hc)⟩
  refine ⟨⟨fun hc => ⟨c.text, hread hc c.text (spelling_text c)⟩, ?_⟩,
    fun hc => ⟨spelling_text c, hread hc⟩⟩
  rintro ⟨text, h⟩
  exact canonical_of_singleCall h

theorem singleCall_canonical_signs :
    let c : Call := ⟨"a\\\u00a0)[", [.number 12, .word "a\u000bb", .number 0]⟩
    let text := ":a\\\u00a0)[( , 12 ,\ta\u000bb\x0c,,0)"
    c.Canonical ∧ Spelling text c ∧ singleCall text = .ok c := by
  intro c text
  have hword : (Argument.word "a\u000bb").Canonical :=
    ⟨by decide, by decide, ⟨'a', by decide, by decide⟩, by simp [isGap]⟩
  have hc : c.Canonical := by
    refine ⟨⟨by decide, by simp [c, isNameChar, isGap]⟩, ?_⟩
    simp only [c, List.forall_mem_cons]
    refine ⟨?_, hword, ?_, List.forall_mem_nil _⟩ <;> unfold Argument.Canonical <;> decide
  have hgaps : ∀ s ∈ ["", " ", "\t", "\x0c"], Gaps s := by simp [Gaps, isGap]
  simp only [List.forall_mem_cons] at hgaps
  obtain ⟨hnone, hspace, htab, hfeed, -⟩ := hgaps
  have hspread : Spread [" ", " 12 ", "\ta\u000bb\x0c", "", "0"] c.arguments :=
    .blank hspace (.argument (.number 12) hspace hspace (.argument (.word "a\u000bb") htab hfeed
      (.blank hnone (.argument (.number 0) hnone hnone .nil))))
  have hspelling : Spelling text c := .applied c.name (by simp) hspread
  exact ⟨hc, hspelling, ((singleCall_canonical c).2 hc).2 text hspelling⟩

end MarkupQuery.Selector
