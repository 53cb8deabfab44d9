import Mathlib.Data.List.Chain
import MarkupQuery.Proofs.Selector.Parts
import MarkupQuery.Proofs.Text.Digit

namespace MarkupQuery.Selector

open Text

def Argument.text : Argument → String
  | number n => toString n
  | word s => s

def Call.text (c : Call) : String :=
  if c.arguments.isEmpty then ":" ++ c.name
  else ":" ++ c.name ++ "(" ++ ",".intercalate (c.arguments.map Argument.text) ++ ")"

def Part.text : Part → String
  | css text => text
  | call c => c.text

def render (ss : List Segment) : String := " ".intercalate (ss.map fun s => s.part.text)

def Argument.Canonical : Argument → Prop
  | number n => (Nat.toDigits 10 n).length ≤ digitLimit
  | word s => s ≠ "" ∧ trim s.toList = s.toList ∧ (∃ c ∈ s.toList, isAsciiDigit c = false) ∧
      ∀ c ∈ s.toList, c ≠ ',' ∧ c ≠ '(' ∧ c ≠ ')' ∧ isGap c = false

structure Call.Canonical (c : Call) : Prop where
  name : IsName c.name.toList
  arguments : ∀ a ∈ c.arguments, a.Canonical

def Plain (cs : List Char) : Prop := ∃ ls, Split cs ls ∧ ∀ l ∈ ls, l.call? = none

def Part.Canonical : Part → Prop
  | css text => Plain text.toList ∧ trim text.toList = text.toList ∧ text ≠ ""
  | call c => c.Canonical

def Part.isCall : Part → Bool
  | css _ => false
  | call _ => true

variable {cs ds rest plain part : List Char} {ls : List Lexeme} {a : Argument} {c : Call}

lemma canonical_argumentOf (h : IsPart part) (hne : trim part ≠ []) :
    (argumentOf (trim part)).Canonical := by
  have he : (trim part).isEmpty = false := List.isEmpty_eq_false_iff.mpr hne
  rw [argumentOf, he, Bool.not_false, Bool.true_and]
  split
  · next hd =>
    have hall : ∀ c ∈ trim part, isAsciiDigit c = true := by simpa using hd
    have hle := length_toDigits_ofDigits hne hall
    have hlimit : ¬ digitLimit < (trim part).length := fun hlt => h.readable.2 ⟨hlt, hall⟩
    exact hle.trans (by omega)
  · next hd =>
    have hdigit : ∃ c ∈ trim part, isAsciiDigit c = false := by simpa using hd
    refine ⟨by simpa using hne, by simp [trim_trim], by simpa using hdigit, fun c hc => ?_⟩
    have hc' : c ∈ trim part := by simpa using hc
    have hm := mem_of_mem_trim hc'
    exact ⟨ne_of_mem_of_not_mem hm h.comma, ne_of_mem_of_not_mem hm h.opening,
      ne_of_mem_of_not_mem hm h.closing, h.readable.1 c hc'⟩

lemma canonical_of_item {text : List Char} (h : Item ⟨text, some c⟩ rest) : c.Canonical := by
  cases h with
  | bareCall hn => exact ⟨by simpa using hn, by simp⟩
  | @call name parts _ hn hne hp =>
    refine ⟨by simpa using hn, fun a ha => ?_⟩
    obtain ⟨token, ht, rfl⟩ := List.mem_map.mp ha
    obtain ⟨hm, he⟩ := List.mem_filter.mp ht
    obtain ⟨part, hpart, rfl⟩ := List.mem_map.mp hm
    exact canonical_argumentOf (hp part hpart) (by simpa using he)

structure Spells (token : List Char) (a : Argument) : Prop where
  isPart : IsPart token
  trimmed : trim token = token
  ne_nil : token ≠ []
  read : argumentOf token = a

lemma spells_number {n : Nat} (h : (Nat.toDigits 10 n).length ≤ digitLimit) :
    Spells (Nat.toDigits 10 n) (.number n) := by
  have hdigit : ∀ c ∈ Nat.toDigits 10 n, isAsciiDigit c = true :=
    fun c hc => isAsciiDigit_of_mem_toDigits hc
  have htrim : trim (Nat.toDigits 10 n) = Nat.toDigits 10 n :=
    trim_of_not_blank fun c hc => not_isBlank_of_digit (hdigit c hc)
  refine ⟨⟨?_, ?_, ?_, ?_⟩, htrim, Nat.toDigits_ne_nil, ?_⟩
  · exact fun hc => absurd (hdigit _ hc) (by decide)
  · exact fun hc => absurd (hdigit _ hc) (by decide)
  · exact fun hc => absurd (hdigit _ hc) (by decide)
  · rw [htrim]
    refine ⟨fun c hc => isGap_eq_false_of_isBlank (not_isBlank_of_digit (hdigit c hc)), ?_⟩
    rintro ⟨hlt, -⟩
    omega
  · have he : (Nat.toDigits 10 n).isEmpty = false :=
      List.isEmpty_eq_false_iff.mpr Nat.toDigits_ne_nil
    have hall : (Nat.toDigits 10 n).all isAsciiDigit = true := by simpa using hdigit
    rw [argumentOf, he, hall, ofDigits_toDigits]
    rfl

lemma spells_word {s : String} (h : (Argument.word s).Canonical) : Spells s.toList (.word s) := by
  obtain ⟨hne, htrim, ⟨d, hd, hdigit⟩, hchars⟩ := h
  refine ⟨⟨?_, ?_, ?_, ?_⟩, htrim, by simpa using hne, ?_⟩
  · exact fun hc => (hchars _ hc).1 rfl
  · exact fun hc => (hchars _ hc).2.1 rfl
  · exact fun hc => (hchars _ hc).2.2.1 rfl
  · rw [htrim]
    refine ⟨fun c hc => (hchars c hc).2.2.2, ?_⟩
    rintro ⟨-, hall⟩
    simp [hall d hd] at hdigit
  · have hall : s.toList.all isAsciiDigit = false := by simpa using ⟨d, hd, hdigit⟩
    simp [argumentOf, hall]

lemma spells_text (h : a.Canonical) : Spells a.text.toList a := by
  cases a with
  | number n =>
    have htext : (Argument.number n).text.toList = Nat.toDigits 10 n := by simp [Argument.text]
    rw [htext]
    exact spells_number h
  | word s => exact spells_word h

lemma argumentsOf_texts {arguments : List Argument} (h : ∀ a ∈ arguments, a.Canonical) :
    argumentsOf (arguments.map fun a => a.text.toList) = arguments := by
  induction arguments with
  | nil => rfl
  | cons a arguments ih =>
    obtain ⟨-, htrim, hne, hread⟩ := spells_text (h a List.mem_cons_self)
    have hrest := ih fun b hb => h b (List.mem_cons_of_mem a hb)
    rw [List.map_cons, argumentsOf_cons, htrim, if_neg hne, hread, hrest]

lemma item_text (h : c.Canonical) (hr : ∀ d ∈ rest.head?, d = ' ') :
    Item ⟨c.text.toList, some c⟩ rest := by
  obtain ⟨name, arguments⟩ := c
  obtain ⟨hname, hargs⟩ := h
  cases arguments with
  | nil =>
    have hitem : Item ⟨':' :: name.toList, some ⟨String.ofList name.toList, []⟩⟩ rest :=
      .bareCall hname fun d hd => by
        obtain rfl := hr d hd
        decide
    simpa [Call.text] using hitem
  | cons a arguments =>
    have hparts : ∀ part ∈ (a :: arguments).map fun a => a.text.toList, IsPart part := by
      intro part hp
      obtain ⟨b, hb, rfl⟩ := List.mem_map.mp hp
      exact (spells_text (hargs b hb)).isPart
    have hitem := Item.call rest hname (by simp) hparts
    rw [argumentsOf_texts hargs, String.ofList_toList] at hitem
    simpa [Call.text, Function.comp_def] using hitem

lemma plain_nil : Plain [] := ⟨[], .nil, by simp⟩

lemma Plain.cons_item {text : List Char} (hi : Item ⟨text, none⟩ rest) (hl : text ≠ ['\\'])
    (h : Plain cs) : Plain (text ++ cs) := by
  obtain ⟨ls, hs, hn⟩ := h
  exact ⟨_, .cons (hi.before_any hl cs) hs, by simpa using hn⟩

lemma plain_of_blank_cons {b : Char} (hb : isBlank b = true) (h : Plain (b :: cs)) : Plain cs := by
  obtain ⟨ls, hs, hn⟩ := h
  generalize hds : b :: cs = ds at hs
  cases hs with
  | nil => cases hds
  | @cons l rest ls hi hs =>
    cases hi with
    | escape | ending | block | bareCall | call =>
      obtain ⟨rfl, -⟩ := List.cons.inj hds
      exact absurd hb (by decide)
    | quoted _ hq =>
      obtain ⟨rfl, -⟩ := List.cons.inj hds
      exact absurd hb (by simp [not_isBlank_of_isQuote hq])
    | char =>
      obtain ⟨rfl, rfl⟩ := List.cons.inj hds
      exact ⟨ls, hs, fun l hl => hn l (List.mem_cons_of_mem _ hl)⟩

lemma QuotedRest.getLast? {q : Char} {body : List Char} (h : QuotedRest q body) :
    body.getLast? = some q := by
  induction h with
  | close => rfl
  | escape c _ ih => simp [List.getLast?_cons, ih]
  | char _ _ _ ih => simp [List.getLast?_cons, ih]

lemma BlockRest.getLast? {body : List Char} (h : BlockRest body) : body.getLast? = some ']' := by
  induction h with
  | close => rfl
  | escape c _ ih => simp [List.getLast?_cons, ih]
  | quoted _ _ _ ih => simp [List.getLast?_cons, List.getLast?_append, ih]
  | char _ _ _ _ ih => simp [List.getLast?_cons, ih]

lemma Item.eq_of_getLast_blank {l : Lexeme} {b : Char} (h : Item l rest) (hn : l.call? = none)
    (hl : l.text.getLast? = some b) (hb : isBlank b = true) :
    l.text = [b] ∨ l.text = ['\\', b] := by
  cases h with
  | escape c =>
    obtain rfl : c = b := by simpa using hl
    exact .inr rfl
  | ending =>
    obtain rfl : '\\' = b := by simpa using hl
    exact absurd hb (by decide)
  | @quoted q _ _ hq hbody =>
    obtain rfl : q = b := by simpa [List.getLast?_cons, hbody.getLast?] using hl
    simp [not_isBlank_of_isQuote hq] at hb
  | block _ hbody =>
    obtain rfl : ']' = b := by simpa [List.getLast?_cons, hbody.getLast?] using hl
    exact absurd hb (by decide)
  | @char c =>
    obtain rfl : c = b := by simpa using hl
    exact .inl rfl
  | bareCall => cases hn
  | call => cases hn

lemma plain_of_concat_blank {b : Char} (hb : isBlank b = true) (h : Plain (cs ++ [b])) :
    Plain cs := by
  obtain ⟨ls, hs, hn⟩ := h
  generalize hds : cs ++ [b] = ds at hs
  induction hs generalizing cs with
  | nil => simp at hds
  | @cons l rest ls hi hs ih =>
    have hnone : l.call? = none := hn l List.mem_cons_self
    rcases List.eq_nil_or_concat' rest with rfl | ⟨rest', d, rfl⟩
    · rw [List.append_nil] at hds
      have hlast : l.text.getLast? = some b := by simp [← hds]
      rcases hi.eq_of_getLast_blank hnone hlast hb with ht | ht
      · obtain rfl : cs = [] := by simpa [ht] using hds
        exact plain_nil
      · obtain rfl : cs = ['\\'] := by
          rw [ht] at hds
          exact (List.append_inj' hds rfl).1
        exact ⟨[⟨['\\'], none⟩], .cons .ending .nil, by simp⟩
    · rw [← List.append_assoc] at hds
      obtain ⟨rfl, hd⟩ := List.append_inj' hds rfl
      have hrest := ih (fun m hm => hn m (List.mem_cons_of_mem l hm)) (by rw [hd])
      obtain ⟨text, call?⟩ := l
      obtain rfl := hnone
      refine hrest.cons_item hi fun ht => ?_
      subst ht
      exact absurd hi.eq_nil_of_ending (by simp)

lemma plain_of_blank_append (hb : Blank ds) (h : Plain (ds ++ cs)) : Plain cs := by
  induction ds with
  | nil => exact h
  | cons d ds ih =>
    have hds : Blank ds := fun c hc => hb c (List.mem_cons_of_mem d hc)
    exact ih hds (plain_of_blank_cons (hb d List.mem_cons_self) h)

lemma plain_of_append_blank (hb : Blank ds) (h : Plain (cs ++ ds)) : Plain cs := by
  induction ds using List.reverseRecOn with
  | nil => rwa [List.append_nil] at h
  | append_singleton ds d ih =>
    rw [← List.append_assoc] at h
    exact ih (blank_append.mp hb).1 (plain_of_concat_blank (hb d (by simp)) h)

lemma Plain.trim (h : Plain cs) : Plain (trim cs) := by
  obtain ⟨before, after, hcs, hb, ha⟩ := exists_blank_trim cs
  rw [hcs] at h
  exact plain_of_blank_append hb (plain_of_append_blank ha (List.append_assoc .. ▸ h))

def Alternating (ps : List Part) : Prop := ps.IsChain fun p q => p.isCall ∨ q.isCall

lemma canonical_cssParts (h : Plain plain) : ∀ p ∈ cssParts plain, p.Canonical := by
  intro p hm
  rcases blank_or_cssParts_eq plain with hb | hc
  · rw [cssParts_eq_nil_iff.mpr hb] at hm
    cases hm
  · have hne : trim plain ≠ [] := fun he => by
      rw [cssParts_eq_nil_iff.mpr (trim_eq_nil_iff.mp he)] at hc
      cases hc
    obtain rfl := List.mem_singleton.mp (hc ▸ hm)
    exact ⟨by simpa using h.trim, by simp [trim_trim], by simpa using hne⟩

lemma alternating_cssParts (plain : List Char) : Alternating (cssParts plain) := by
  rcases blank_or_cssParts_eq plain with hb | hc
  · rw [cssParts_eq_nil_iff.mpr hb]
    exact .nil
  · rw [hc]
    exact .singleton _

lemma alternating_append_call {ps : List Part} (c : Call) (h : Alternating ps) :
    Alternating (cssParts plain ++ .call c :: ps) := by
  have hcall : Alternating (.call c :: ps) := List.isChain_cons.mpr ⟨fun _ _ => .inl rfl, h⟩
  rcases blank_or_cssParts_eq plain with hb | hc
  · rwa [cssParts_eq_nil_iff.mpr hb]
  · rw [hc]
    exact List.isChain_cons_cons.mpr ⟨.inr rfl, hcall⟩

lemma canonical_partsOf (plain : List Char) (h : Split cs ls)
    (hp : ∀ ds, Plain ds → Plain (plain ++ ds)) :
    (∀ p ∈ partsOf plain ls, p.Canonical) ∧ Alternating (partsOf plain ls) := by
  induction h generalizing plain with
  | nil =>
    have hplain : Plain plain := by simpa using hp [] plain_nil
    exact ⟨canonical_cssParts hplain, alternating_cssParts plain⟩
  | @cons l rest ls hi hs ih =>
    obtain ⟨text, call?⟩ := l
    cases call? with
    | none =>
      by_cases ht : text = ['\\']
      · subst ht
        obtain rfl := hi.eq_nil_of_ending
        obtain rfl := hs.unique .nil
        have hplain := hp ['\\'] ⟨[⟨['\\'], none⟩], .cons .ending .nil, by simp⟩
        exact ⟨canonical_cssParts hplain, alternating_cssParts _⟩
      · refine ih _ fun ds hd => ?_
        rw [List.append_assoc]
        exact hp _ (hd.cons_item hi ht)
    | some c =>
      have hplain : Plain plain := by simpa using hp [] plain_nil
      obtain ⟨hcanon, halt⟩ := ih [] fun ds hd => hd
      refine ⟨fun p hm => ?_, alternating_append_call c halt⟩
      rcases List.mem_append.mp hm with hm | hm
      · exact canonical_cssParts hplain p hm
      rcases List.mem_cons.mp hm with rfl | hm
      · exact canonical_of_item hi
      · exact hcanon p hm

lemma partsOf_of_plain (h : Split cs ls) (hn : ∀ l ∈ ls, l.call? = none) :
    partsOf plain ls = cssParts (plain ++ cs) := by
  induction h generalizing plain with
  | nil => rw [partsOf, List.append_nil]
  | @cons l rest ls _ _ ih =>
    obtain ⟨text, call?⟩ := l
    obtain rfl : call? = none := hn _ List.mem_cons_self
    rw [partsOf, ih fun m hm => hn m (List.mem_cons_of_mem _ hm), List.append_assoc]

lemma exists_split_text {p : Part} (h : p.Canonical) :
    ∃ ls, Split p.text.toList ls ∧ partsOf [] ls = [p] ∧ (p.isCall → residue [] ls = []) := by
  cases p with
  | css text =>
    obtain ⟨⟨ls, hs, hn⟩, ht, hne⟩ := h
    refine ⟨ls, hs, ?_, by simp [Part.isCall]⟩
    rw [partsOf_of_plain hs hn, List.nil_append, cssParts, ht]
    simp [hne]
  | call c =>
    have hitem : Item ⟨c.text.toList, some c⟩ [] := item_text h (by simp)
    have hsplit := Split.cons hitem .nil
    rw [List.append_nil] at hsplit
    exact ⟨_, hsplit, rfl, fun _ => rfl⟩

lemma exists_split_texts {p : Part} {ps : List Part} (h : ∀ q ∈ p :: ps, q.Canonical)
    (ha : Alternating (p :: ps)) :
    ∃ ls, Split (" ".intercalate ((p :: ps).map Part.text)).toList ls ∧
      partsOf [] ls = p :: ps := by
  induction ps generalizing p with
  | nil =>
    obtain ⟨ls, hs, hparts, -⟩ := exists_split_text (h p List.mem_cons_self)
    exact ⟨ls, by simpa using hs, hparts⟩
  | cons q ps ih =>
    obtain ⟨hpq, hrest⟩ := List.isChain_cons_cons.mp ha
    obtain ⟨ls, hs, hls, hres⟩ := exists_split_text (h p List.mem_cons_self)
    obtain ⟨ms, ht, hms⟩ := ih (fun r hr => h r (List.mem_cons_of_mem p hr)) hrest
    have hseam : Blank (residue [] ls) ∨ Blank (lead ms) := by
      rcases hpq with hp | hq
      · rw [hres hp]
        exact .inl blank_nil
      · refine .inr (@blank_lead [] ms fun t ht => ?_)
        rw [hms] at ht
        obtain rfl : q = .css t := by simpa using ht
        cases hq
    refine ⟨spaced ls ++ ms, ?_, by rw [partsOf_spaced_append hseam, hls, hms]; rfl⟩
    rw [List.map_cons, List.map_cons, String.intercalate_cons_cons]
    rw [List.map_cons] at ht
    simpa using hs.spaced_append ht

/-- Writing the segments of a selector and reading them again gives the same parts. -/
theorem segments_render {s : String} {ss : List Segment} (h : segments s = .ok ss) :
    ∃ ts, segments (render ss) = .ok ts ∧ ts.map Segment.part = ss.map Segment.part := by
  obtain ⟨ls, hl, hparts, hne⟩ := exists_parts_of_segments h
  obtain ⟨hcanon, halt⟩ := canonical_partsOf [] hl fun ds hd => hd
  rw [hparts] at hcanon halt
  obtain ⟨p, ps, hps⟩ := List.exists_cons_of_ne_nil (mt List.map_eq_nil_iff.mp hne)
  rw [hps] at hcanon halt
  obtain ⟨ms, hms, hread⟩ := exists_split_texts hcanon halt
  have htext : render ss = " ".intercalate ((p :: ps).map Part.text) := by
    rw [← hps, List.map_map]
    rfl
  have hts := exists_segments_of_parts hms (by simp [hread])
  rwa [hread, ← htext, ← hps] at hts

theorem segments_render_cell :
    let ss : List Segment := [.plain "td" 0,
      .pseudo ":eq( 07,, x)" 2 ⟨"eq", [.number 7, .word "x"]⟩, .pseudo ":not()" 14 ⟨"not", []⟩,
      .plain "b\\" 21]
    segments "td:eq( 07,, x):not() b\\" = .ok ss ∧ render ss = "td :eq(7,x) :not b\\" ∧
      ∃ ts, segments (render ss) = .ok ts ∧ ts.map Segment.part = ss.map Segment.part := by
  have h : segments "td:eq( 07,, x):not() b\\" = .ok [.plain "td" 0,
      .pseudo ":eq( 07,, x)" 2 ⟨"eq", [.number 7, .word "x"]⟩, .pseudo ":not()" 14 ⟨"not", []⟩,
      .plain "b\\" 21] := by decide +kernel
  exact ⟨h, by decide +kernel, segments_render h⟩

end MarkupQuery.Selector
