import MarkupQuery.Proofs.Selector.Grammar

namespace MarkupQuery.Selector

open Text

inductive Part
  | css (text : String)
  | call (c : Call)
  deriving DecidableEq

def Segment.part : Segment → Part
  | .plain text _ => .css text
  | .pseudo _ _ c => .call c

def cssParts (cs : List Char) : List Part :=
  if trim cs = [] then [] else [.css (String.ofList (trim cs))]

def partsOf (plain : List Char) : List Lexeme → List Part
  | [] => cssParts plain
  | ⟨text, none⟩ :: ls => partsOf (plain ++ text) ls
  | ⟨_, some c⟩ :: ls => cssParts plain ++ .call c :: partsOf [] ls

def lead : List Lexeme → List Char
  | [] => []
  | ⟨text, none⟩ :: ls => text ++ lead ls
  | ⟨_, some _⟩ :: _ => []

def residue (plain : List Char) : List Lexeme → List Char
  | [] => plain
  | ⟨text, none⟩ :: ls => residue (plain ++ text) ls
  | ⟨_, some _⟩ :: ls => residue [] ls

def spaced : List Lexeme → List Lexeme
  | [] => [⟨[' '], none⟩]
  | [⟨['\\'], none⟩] => [⟨['\\', ' '], none⟩]
  | l :: ls => l :: spaced ls

variable {cs ds rest plain : List Char} {ls ms : List Lexeme}

lemma map_part_plainSegment (position : Nat) (cs : List Char) :
    (plainSegment position cs).map Segment.part = cssParts cs := by
  rw [plainSegment, cssParts]
  split <;> simp_all [Segment.part]

lemma map_part_gather (position : Nat) (plain : List Char) (ls : List Lexeme) :
    (gather position plain ls).map Segment.part = partsOf plain ls := by
  fun_induction gather position plain ls with
  | case1 => exact map_part_plainSegment _ _
  | case2 position plain text ls ih => rw [partsOf, ih]
  | case3 position plain text c ls ih =>
    rw [partsOf, List.map_append, map_part_plainSegment, List.map_cons, ih]
    rfl

lemma cssParts_eq_nil_iff : cssParts cs = [] ↔ Blank cs := by
  rw [cssParts, ← trim_eq_nil_iff]
  split <;> simp_all

lemma blank_or_cssParts_eq (cs : List Char) :
    Blank cs ∨ cssParts cs = [.css (String.ofList (trim cs))] := by
  rw [← cssParts_eq_nil_iff, cssParts]
  split
  · exact .inl rfl
  · exact .inr rfl

lemma cssParts_append_space (h : Blank cs ∨ Blank ds) :
    cssParts (cs ++ ' ' :: ds) = cssParts cs ++ cssParts ds := by
  rcases h with h | h
  · have ht : trim (cs ++ ' ' :: ds) = trim ds := by
      rw [trim_blank_append h, ← List.singleton_append, trim_blank_append blank_space]
    rw [cssParts_eq_nil_iff.mpr h, cssParts, ht]
    rfl
  · have hb : Blank (' ' :: ds) := by
      rw [← List.singleton_append]
      exact blank_append.mpr ⟨blank_space, h⟩
    rw [cssParts_eq_nil_iff.mpr h, cssParts, trim_append_blank hb, List.append_nil]
    rfl

lemma partsOf_append_space (plain b : List Char) (h : Blank plain ∨ Blank (b ++ lead ms)) :
    partsOf (plain ++ ' ' :: b) ms = cssParts plain ++ partsOf b ms := by
  induction ms generalizing b with
  | nil => exact cssParts_append_space (by simpa [lead] using h)
  | cons m ms ih =>
    obtain ⟨text, call?⟩ := m
    cases call? with
    | none =>
      have hb := ih (b ++ text) (by simpa [lead] using h)
      simpa [partsOf] using hb
    | some c =>
      have hb : Blank plain ∨ Blank b := by simpa [lead] using h
      rw [partsOf, cssParts_append_space hb, partsOf, List.append_assoc]

lemma partsOf_spaced_append (h : Blank (residue plain ls) ∨ Blank (lead ms)) :
    partsOf plain (spaced ls ++ ms) = partsOf plain ls ++ partsOf [] ms := by
  fun_induction spaced ls generalizing plain with
  | case1 => exact partsOf_append_space _ [] h
  | case2 =>
    have hseam := partsOf_append_space (plain ++ ['\\']) [] h
    simpa [partsOf] using hseam
  | case3 l ls _ ih =>
    obtain ⟨text, call?⟩ := l
    cases call? with
    | none => exact ih h
    | some c =>
      have hseam := @ih [] h
      simp [partsOf, hseam]

lemma blank_residue (h : ∀ t, (partsOf plain ls).getLast? ≠ some (.css t)) :
    Blank (residue plain ls) := by
  induction ls generalizing plain with
  | nil =>
    rcases blank_or_cssParts_eq plain with hb | hc
    · exact hb
    · exact absurd (by rw [partsOf, hc]; rfl) (h _)
  | cons l ls ih =>
    obtain ⟨text, call?⟩ := l
    cases call? with
    | none => exact ih h
    | some c =>
      refine ih fun t ht => h t ?_
      rw [partsOf, List.getLast?_append, List.getLast?_cons, ht]
      rfl

lemma blank_lead (h : ∀ t, (partsOf plain ls).head? ≠ some (.css t)) :
    Blank (plain ++ lead ls) := by
  induction ls generalizing plain with
  | nil =>
    rw [lead, List.append_nil]
    rcases blank_or_cssParts_eq plain with hb | hc
    · exact hb
    · exact absurd (by rw [partsOf, hc]; rfl) (h _)
  | cons l ls ih =>
    obtain ⟨text, call?⟩ := l
    cases call? with
    | none =>
      have hb := ih h
      rwa [List.append_assoc] at hb
    | some c =>
      rw [lead, List.append_nil]
      rcases blank_or_cssParts_eq plain with hb | hc
      · exact hb
      · exact absurd (by rw [partsOf, hc]; rfl) (h _)

lemma partsOf_eq_nil_iff (h : Split cs ls) : partsOf plain ls = [] ↔ Blank (plain ++ cs) := by
  induction h generalizing plain with
  | nil => rw [partsOf, cssParts_eq_nil_iff, List.append_nil]
  | @cons l rest ls hi _ ih =>
    obtain ⟨text, call?⟩ := l
    cases call? with
    | none => rw [partsOf, ih, List.append_assoc]
    | some c =>
      have hcolon : ':' ∈ text := hi.colon_mem
      have hn : ¬ Blank (plain ++ (text ++ rest)) := fun hb =>
        absurd (hb ':' (by simp [hcolon])) (by decide)
      simp [partsOf, hn]

lemma Item.eq_nil_of_ending (h : Item ⟨['\\'], none⟩ rest) : rest = [] := by
  cases h with
  | ending => rfl
  | quoted _ hq => exact absurd hq (by decide)
  | char _ hb => exact absurd rfl hb

lemma Item.before_any {text : List Char} (h : Item ⟨text, none⟩ rest) (hl : text ≠ ['\\'])
    (rest' : List Char) :
    Item ⟨text, none⟩ rest' := by
  cases h with
  | escape c => exact .escape c _
  | ending => exact absurd rfl hl
  | quoted _ hq hb => exact .quoted _ hq hb
  | block _ hb => exact .block _ hb
  | char _ hb hq hbracket hcolon => exact .char _ hb hq hbracket hcolon

lemma Item.before_space {l : Lexeme} (h : Item l rest) (hl : l ≠ ⟨['\\'], none⟩)
    (ds : List Char) : Item l (rest ++ ' ' :: ds) := by
  obtain ⟨text, call?⟩ := l
  cases call? with
  | none => exact h.before_any (by simpa using hl) _
  | some c =>
    cases h with
    | bareCall hn hr =>
      refine .bareCall hn fun c hc => ?_
      cases rest with
      | nil =>
        obtain rfl : ' ' = c := by simpa using hc
        decide
      | cons d rest => exact hr c hc
    | call _ hn hne hp => exact .call _ hn hne hp

lemma Split.spaced_append (h : Split cs ls) (h' : Split ds ms) :
    Split (cs ++ ' ' :: ds) (spaced ls ++ ms) := by
  induction h with
  | nil => exact .cons (.char ds (by decide) (by decide) (by decide) (by decide)) h'
  | @cons l rest ls hi hs ih =>
    by_cases hl : l = ⟨['\\'], none⟩
    · subst hl
      obtain rfl := hi.eq_nil_of_ending
      obtain rfl := hs.unique .nil
      exact .cons (.escape ' ' ds) h'
    · have hspaced : spaced (l :: ls) = l :: spaced ls := spaced.eq_3 l ls fun he _ => hl he
      rw [hspaced, List.append_assoc]
      exact .cons (hi.before_space hl ds) ih

lemma exists_parts_of_segments {s : String} {ss : List Segment} (h : segments s = .ok ss) :
    ∃ ls, Split s.toList ls ∧ partsOf [] ls = ss.map Segment.part ∧ ss ≠ [] := by
  obtain ⟨hb, ls, hl, rfl⟩ := segments_eq_ok_iff.mp h
  refine ⟨ls, hl, (map_part_gather 0 [] ls).symm, fun hnil => ?_⟩
  have hparts := map_part_gather 0 [] ls
  rw [hnil, List.map_nil, eq_comm, partsOf_eq_nil_iff hl] at hparts
  exact hb hparts

lemma exists_segments_of_parts {s : String} (h : Split s.toList ls) (hne : partsOf [] ls ≠ []) :
    ∃ ss, segments s = .ok ss ∧ ss.map Segment.part = partsOf [] ls := by
  have hb : ¬ Blank s.toList := fun hb => hne ((partsOf_eq_nil_iff h).mpr hb)
  exact ⟨gather 0 [] ls, segments_eq_ok_iff.mpr ⟨hb, ls, h, rfl⟩, map_part_gather 0 [] ls⟩

lemma exists_segments_append {s t : String} {ss ts : List Segment} (hs : segments s = .ok ss)
    (ht : segments t = .ok ts)
    (seam : (∃ x ∈ ss.getLast?, x.call?.isSome) ∨ ∃ x ∈ ts.head?, x.call?.isSome) :
    ∃ us, segments (s ++ " " ++ t) = .ok us ∧
      us.map Segment.part = ss.map Segment.part ++ ts.map Segment.part := by
  obtain ⟨ls, hl, hls, hne⟩ := exists_parts_of_segments hs
  obtain ⟨ms, hm, hms, -⟩ := exists_parts_of_segments ht
  have hblank : Blank (residue [] ls) ∨ Blank (lead ms) := by
    rcases seam with ⟨x, hx, hc⟩ | ⟨x, hx, hc⟩
    · refine .inl (blank_residue fun t ht => ?_)
      rw [hls, List.getLast?_map, hx] at ht
      cases x <;> simp_all [Segment.part, Segment.call?]
    · refine .inr (@blank_lead [] ms fun t ht => ?_)
      rw [hms, List.head?_map, hx] at ht
      cases x <;> simp_all [Segment.part, Segment.call?]
  have hparts := partsOf_spaced_append hblank
  rw [hls, hms] at hparts
  have hsplit : Split (s ++ " " ++ t).toList (spaced ls ++ ms) := by
    rw [String.toList_append, String.toList_append, List.append_assoc]
    exact hl.spaced_append hm
  rw [← hparts]
  refine exists_segments_of_parts hsplit ?_
  rw [hparts]
  simpa using fun h => absurd h hne

end MarkupQuery.Selector
