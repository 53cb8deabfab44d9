import Mathlib.Data.List.DropRight
import Mathlib.Tactic.Lemma
import MarkupQuery.Text.Blank

namespace MarkupQuery.Text

variable {cs ds bs : List Char} {c : Char}

def Blank (cs : List Char) : Prop := ∀ c ∈ cs, isBlank c = true

lemma blank_nil : Blank [] := by simp [Blank]

lemma blank_space : Blank [' '] := List.forall_mem_singleton.mpr (by decide)

lemma blank_append : Blank (cs ++ ds) ↔ Blank cs ∧ Blank ds := by
  simp only [Blank, List.mem_append, or_imp, forall_and]

lemma not_blank_iff : ¬ Blank cs ↔ ∃ c ∈ cs, isBlank c = false := by
  simp [Blank]

lemma isBlank_of_isGap (h : isGap c = true) : isBlank c = true := by
  simp only [isGap, Bool.or_eq_true, beq_iff_eq] at h
  rcases h with (((rfl | rfl) | rfl) | rfl) | rfl <;> decide

lemma isGap_eq_false_of_isBlank (h : isBlank c = false) : isGap c = false := by
  by_contra hc
  rw [isBlank_of_isGap (by simpa using hc)] at h
  cases h

lemma trimStart_eq_nil_iff : trimStart cs = [] ↔ Blank cs := List.dropWhile_eq_nil_iff

lemma trimStart_blank_append (h : Blank bs) : trimStart (bs ++ cs) = trimStart cs :=
  List.dropWhile_append_of_pos h

lemma trimEnd_append_blank (h : Blank bs) : trimEnd (cs ++ bs) = trimEnd cs := by
  have hr : ∀ c ∈ bs.reverse, isBlank c = true := fun c hc => h c (List.mem_reverse.mp hc)
  rw [trimEnd, List.reverse_append, List.dropWhile_append_of_pos hr, trimEnd]

lemma trimEnd_append_of_not_blank (h : ¬ Blank ds) : trimEnd (cs ++ ds) = cs ++ trimEnd ds := by
  have hne : (ds.reverse.dropWhile isBlank).isEmpty = false := by
    refine List.isEmpty_eq_false_iff.mpr fun hnil => h fun c hc => ?_
    exact List.dropWhile_eq_nil_iff.mp hnil c (List.mem_reverse.mpr hc)
  rw [trimEnd, List.reverse_append, List.dropWhile_append, hne]
  simp [trimEnd]

lemma trim_blank_append (h : Blank bs) : trim (bs ++ cs) = trim cs := by
  rw [trim, trimStart_blank_append h, trim]

lemma trim_of_blank (h : Blank cs) : trim cs = [] := by
  rw [trim, trimStart_eq_nil_iff.mpr h]
  rfl

lemma trimStart_append_of_not_blank (h : ¬ Blank cs) :
    trimStart (cs ++ ds) = trimStart cs ++ ds := by
  have hne : (cs.dropWhile isBlank).isEmpty = false :=
    List.isEmpty_eq_false_iff.mpr (mt trimStart_eq_nil_iff.mp h)
  rw [trimStart, List.dropWhile_append, hne, trimStart]
  rfl

lemma trim_append_blank (h : Blank bs) : trim (cs ++ bs) = trim cs := by
  by_cases hc : Blank cs
  · rw [trim_blank_append hc, trim_of_blank h, trim_of_blank hc]
  · rw [trim, trimStart_append_of_not_blank hc, trimEnd_append_blank h, trim]

lemma trimEnd_of_getLast? (hc : c ∈ cs.getLast?) (h : isBlank c = false) : trimEnd cs = cs := by
  obtain ⟨ds, rfl⟩ := List.getLast?_eq_some_iff.mp hc
  simp [trimEnd, h]

lemma getLast?_trimStart (hc : c ∈ cs.getLast?) (h : isBlank c = false) :
    c ∈ (trimStart cs).getLast? := by
  have hne : trimStart cs ≠ [] := fun hnil => by
    have hblank := trimStart_eq_nil_iff.mp hnil c (List.mem_of_getLast? hc)
    rw [h] at hblank
    cases hblank
  obtain ⟨before, hbefore⟩ := List.dropWhile_suffix (l := cs) isBlank
  rwa [← List.getLast?_append_of_ne_nil before hne, trimStart, hbefore]

lemma trim_of_getLast? (hc : c ∈ cs.getLast?) (h : isBlank c = false) : trim cs = trimStart cs :=
  trimEnd_of_getLast? (getLast?_trimStart hc h) h

lemma trim_append_of_getLast? {b : Char} (hc : c ∈ cs.getLast?) (h : isBlank c = false)
    (hb : b ∈ ds.getLast?) (h' : isBlank b = false) : trim (cs ++ ds) = trim cs ++ ds := by
  have hcs : ¬ Blank cs := not_blank_iff.mpr ⟨c, List.mem_of_getLast? hc, h⟩
  have hlast : b ∈ (cs ++ ds).getLast? := by
    rw [List.getLast?_append, hb]
    rfl
  rw [trim_of_getLast? hlast h', trimStart_append_of_not_blank hcs, trim_of_getLast? hc h]

lemma exists_trimStart_eq (cs : List Char) :
    ∃ after, trimStart cs = trim cs ++ after ∧ Blank after :=
  ⟨(trimStart cs).rtakeWhile isBlank, List.rdropWhile_append_rtakeWhile.symm,
    fun _ hc => List.mem_rtakeWhile_imp hc⟩

lemma exists_blank_trim (cs : List Char) :
    ∃ before after, cs = before ++ trim cs ++ after ∧ Blank before ∧ Blank after := by
  obtain ⟨after, hstart, ha⟩ := exists_trimStart_eq cs
  refine ⟨cs.takeWhile isBlank, after, ?_, fun c hc => List.mem_takeWhile_imp hc, ha⟩
  rw [List.append_assoc, ← hstart]
  exact List.takeWhile_append_dropWhile.symm

lemma length_sub_trimStart (cs : List Char) :
    cs.length - (trimStart cs).length = (cs.takeWhile isBlank).length := by
  have h : (cs.takeWhile isBlank).length + (trimStart cs).length = cs.length := by
    rw [← List.length_append, trimStart, List.takeWhile_append_dropWhile]
  omega

lemma trim_eq_nil_iff : trim cs = [] ↔ Blank cs := by
  refine ⟨fun h => ?_, trim_of_blank⟩
  obtain ⟨before, after, hcs, hb, ha⟩ := exists_blank_trim cs
  rw [hcs, h, List.append_nil]
  exact blank_append.mpr ⟨hb, ha⟩

lemma trim_trim (cs : List Char) : trim (trim cs) = trim cs := by
  obtain ⟨before, after, hcs, hb, ha⟩ := exists_blank_trim cs
  calc trim (trim cs) = trim (before ++ (trim cs ++ after)) := by
        rw [trim_blank_append hb, trim_append_blank ha]
    _ = trim cs := by rw [← List.append_assoc, ← hcs]

lemma not_isBlank_of_trim_cons (h : trim (c :: cs) = c :: cs) : isBlank c = false := by
  by_contra hb
  have hc : Blank [c] := List.forall_mem_singleton.mpr (by simpa using hb)
  rw [← List.singleton_append, trim_blank_append hc] at h
  obtain ⟨before, after, hcs, -, -⟩ := exists_blank_trim cs
  have hlen := congrArg List.length hcs
  simp only [h, List.length_append, List.length_singleton] at hlen
  omega

lemma trim_of_not_blank (h : ∀ c ∈ cs, isBlank c = false) : trim cs = cs := by
  have hnil {bs : List Char} (hb : Blank bs) (hsub : bs ⊆ cs) : bs = [] :=
    List.eq_nil_iff_forall_not_mem.mpr fun c hc => by
      have hfalse := h c (hsub hc)
      rw [hb c hc] at hfalse
      cases hfalse
  obtain ⟨before, after, hcs, hb, ha⟩ := exists_blank_trim cs
  have hbefore : before = [] := hnil hb fun c hc => by
    rw [hcs]
    simp [hc]
  have hafter : after = [] := hnil ha fun c hc => by
    rw [hcs]
    simp [hc]
  rw [hbefore, hafter, List.nil_append, List.append_nil] at hcs
  exact hcs.symm

lemma mem_of_mem_trim (h : c ∈ trim cs) : c ∈ cs := by
  obtain ⟨before, after, hcs, -, -⟩ := exists_blank_trim cs
  rw [hcs]
  simp [h]

lemma pieces_eq_splitOn (a : Char) (cs : List Char) : pieces (· == a) cs = cs.splitOn a := by
  induction cs with
  | nil => rfl
  | cons c cs ih =>
    rw [List.splitOn_cons_eq_if_modifyHead, ← ih, pieces]
    split
    · rfl
    · cases h : pieces (· == a) cs with
      | nil => exact absurd (ih ▸ h) (List.splitOn_ne_nil a cs)
      | cons w ws => rfl

lemma intercalate_pieces (a : Char) (cs : List Char) :
    [a].intercalate (pieces (· == a) cs) = cs := by
  rw [pieces_eq_splitOn, List.intercalate_splitOn]

lemma pieces_intercalate {a : Char} {parts : List (List Char)} (hne : parts ≠ [])
    (h : ∀ part ∈ parts, a ∉ part) : pieces (· == a) ([a].intercalate parts) = parts := by
  rw [pieces_eq_splitOn, List.splitOn_intercalate a h hne]

lemma pieces_ne_nil (a : Char) (cs : List Char) : pieces (· == a) cs ≠ [] := by
  rw [pieces_eq_splitOn]
  exact List.splitOn_ne_nil a cs

lemma notMem_of_mem_pieces {a : Char} {part : List Char} (h : part ∈ pieces (· == a) cs) :
    a ∉ part := by
  induction cs generalizing part with
  | nil => simp_all [pieces]
  | cons c cs ih =>
    rw [pieces] at h
    split at h
    · rcases List.mem_cons.mp h with rfl | h
      · exact List.not_mem_nil
      · exact ih h
    · next hc =>
      cases hp : pieces (· == a) cs with
      | nil => exact absurd hp (pieces_ne_nil a cs)
      | cons w ws =>
        rw [hp] at h ih
        rcases List.mem_cons.mp h with rfl | h
        · have hw := ih List.mem_cons_self
          have hca : a ≠ c := fun he => hc (by simp [he])
          simp [hw, hca]
        · exact ih (List.mem_cons_of_mem w h)

lemma mem_intercalate {a : Char} {parts : List (List Char)} :
    c ∈ [a].intercalate parts ↔ c = a ∧ 2 ≤ parts.length ∨ ∃ part ∈ parts, c ∈ part := by
  induction parts with
  | nil => simp
  | cons part parts ih =>
    cases parts with
    | nil => simp
    | cons next parts =>
      rw [List.intercalate_cons_cons, List.mem_append, List.mem_append, ih]
      simp
      tauto

lemma mem_of_mem_pieces {a : Char} {part : List Char} (hp : part ∈ pieces (· == a) cs)
    (hc : c ∈ part) : c ∈ cs := by
  rw [← intercalate_pieces a cs]
  exact mem_intercalate.mpr (.inr ⟨part, hp, hc⟩)

lemma length_le_of_mem_pieces {sep : Char → Bool} {part : List Char} (h : part ∈ pieces sep cs) :
    part.length ≤ cs.length := by
  induction cs generalizing part with
  | nil => simp_all [pieces]
  | cons c cs ih =>
    rw [pieces] at h
    split at h
    · rcases List.mem_cons.mp h with rfl | h
      · exact Nat.zero_le _
      · exact (ih h).trans (Nat.le_succ _)
    split at h
    · obtain rfl := List.mem_singleton.mp h
      simp
    · next w ws hp =>
      rw [hp] at ih
      rcases List.mem_cons.mp h with rfl | h
      · exact Nat.succ_le_succ (ih List.mem_cons_self)
      · exact (ih (List.mem_cons_of_mem w h)).trans (Nat.le_succ _)

end MarkupQuery.Text
