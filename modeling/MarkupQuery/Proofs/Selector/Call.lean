import MarkupQuery.Proofs.Text.Blank
import MarkupQuery.Selector.Segment

namespace MarkupQuery.Selector

open Text

variable {cs rest : List Char} (position : Nat)

def IsName (name : List Char) : Prop := name ≠ [] ∧ ∀ c ∈ name, isNameChar c = true

def Readable (token : List Char) : Prop :=
  (∀ c ∈ token, isGap c = false) ∧
    ¬ (digitLimit < token.length ∧ ∀ c ∈ token, isAsciiDigit c = true)

structure IsPart (part : List Char) : Prop where
  comma : ',' ∉ part
  opening : '(' ∉ part
  closing : ')' ∉ part
  readable : Readable (trim part)

def argumentOf (token : List Char) : Argument :=
  if !token.isEmpty && token.all isAsciiDigit then
    .number (ofDigits (token.map asciiDigitValue))
  else .word (String.ofList token)

def argumentsOf (parts : List (List Char)) : List Argument :=
  ((parts.map trim).filter fun token => !token.isEmpty).map argumentOf

lemma argumentsOf_cons (part : List Char) (parts : List (List Char)) :
    argumentsOf (part :: parts) =
      if trim part = [] then argumentsOf parts
      else argumentOf (trim part) :: argumentsOf parts := by
  by_cases h : trim part = [] <;> simp [argumentsOf, h]

lemma ofToken_eq_ok_iff {token : List Char} {a : Argument} : Argument.ofToken token = .ok a ↔
    ¬ (digitLimit < token.length ∧ ∀ c ∈ token, isAsciiDigit c = true) ∧ a = argumentOf token := by
  rw [Argument.ofToken, argumentOf]
  by_cases hd : (!token.isEmpty && token.all isAsciiDigit) = true
  · have hall : ∀ c ∈ token, isAsciiDigit c = true := by simp_all
    rw [if_pos hd, if_pos hd]
    by_cases hl : token.length ≤ digitLimit
    · have hn : ¬ digitLimit < token.length := by omega
      simp only [hl, if_true, hn, false_and, not_false_eq_true, true_and, Except.ok.injEq]
      exact eq_comm
    · have hlt : digitLimit < token.length := by omega
      rw [if_neg hl]
      exact ⟨nofun, fun h => absurd ⟨hlt, hall⟩ h.1⟩
  · have hn : ¬ (digitLimit < token.length ∧ ∀ c ∈ token, isAsciiDigit c = true) := by
      rintro ⟨hl, hall⟩
      have hne : token ≠ [] := List.ne_nil_of_length_pos (by omega)
      simp_all
    rw [if_neg hd, if_neg hd]
    simp only [hn, not_false_eq_true, true_and, Except.ok.injEq]
    exact eq_comm

lemma readArgument_eq_ok_iff {token : List Char} {a : Argument} :
    readArgument token = .ok a ↔ Readable token ∧ a = argumentOf token := by
  rw [readArgument, Readable, and_assoc, ← ofToken_eq_ok_iff]
  by_cases hg : token.any isGap = true
  · have hn : ¬ ∀ c ∈ token, isGap c = false := by simpa using hg
    simp [hg, hn]
  · have hn : ∀ c ∈ token, isGap c = false := by simpa using hg
    rw [if_neg hg]
    exact (and_iff_right hn).symm

lemma readEach_eq_ok_iff {tokens : List (List Char)} {arguments : List Argument} :
    readEach tokens = .ok arguments ↔
      (∀ token ∈ tokens, Readable token) ∧ arguments = tokens.map argumentOf := by
  induction tokens generalizing arguments with
  | nil => simp [readEach, eq_comm]
  | cons token tokens ih =>
    rw [readEach, List.forall_mem_cons, List.map_cons]
    cases hr : readArgument token with
    | error refusal =>
      have hn : ¬ Readable token := fun h => by
        have := readArgument_eq_ok_iff.mpr ⟨h, rfl⟩
        simp_all
      simp [hn]
    | ok a =>
      obtain ⟨ha, rfl⟩ := readArgument_eq_ok_iff.mp hr
      cases hs : readEach tokens with
      | error refusal =>
        have hn : ¬ ∀ token ∈ tokens, Readable token := fun h => by
          have := ih.mpr ⟨h, rfl⟩
          simp_all
        simp [ha, hn]
      | ok as =>
        obtain ⟨has, rfl⟩ := ih.mp hs
        simp only [ha, true_and, Except.ok.injEq]
        exact ⟨fun h => ⟨has, h.symm⟩, fun h => h.2.symm⟩

lemma readArguments_eq_ok_iff {inside : List Char} {arguments : List Argument} :
    readArguments inside = .ok arguments ↔
      (∀ part ∈ pieces (· == ',') inside, Readable (trim part)) ∧
        arguments = argumentsOf (pieces (· == ',') inside) := by
  have hempty : Readable [] := ⟨by simp, by simp⟩
  rw [readArguments, argumentTokens, readEach_eq_ok_iff, argumentsOf]
  refine and_congr_left fun _ => ⟨fun h part hp => ?_, fun h token ht => ?_⟩
  · by_cases he : trim part = []
    · exact he ▸ hempty
    · exact h _ (List.mem_filter.mpr ⟨List.mem_map_of_mem hp, by simpa using he⟩)
  · obtain ⟨part, hp, rfl⟩ := List.mem_map.mp (List.mem_filter.mp ht).1
    exact h part hp

lemma isNameChar_eq_false_iff {c : Char} :
    isNameChar c = false ↔ isGap c = true ∨ c = '(' ∨ c = ':' := by
  simp only [isNameChar, Bool.and_eq_false_iff, Bool.not_eq_false', bne_eq_false_iff_eq]
  tauto

lemma takeWhile_append_stop (p : Char → Bool) {as : List Char} (bs : List Char)
    (ha : ∀ c ∈ as, p c = true) (hb : ∀ c ∈ bs.head?, p c = false) :
    (as ++ bs).takeWhile p = as ∧ (as ++ bs).dropWhile p = bs := by
  rw [List.takeWhile_append_of_pos ha, List.dropWhile_append_of_pos ha]
  cases bs with
  | nil => simp
  | cons b bs =>
    have hp : p b = false := hb b rfl
    simp [hp]

lemma readCall_bare {name : List Char} (hn : IsName name)
    (hr : ∀ c ∈ rest.head?, isNameChar c = false ∧ c ≠ '(') :
    readCall position (name ++ rest) = .ok (⟨String.ofList name, []⟩, name.length) := by
  obtain ⟨ht, hd⟩ := takeWhile_append_stop isNameChar rest hn.2 fun c hc => (hr c hc).1
  have hne : name.isEmpty = false := List.isEmpty_eq_false_iff.mpr hn.1
  rw [readCall, ht, hd, hne]
  cases rest with
  | nil => rfl
  | cons c rest =>
    have hc : c ≠ '(' := (hr c rfl).2
    simp [hc]

lemma readCall_applied {name inside : List Char} (rest : List Char) (hn : IsName name)
    (hi : ')' ∉ inside) :
    readCall position (name ++ '(' :: (inside ++ ')' :: rest)) =
      if '(' ∈ inside then .error (.malformed .nestedArguments (position + 1 + name.length))
      else ((readArguments inside).mapError (Refusal.stop (position + 1 + name.length + 1))).map
        fun arguments => (⟨String.ofList name, arguments⟩, name.length + inside.length + 2) := by
  obtain ⟨ht, hd⟩ := takeWhile_append_stop isNameChar ('(' :: (inside ++ ')' :: rest)) hn.2
    (by simp [isNameChar])
  have hne : name.isEmpty = false := List.isEmpty_eq_false_iff.mpr hn.1
  obtain ⟨hin, -⟩ := takeWhile_append_stop (· != ')') (')' :: rest)
    (fun c hc => by simpa using ne_of_mem_of_not_mem hc hi) (by simp)
  rw [readCall, ht, hd, hne]
  simp only [hin, Bool.false_eq_true, if_false, List.contains_eq_mem, List.mem_append,
    List.mem_cons, true_or, or_true, decide_true, Bool.not_true, decide_eq_true_eq]
  split
  · rfl
  · cases readArguments inside <;> rfl

lemma readCall_open {name inside : List Char} (hn : IsName name) (hi : ')' ∉ inside) :
    readCall position (name ++ '(' :: inside) =
      .error (.malformed .openArguments (position + 1 + name.length)) := by
  obtain ⟨ht, hd⟩ := takeWhile_append_stop isNameChar ('(' :: inside) hn.2 (by simp [isNameChar])
  have hne : name.isEmpty = false := List.isEmpty_eq_false_iff.mpr hn.1
  rw [readCall, ht, hd, hne]
  simp [hi]

lemma readCall_nameless (h : ∀ c ∈ cs.head?, isNameChar c = false) :
    readCall position cs = .error (.malformed .missingName position) := by
  cases cs with
  | nil => rfl
  | cons c cs =>
    have hc : isNameChar c = false := h c rfl
    simp [readCall, hc]

inductive AfterColon : List Char → Prop
  | nameless {cs : List Char} : (∀ c ∈ cs.head?, isNameChar c = false) → AfterColon cs
  | bare {name rest : List Char} : IsName name →
      (∀ c ∈ rest.head?, isNameChar c = false ∧ c ≠ '(') → AfterColon (name ++ rest)
  | applied {name inside : List Char} (rest : List Char) : IsName name → ')' ∉ inside →
      AfterColon (name ++ '(' :: (inside ++ ')' :: rest))
  | unclosed {name inside : List Char} : IsName name → ')' ∉ inside →
      AfterColon (name ++ '(' :: inside)

lemma afterColon (cs : List Char) : AfterColon cs := by
  have hcs : cs.takeWhile isNameChar ++ cs.dropWhile isNameChar = cs :=
    List.takeWhile_append_dropWhile
  have hstop : ∀ c ∈ (cs.dropWhile isNameChar).head?, isNameChar c = false := fun c hc => by
    have := List.head?_dropWhile_not isNameChar cs
    simp_all
  by_cases hne : cs.takeWhile isNameChar = []
  · rw [hne, List.nil_append] at hcs
    exact .nameless (hcs ▸ hstop)
  have hname : IsName (cs.takeWhile isNameChar) := ⟨hne, fun c hc => List.mem_takeWhile_imp hc⟩
  cases hd : cs.dropWhile isNameChar with
  | nil =>
    rw [← hcs, hd]
    exact .bare hname (by simp)
  | cons c rest =>
    rw [hd] at hcs hstop
    rw [← hcs]
    by_cases hc : c = '('
    · subst hc
      by_cases hclose : ')' ∈ rest
      · obtain ⟨inside, after, rfl, hi⟩ := List.eq_append_cons_of_mem hclose
        exact .applied after hname hi
      · exact .unclosed hname hclose
    · exact .bare hname fun d hd => ⟨hstop d hd, by simp_all⟩

end MarkupQuery.Selector
