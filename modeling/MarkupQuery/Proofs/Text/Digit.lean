import Mathlib.Algebra.Group.Nat.Defs
import Mathlib.Data.List.Induction
import Mathlib.Tactic.Lemma
import MarkupQuery.Text.Blank
import MarkupQuery.Text.Digit

namespace MarkupQuery.Text

lemma isAsciiDigit_eq_isDigit (c : Char) : isAsciiDigit c = c.isDigit := rfl

lemma asciiDigitValue_lt {c : Char} (h : isAsciiDigit c = true) : asciiDigitValue c < 10 := by
  simp only [isAsciiDigit, Bool.and_eq_true, decide_eq_true_eq] at h
  have hle : c.toNat ≤ '9'.toNat := h.2
  have hnine : '9'.toNat = 57 := rfl
  have hzero : '0'.toNat = 48 := rfl
  rw [asciiDigitValue]
  omega

lemma not_isBlank_of_digit {c : Char} (h : isAsciiDigit c = true) : isBlank c = false := by
  simp only [isAsciiDigit, Bool.and_eq_true, decide_eq_true_eq] at h
  have hlo : 48 ≤ c.toNat := h.1
  have hhi : c.toNat ≤ 57 := h.2
  simp [isBlank, blankRanges]
  omega

lemma asciiDigitValue_digitChar {d : Nat} (h : d < 10) : asciiDigitValue d.digitChar = d := by
  revert d
  decide

lemma ofDigits_append_singleton (ds : List Nat) (d : Nat) :
    ofDigits (ds ++ [d]) = 10 * ofDigits ds + d := by
  rw [ofDigits, List.foldl_append]
  rfl

lemma ofDigits_lt {ds : List Nat} (h : ∀ d ∈ ds, d < 10) : ofDigits ds < 10 ^ ds.length := by
  induction ds using List.reverseRecOn with
  | nil => decide
  | append_singleton ds d ih =>
    have hds := ih fun e he => h e (List.mem_append_left [d] he)
    have hd := h d (by simp)
    rw [ofDigits_append_singleton, List.length_append, List.length_singleton, Nat.pow_succ]
    omega

lemma ofDigits_toDigits (n : Nat) : ofDigits ((Nat.toDigits 10 n).map asciiDigitValue) = n := by
  induction n using Nat.strongRecOn with
  | ind n ih =>
    by_cases hn : n < 10
    · rw [Nat.toDigits_of_lt_base hn, List.map_singleton, asciiDigitValue_digitChar hn]
      simp [ofDigits]
    · have hmod : n % 10 < 10 := Nat.mod_lt n (by decide)
      rw [Nat.toDigits_of_base_le (by decide) (by omega), List.map_append, List.map_singleton,
        ofDigits_append_singleton, ih (n / 10) (by omega), asciiDigitValue_digitChar hmod]
      omega

lemma isAsciiDigit_of_mem_toDigits {n : Nat} {c : Char} (h : c ∈ Nat.toDigits 10 n) :
    isAsciiDigit c = true := by
  rw [isAsciiDigit_eq_isDigit]
  exact Nat.isDigit_of_mem_toDigits (by decide) (by decide) h

lemma length_toDigits_ofDigits {cs : List Char} (hne : cs ≠ [])
    (h : ∀ c ∈ cs, isAsciiDigit c = true) :
    (Nat.toDigits 10 (ofDigits (cs.map asciiDigitValue))).length ≤ cs.length := by
  rw [Nat.length_toDigits_le_iff (by decide) (List.length_pos_iff.mpr hne)]
  have hds : ∀ d ∈ cs.map asciiDigitValue, d < 10 := by
    intro d hd
    obtain ⟨c, hc, rfl⟩ := List.mem_map.mp hd
    exact asciiDigitValue_lt (h c hc)
  simpa using ofDigits_lt hds

end MarkupQuery.Text
