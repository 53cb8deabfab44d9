import MarkupQuery.Number.Integer
import MarkupQuery.Proofs.Text.Digit

namespace MarkupQuery

open Text

namespace Number

variable {cs : List Char} {c : Char} {n : Nat}

def spelling (i : Int) : List Char :=
  if i < 0 then '-' :: Nat.toDigits 10 i.natAbs else Nat.toDigits 10 i.natAbs

lemma toList_toString (i : Int) : (toString i).toList = spelling i := by
  cases i with
  | ofNat n => simp [spelling, toString, Int.repr]
  | negSucc n => simp [spelling, toString, Int.repr, Int.natAbs]

lemma mem_spelling {i : Int} (h : c ∈ spelling i) : c = '-' ∨ isAsciiDigit c = true := by
  rw [spelling] at h
  split at h
  · rcases List.mem_cons.mp h with rfl | h
    · exact .inl rfl
    · exact .inr (isAsciiDigit_of_mem_toDigits h)
  · exact .inr (isAsciiDigit_of_mem_toDigits h)

lemma digitValue?_of_isAsciiDigit (h : isAsciiDigit c = true) :
    digitValue? c = some (asciiDigitValue c) := by
  simp only [isAsciiDigit, Bool.and_eq_true, decide_eq_true_eq] at h
  have hlo : 0x30 ≤ c.toNat := h.1
  have hhi : c.toNat < 0x30 + 10 := Nat.lt_succ_of_le h.2
  simp [digitValue?, digitZeros, hlo, hhi, asciiDigitValue]

lemma isPadding_eq_false (h : isBlank c = false) : isPadding c = false := by
  rw [isPadding, h, Bool.false_and]

lemma unpadded_eq_self (hhead : ∀ c ∈ cs.head?, isBlank c = false)
    (hlast : ∀ c ∈ cs.getLast?, isBlank c = false) : unpadded cs = cs := by
  have hkept {ds : List Char} (h : ∀ c ∈ ds.head?, isBlank c = false) :
      ds.dropWhile isPadding = ds := by
    cases ds with
    | nil => rfl
    | cons d ds => rw [List.dropWhile_cons_of_neg (by simp [isPadding_eq_false (h d rfl)])]
  rw [unpadded, hkept hhead, hkept (by rwa [List.head?_reverse]), List.reverse_reverse]

lemma digitsOf?_eq_some (hne : cs ≠ []) (h : ∀ c ∈ cs, isAsciiDigit c = true) :
    digitsOf? cs = some (cs.map asciiDigitValue) := by
  fun_induction digitsOf? cs with
  | case1 => exact absurd rfl hne
  | case2 c => simp [digitValue?_of_isAsciiDigit (h c List.mem_cons_self)]
  | case3 c cs => exact absurd (h '_' (by simp)) (by decide)
  | case4 c cs hcs _ ih =>
    obtain ⟨hc, hrest⟩ := List.forall_mem_cons.mp h
    have hne : cs ≠ [] := fun he => hcs he
    simp [digitValue?_of_isAsciiDigit hc, ih hne hrest]

lemma natOf?_toDigits (h : (Nat.toDigits 10 n).length ≤ digitLimit) :
    natOf? (Nat.toDigits 10 n) = some n := by
  have hdigits : ∀ c ∈ Nat.toDigits 10 n, isAsciiDigit c = true := fun c hc =>
    isAsciiDigit_of_mem_toDigits hc
  simp [natOf?, digitsOf?_eq_some Nat.toDigits_ne_nil hdigits, h, ofDigits_toDigits]

lemma isAsciiDigit_of_getLast?_spelling {i : Int} (h : c ∈ (spelling i).getLast?) :
    isAsciiDigit c = true := by
  have hlast : c ∈ (Nat.toDigits 10 i.natAbs).getLast? := by
    rw [spelling] at h
    split at h
    · rwa [List.getLast?_cons_of_ne_nil Nat.toDigits_ne_nil] at h
    · exact h
  exact isAsciiDigit_of_mem_toDigits (List.mem_of_getLast? hlast)

lemma intOf?_spelling {i : Int} (h : (Nat.toDigits 10 i.natAbs).length ≤ digitLimit) :
    intOf? (spelling i) = some i := by
  have hnat := natOf?_toDigits h
  obtain ⟨d, ds, hds⟩ := List.exists_cons_of_ne_nil (Nat.toDigits_ne_nil (b := 10) (n := i.natAbs))
  have hd : isAsciiDigit d = true := isAsciiDigit_of_mem_toDigits (hds ▸ List.mem_cons_self)
  have hhead : ∀ c ∈ (spelling i).head?, isBlank c = false := by
    rw [spelling, hds]
    split
    · simpa using (by decide : isBlank '-' = false)
    · simpa using not_isBlank_of_digit hd
  have hlast : ∀ c ∈ (spelling i).getLast?, isBlank c = false := fun c hc =>
    not_isBlank_of_digit (isAsciiDigit_of_getLast?_spelling hc)
  rw [intOf?, unpadded_eq_self hhead hlast, spelling]
  by_cases hi : i < 0
  · rw [if_pos hi]
    simp only [hnat, Option.map_some, Option.bind_eq_bind, Option.bind_some, Option.pure_def,
      Option.some.injEq]
    omega
  · rw [if_neg hi]
    split
    · next he =>
      obtain rfl := (List.cons.inj (hds.symm.trans he)).1
      exact absurd hd (by decide)
    · next he =>
      obtain rfl := (List.cons.inj (hds.symm.trans he)).1
      exact absurd hd (by decide)
    · simp only [hnat, Option.map_some, Option.bind_eq_bind, Option.bind_some, Option.pure_def,
        Option.some.injEq]
      omega

end Number

end MarkupQuery
