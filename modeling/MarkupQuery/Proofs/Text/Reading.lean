import Mathlib.Tactic.Lemma
import MarkupQuery.Text.Reading

namespace MarkupQuery.Text

variable {α : Type} {item : Reader α} {cs rest : List Char} {x : α} {Q : List Char → Prop}

def Reader.GoesBack (item : Reader α) (Q : List Char → Prop) : Prop :=
  ∀ cs x rest, item cs = some (x, rest) → Q rest → Q cs

lemma many_cons (h : item cs = some (x, rest)) (hlt : rest.length < cs.length) :
    many item cs = (x :: (many item rest).1, (many item rest).2) := by
  rw [many, h]
  simp [hlt]

lemma many_of_none (h : item cs = none) : many item cs = ([], cs) := by
  rw [many, h]

lemma length_many_le (item : Reader α) (cs : List Char) :
    (many item cs).2.length ≤ cs.length := by
  fun_induction many item cs with
  | case1 cs x rest hcs hlt as rest' hmany ih =>
    rw [hmany] at ih
    exact Nat.le_trans ih (Nat.le_of_lt hlt)
  | case2 => exact Nat.le_refl _
  | case3 => exact Nat.le_refl _

lemma Reader.GoesBack.many (hitem : item.GoesBack Q) (h : Q (many item cs).2) : Q cs := by
  fun_induction Text.many item cs with
  | case1 cs x rest hcs hlt as rest' hmany ih =>
    rw [hmany] at ih
    exact hitem cs x rest hcs (ih h)
  | case2 => exact h
  | case3 => exact h

lemma many_end (hlt : ∀ cs x rest, item cs = some (x, rest) → rest.length < cs.length)
    (cs : List Char) : item (many item cs).2 = none := by
  fun_induction many item cs with
  | case1 cs x rest hcs _ as rest' hmany ih => rwa [hmany] at ih
  | case2 cs x rest hcs hnot => exact absurd (hlt cs x rest hcs) hnot
  | case3 cs hcs => exact hcs

lemma many_leaves {P : List Char → Prop}
    (hitem : ∀ cs x rest, P cs → item cs = some (x, rest) → P rest) (h : P cs) :
    P (many item cs).2 := by
  fun_induction many item cs with
  | case1 cs x rest hcs _ as rest' hmany ih =>
    rw [hmany] at ih
    exact ih (hitem cs x rest h hcs)
  | case2 => exact h
  | case3 => exact h

lemma many_append {P : List Char → Prop} {more : List Char}
    (hitem : ∀ cs x rest, P cs → item cs = some (x, rest) →
      item (cs ++ more) = some (x, rest ++ more) ∧ P rest) (h : P cs) :
    many item (cs ++ more) =
      ((many item cs).1 ++ (many item ((many item cs).2 ++ more)).1,
        (many item ((many item cs).2 ++ more)).2) := by
  fun_induction many item cs with
  | case1 cs x rest hcs hlt as rest' hmany ih =>
    obtain ⟨hmore, hrest⟩ := hitem cs x rest h hcs
    rw [many_cons hmore (by simpa using hlt), ih hrest, hmany]
    rfl
  | case2 => rfl
  | case3 => rfl

lemma of_skipGaps (hgap : ∀ c cs, isGap c = true → Q cs → Q (c :: cs)) (h : Q (skipGaps cs)) :
    Q cs := by
  induction cs with
  | nil => exact h
  | cons c cs ih =>
    rw [skipGaps, List.dropWhile_cons] at h
    split at h
    · next hc => exact hgap c cs hc (ih h)
    · exact h

end MarkupQuery.Text
