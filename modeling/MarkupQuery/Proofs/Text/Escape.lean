import Mathlib.Tactic.Lemma
import MarkupQuery.Text.Blank

namespace MarkupQuery.Text

variable {cs ds : List Char} {c q : Char}

def protects (cs : List Char) : Bool := cs.foldl (fun p c => !p && c == '\\') false

lemma protects_concat : protects (cs ++ [c]) = (!protects cs && c == '\\') := by
  rw [protects, List.foldl_append, ← protects]
  rfl

lemma protects_append (h : protects cs = false) : protects (cs ++ ds) = protects ds := by
  rw [protects, List.foldl_append, ← protects, h, protects]

lemma protects_of_getLast? (h : c ∈ cs.getLast?) (hc : c ≠ '\\') : protects cs = false := by
  obtain ⟨ds, rfl⟩ := List.getLast?_eq_some_iff.mp h
  simp [protects_concat, hc]

lemma protects_cons (hc : c ≠ '\\') : protects (c :: cs) = protects cs := by
  have h : protects [c] = false := by simp [protects, hc]
  exact protects_append h

lemma protects_escape : protects ('\\' :: c :: cs) = protects cs := by
  have h : protects ['\\', c] = false := by simp [protects]
  exact protects_append h

def Shielded (q : Char) (cs : List Char) : Prop :=
  ∀ before after, cs = before ++ q :: after → protects before = true

lemma shielded_nil : Shielded q [] := by
  intro before after h
  simp at h

lemma shielded_backslash (hq : q ≠ '\\') : Shielded q ['\\'] := by
  intro before after h
  cases before with
  | nil => exact absurd (List.cons.inj h).1.symm hq
  | cons b before => simp at h

lemma Shielded.escape (hq : q ≠ '\\') (h : Shielded q cs) : Shielded q ('\\' :: c :: cs) := by
  intro before after heq
  match before with
  | [] => exact absurd (List.cons.inj heq).1.symm hq
  | [b] =>
    rw [← (List.cons.inj heq).1]
    rfl
  | b :: d :: before =>
    obtain ⟨hb, htail⟩ := List.cons.inj heq
    obtain ⟨hd, hrest⟩ := List.cons.inj htail
    rw [← hb, protects_escape]
    exact h before after hrest

lemma Shielded.cons (hc : c ≠ '\\') (hcq : c ≠ q) (h : Shielded q cs) : Shielded q (c :: cs) := by
  intro before after heq
  match before with
  | [] => exact absurd (List.cons.inj heq).1 hcq
  | b :: before =>
    obtain ⟨hb, hrest⟩ := List.cons.inj heq
    rw [← hb, protects_cons hc]
    exact h before after hrest

end MarkupQuery.Text
