import MarkupQuery.Proofs.Pseudo.Conservative

namespace MarkupQuery

open Text

namespace Selector

variable {cs : List Char} {ls ms : List Lexeme} {c : Call} {s : String}

lemma Split.append_call (h : Split cs ls) (hn : ∀ l ∈ ls, l.call? = none)
    (hend : cs.getLast? ≠ some '\\') (hc : c.Canonical) :
    Split (cs ++ c.text.toList) (ls ++ [⟨c.text.toList, some c⟩]) := by
  have hcall : Split c.text.toList [⟨c.text.toList, some c⟩] := by
    have hitem : Item ⟨c.text.toList, some c⟩ [] := item_text hc (by simp)
    simpa using Split.cons hitem .nil
  induction h with
  | nil => exact hcall
  | @cons l rest ls hi hs ih =>
    obtain ⟨hl, hls⟩ := List.forall_mem_cons.mp hn
    obtain ⟨text, call?⟩ := l
    obtain rfl : call? = none := hl
    have hback : text ≠ ['\\'] := by
      rintro rfl
      obtain rfl := hi.eq_nil_of_ending
      exact hend rfl
    have hrest : rest.getLast? ≠ some '\\' := fun hr => hend (by
      rw [List.getLast?_append, hr]
      rfl)
    -- Only a backslash at the end of the text is not read alike before a call.
    rw [List.append_assoc]
    exact .cons (hi.before_any hback _) (ih hls hrest)

lemma segments_append_call (hp : Plain s.toList) (hb : ¬ Blank s.toList)
    (hend : s.toList.getLast? ≠ some '\\') (hc : c.Canonical) :
    segments (s ++ c.text) = .ok [.plain (trimmed s) (s.toList.takeWhile isBlank).length,
      .pseudo c.text s.toList.length c] := by
  obtain ⟨ls, hl, hn⟩ := hp
  have hsplit := hl.append_call hn hend hc
  rw [← String.toList_append] at hsplit
  have hblank : ¬ Blank (s ++ c.text).toList := by
    rw [String.toList_append, blank_append]
    exact fun h => hb h.1
  refine segments_eq_ok_iff.mpr ⟨hblank, _, hsplit, ?_⟩
  rw [gather_append_of_plain hl hn, List.nil_append, gather, plainSegment_of_not_blank hb, gather,
    Nat.zero_add, Nat.zero_add, String.ofList_toList, trimmed]
  rfl

end Selector

namespace Pseudo

open Selector

variable {β : Type} {lib : Library} {home : Nat} {css : String} {c : Call} {op : Operation}

lemma isName_of_builtin {name : String} (hop : builtins.lookup name = some op) :
    IsName name.toList := by
  have hnames : ∀ b ∈ builtins, b.1.toList ≠ [] ∧ b.1.toList.all isNameChar = true := by decide
  obtain ⟨hne, hall⟩ := hnames (name, op) (mem_builtins hop)
  exact ⟨hne, List.all_eq_true.mp hall⟩

lemma resolve_append_builtin (hplain : Plain css.toList) (hb : ¬ Blank css.toList)
    (hend : css.toList.getLast? ≠ some '\\') (hop : builtins.lookup c.name = some op)
    (harguments : ∀ a ∈ c.arguments, a.Canonical) (v : Value) :
    (resolve lib home (.builtin : Registry β) (css ++ c.text) v).outcome =
      (Value.query lib home (.text css) v).bind fun s =>
        applyBuiltin lib op s (argumentValues c.arguments) := by
  have hsegments := segments_append_call hplain hb hend ⟨isName_of_builtin hop, harguments⟩
  rw [resolve_outcome lib home _ _ hsegments, reach_cons, applySegment, Traced.ofExcept,
    Context.value_ofValue, Value.query_trimmed]
  cases Value.query lib home (.text css) v with
  | error fault => rfl
  | ok s =>
    change reach lib home _ _ (.reached s) _ = applyBuiltin lib op s _
    rw [reach_cons, applySegment_builtin _ rfl hop]
    cases applyBuiltin lib op s (argumentValues c.arguments) <;> rfl

end Pseudo

end MarkupQuery
