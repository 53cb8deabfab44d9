import MarkupQuery.Proofs.Pseudo.Composition
import MarkupQuery.Proofs.Selector.RoundTrip

namespace MarkupQuery

open Text

variable {lib : Library} {home : Nat} {css css' : String} {ns : List Node}

namespace Selector

lemma gather_append_of_plain {cs : List Char} {ls : List Lexeme} (h : Split cs ls)
    (hn : ∀ l ∈ ls, l.call? = none) (position : Nat) (plain : List Char) (ms : List Lexeme) :
    gather position plain (ls ++ ms) = gather position (plain ++ cs) ms := by
  induction h generalizing plain with
  | nil => rw [List.nil_append, List.append_nil]
  | @cons l rest ls _ _ ih =>
    obtain ⟨hl, hls⟩ := List.forall_mem_cons.mp hn
    obtain ⟨text, call?⟩ := l
    obtain rfl : call? = none := hl
    rw [List.cons_append, gather, ih hls, List.append_assoc]

lemma plainSegment_of_not_blank {cs : List Char} (hb : ¬ Blank cs) (position : Nat) :
    plainSegment position cs =
      [.plain (String.ofList (trim cs)) (position + (cs.takeWhile isBlank).length)] := by
  have hne : (trim cs).isEmpty = false :=
    List.isEmpty_eq_false_iff.mpr (mt trim_eq_nil_iff.mp hb)
  rw [plainSegment, hne, length_sub_trimStart]
  rfl

lemma segments_of_plain {s : String} (hb : ¬ Blank s.toList) (hp : Plain s.toList) :
    segments s = .ok [.plain (trimmed s) (s.toList.takeWhile isBlank).length] := by
  obtain ⟨ls, hl, hn⟩ := hp
  have hgather := gather_append_of_plain hl hn 0 [] []
  rw [List.append_nil, List.nil_append, gather, plainSegment_of_not_blank hb, Nat.zero_add]
    at hgather
  exact segments_eq_ok_iff.mpr ⟨hb, ls, hl, hgather.symm⟩

end Selector

lemma trimmed_trimmed (s : String) : trimmed (trimmed s) = trimmed s := by
  rw [trimmed, trimmed, String.toList_ofList, trim_trim]

lemma Library.select_trimmed (n : Node) (css : String) :
    lib.select n (trimmed css) = lib.select n css := by
  rw [select, anchored, trimmed_trimmed, ← anchored, ← select]

lemma Library.selectEach_congr (h : ∀ n, lib.select n css = lib.select n css') :
    lib.selectEach css ns = lib.selectEach css' ns := by
  induction ns with
  | nil => rfl
  | cons n ns ih => rw [selectEach, selectEach, h, ih]

lemma Value.query_trimmed (context : Value) :
    query lib home (.text (trimmed css)) context = query lib home (.text css) context := by
  have heach (ns : List Node) : lib.selectEach (trimmed css) ns = lib.selectEach css ns :=
    Library.selectEach_congr fun n => Library.select_trimmed n css
  cases context <;> simp only [query, Library.select_trimmed, heach]

namespace Pseudo

open Selector

variable {β : Type}

lemma Context.value_ofValue (v : Value) : (Context.ofValue v).value = v := by
  cases v <;> rfl

/-- A selector without calls is one plain segment and leads, from any context and with any
handlers, to what the CSS query finds, or fails as the query does. -/
theorem resolve_plain (lib : Library) (home : Nat) (registry : Registry β) (selector : String)
    (context : Value) (hb : ¬ Blank selector.toList) (hp : Plain selector.toList) :
    segments selector =
      .ok [.plain (trimmed selector) (selector.toList.takeWhile isBlank).length] ∧
    (resolve lib home registry selector context).outcome =
      Value.query lib home (.text selector) context := by
  have hs := segments_of_plain hb hp
  refine ⟨hs, ?_⟩
  rw [resolve_outcome lib home registry selector hs, reach_cons, applySegment, Traced.ofExcept,
    Context.value_ofValue, Value.query_trimmed]
  cases Value.query lib home (.text selector) context <;> rfl

theorem resolve_plain_escapes :
    let s := " p\\:q[a=':x]'] "
    let lib : Library := ⟨[⟨.html, [.element "p:q" [("a", .text ":x]")] []]⟩]⟩
    let registry : Registry Unit := .builtin
    ¬ Blank s.toList ∧ Plain s.toList ∧ segments s = .ok [.plain "p\\:q[a=':x]']" 1] ∧
    (resolve lib 0 registry s .none).outcome.map NodeSet.nodes = .ok [⟨0, [0]⟩] ∧
    (resolve lib 0 registry s .none).outcome = Value.query lib 0 (.text s) .none := by
  intro s lib registry
  have hb : ¬ Blank s.toList := not_blank_iff.mpr ⟨'p', by decide +kernel, by decide⟩
  have hp : Plain s.toList := by
    refine ⟨[⟨[' '], none⟩, ⟨['p'], none⟩, ⟨['\\', ':'], none⟩, ⟨['q'], none⟩,
      ⟨['[', 'a', '=', '\'', ':', 'x', ']', '\'', ']'], none⟩, ⟨[' '], none⟩], ?_, by decide⟩
    exact (lexemes_eq_ok_iff 0).mp (by decide +kernel)
  obtain ⟨hs, hquery⟩ := resolve_plain lib 0 registry s .none hb hp
  exact ⟨hb, hp, hs.trans (by decide +kernel), by decide +kernel, hquery⟩

end Pseudo

end MarkupQuery
