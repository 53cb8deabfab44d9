import MarkupQuery.Proofs.Css.Grouped
import MarkupQuery.Proofs.Nodes.Combinators
import MarkupQuery.Proofs.Nodes.Filtered
import MarkupQuery.Proofs.Nodes.Interchange
import MarkupQuery.Proofs.Text.Blank

namespace MarkupQuery

open Css Text

variable {lib : Library} {home : Nat} {css css' inner : String} {s t : NodeSet} {v : Value}
  {ns : List Node} {m n : Node} {x y : Css.Selector} {cs : List Char} {c : Char}

namespace Css

-- A text without commas and colons that ends neither with a blank nor with a backslash, nor with a
-- comment.
structure IsExtensible (css : String) : Prop where
  comma : ',' ∉ css.toList
  colon : ':' ∉ css.toList
  ending : ∃ c ∈ css.toList.getLast?, isBlank c = false ∧ c ≠ '\\'
  comment : ¬ ['*', '/'] <:+ css.toList

-- A compound that can stand between the parentheses of a group or a call as it is.
structure IsBare (css : String) : Prop where
  compound : IsCompound css
  ordinary : ∀ c ∈ css.toList, c ∉ [',', '(', ')', ':', '\\'] ∧ isGap c = false
  trimmed : trimmed css = css

lemma isGap_withoutNull (c : Char) : isGap (withoutNull c) = isGap c := by
  rw [withoutNull]
  split
  · next hc =>
    obtain rfl : c = Char.ofNat 0 := Char.ext (UInt32.toNat_inj.mp hc)
    decide
  · rfl

lemma notMem_withoutNull (hc : c ≠ replacement) (h : c ∉ cs) : c ∉ cs.map withoutNull := by
  intro hmem
  obtain ⟨d, hd, hdc⟩ := List.mem_map.mp hmem
  exact h (eq_of_withoutNull hdc hc ▸ hd)

lemma Finished.withoutNull (h : Finished cs) : Finished (cs.map withoutNull) := by
  intro c hc
  rw [List.getLast?_map] at hc
  obtain ⟨d, hd, rfl⟩ := Option.map_eq_some_iff.mp hc
  refine ⟨fun hback => (h d hd).1 (eq_of_withoutNull hback (by decide)), ?_⟩
  rw [isGap_withoutNull]
  exact (h d hd).2

lemma comment_suffix_of_withoutNull (h : ['*', '/'] <:+ cs.map withoutNull) :
    ['*', '/'] <:+ cs := by
  obtain ⟨ds, hds⟩ := h
  obtain ⟨body, ending, rfl, -, hending⟩ := List.map_eq_append_iff.mp hds.symm
  obtain ⟨a, ending, rfl, ha, hending⟩ := List.map_eq_cons_iff.mp hending
  obtain ⟨b, ending, rfl, hb, hending⟩ := List.map_eq_cons_iff.mp hending
  obtain rfl := List.map_eq_nil_iff.mp hending
  obtain rfl := eq_of_withoutNull ha (by decide)
  obtain rfl := eq_of_withoutNull hb (by decide)
  exact List.suffix_append _ _

lemma comment_suffix_of_scope (h : ['*', '/'] <:+ ":scope ".toList ++ cs) (hcs : cs ≠ []) :
    ['*', '/'] <:+ cs := by
  rcases List.suffix_or_suffix_of_suffix h (List.suffix_append _ cs) with hin | hin
  · exact hin
  rcases List.suffix_cons_iff.mp hin with rfl | hin
  · exact List.suffix_rfl
  rcases List.suffix_cons_iff.mp hin with rfl | hin
  · exact absurd h (by decide)
  · exact absurd (List.suffix_nil.mp hin) hcs

namespace IsExtensible

lemma exists_head (h : IsExtensible css) :
    ∃ c ∈ (trimmed css).toList.head?, isBlank c = false := by
  obtain ⟨d, hd, hblank, -⟩ := h.ending
  have hne : trim css.toList ≠ [] := fun hnil => by
    have hb := trim_eq_nil_iff.mp hnil d (List.mem_of_getLast? hd)
    rw [hblank] at hb
    cases hb
  obtain ⟨c, cs, hcs⟩ := List.exists_cons_of_ne_nil hne
  have htrim : trim (c :: cs) = c :: cs := by rw [← hcs, trim_trim]
  exact ⟨c, by simp [trimmed, hcs], not_isBlank_of_trim_cons htrim⟩

lemma trimmed_suffix (h : IsExtensible css) : (trimmed css).toList <:+ css.toList := by
  obtain ⟨d, hd, hblank, -⟩ := h.ending
  rw [trimmed, String.toList_ofList, trim_of_getLast? hd hblank]
  exact List.dropWhile_suffix _

lemma finished_trimmed (h : IsExtensible css) : Finished (trimmed css).toList := by
  obtain ⟨d, hd, hblank, hback⟩ := h.ending
  have hlast : d ∈ (trimmed css).toList.getLast? := by
    rw [trimmed, String.toList_ofList, trim_of_getLast? hd hblank]
    exact getLast?_trimStart hd hblank
  intro c hc
  obtain rfl := Option.mem_unique hlast hc
  exact ⟨hback, isGap_eq_false_of_isBlank hblank⟩

end IsExtensible

namespace IsBare

lemma notMem (h : IsBare css) (hc : c ∈ [',', '(', ')', ':', '\\']) : c ∉ css.toList :=
  fun hmem => (h.ordinary c hmem).1 hc

lemma finished (h : IsBare css) : Finished css.toList := by
  intro c hc
  obtain ⟨hordinary, hgap⟩ := h.ordinary c (List.mem_of_getLast? hc)
  refine ⟨?_, hgap⟩
  rintro rfl
  exact hordinary (by decide)

lemma whole (h : IsBare css) : Whole (css.toList.map withoutNull) :=
  whole_of_compound h.compound h.finished.withoutNull
    (notMem_withoutNull (by decide) (h.notMem (by decide)))
    (notMem_withoutNull (by decide) (h.notMem (by decide)))

end IsBare

end Css

namespace Library

lemma anchored_eq_ite (h : c ∈ (trimmed css).toList.head?) :
    anchored css = if c ∈ ['>', '+', '~'] then ":scope " ++ trimmed css else trimmed css := by
  obtain ⟨cs, hcs⟩ := List.head?_eq_some_iff.mp h
  rw [anchored]
  simp only [hcs]
  split
  · next hc => simp [(List.cons.inj hc).1]
  · next hc => simp [(List.cons.inj hc).1]
  · next hc => simp [(List.cons.inj hc).1]
  · next hgreater hplus htilde =>
    have hc : c ∉ ['>', '+', '~'] := by
      simp only [List.mem_cons, List.not_mem_nil, or_false]
      rintro (rfl | rfl | rfl)
      · exact hgreater cs rfl
      · exact hplus cs rfl
      · exact htilde cs rfl
    rw [if_neg hc]

lemma anchored_append (hcss : IsExtensible css) (hc : c ∈ inner.toList.getLast?)
    (h : isBlank c = false) : anchored (css ++ inner) = anchored css ++ inner := by
  obtain ⟨d, hd, hblank, -⟩ := hcss.ending
  have htrim : trimmed (css ++ inner) = trimmed css ++ inner := by
    rw [trimmed, String.toList_append, trim_append_of_getLast? hd hblank hc h, trimmed]
    simp
  obtain ⟨b, hb⟩ := hcss.exists_head
  have hb' : b ∈ (trimmed (css ++ inner)).toList.head? := by
    rw [htrim, String.toList_append, List.head?_append, hb.1]
    rfl
  rw [anchored_eq_ite hb.1, anchored_eq_ite hb', htrim]
  split
  · rw [String.append_assoc]
  · rfl

lemma anchored_text (hcss : IsExtensible css) :
    let cs := (anchored css).toList.map withoutNull
    Anchored cs ∧ ',' ∉ cs ∧ Finished cs ∧ ¬ ['*', '/'] <:+ cs := by
  intro cs
  obtain ⟨b, hb, hblank⟩ := hcss.exists_head
  have hsub {a : Char} (ha : a ≠ replacement) (h : a ∉ css.toList) :
      a ∉ (trimmed css).toList.map withoutNull := by
    refine notMem_withoutNull ha fun hmem => h (mem_of_mem_trim ?_)
    simpa [trimmed] using hmem
  have hcolon := hsub (by decide) hcss.colon
  have hcomma := hsub (by decide) hcss.comma
  have hend := hcss.finished_trimmed
  have hcomment : ¬ ['*', '/'] <:+ (trimmed css).toList.map withoutNull := fun h =>
    hcss.comment ((comment_suffix_of_withoutNull h).trans hcss.trimmed_suffix)
  have hanchored := anchored_eq_ite hb
  split at hanchored
  · have hcs : cs = ":scope ".toList ++ (trimmed css).toList.map withoutNull := by
      have hscope : ":scope ".toList.map withoutNull = ":scope ".toList := by decide
      rw [← hscope, ← List.map_append, ← String.toList_append, ← hanchored]
    have hne : (trimmed css).toList.map withoutNull ≠ [] := by
      rw [ne_eq, List.map_eq_nil_iff]
      exact List.ne_nil_of_mem (List.mem_of_head? hb)
    refine ⟨hcs ▸ .afterScope hcolon, ?_, ?_, ?_⟩
    · rw [hcs]
      simpa using hcomma
    · intro c hc
      rw [hcs, List.getLast?_append_of_ne_nil _ hne] at hc
      exact hend.withoutNull c hc
    · rw [hcs]
      exact fun h => hcomment (comment_suffix_of_scope h hne)
  · have hcs : cs = (trimmed css).toList.map withoutNull := by rw [← hanchored]
    exact hcs ▸ ⟨.plain hcolon, hcomma, hend.withoutNull, hcomment⟩

lemma anchored_of_bare (h : IsBare css) : anchored css = css := by
  have hhead : ∀ c ∈ (trimmed css).toList.head?, c ≠ '>' ∧ c ≠ '+' ∧ c ≠ '~' := by
    rw [h.trimmed]
    intro c hc
    obtain ⟨cs, hcs⟩ := List.head?_eq_some_iff.mp hc
    have hcompound := h.compound
    rw [IsCompound, hcs, List.map_cons] at hcompound
    have hsign := hcompound.notMem_signs
    refine ⟨?_, ?_, ?_⟩ <;> rintro rfl <;> exact hsign (by decide)
  rw [anchored_eq_trimmed hhead, h.trimmed]

lemma select_append_group (g : Group) (hcss : IsExtensible css)
    (hx : selectorOf (anchored css) = .ok x) (hinner : IsBare inner)
    (hy : selectorOf inner = .ok y) (hsteady : y.isSteady (lib.dialect n.document) = true) :
    lib.select n (css ++ g.around inner) =
      (lib.select n css).map fun found => found.filter (g.judges lib y) := by
  obtain ⟨hanchored, hcomma, hend, hcomment⟩ := anchored_text hcss
  obtain ⟨x', hx', hselect⟩ := Selector.exists_ofText_append_group g hanchored hcomma hend hcomment
    (selectorOf_eq_ok_iff.mp hx) hinner.compound hinner.whole (selectorOf_eq_ok_iff.mp hy)
  have htext : (g.around inner).toList = ':' :: (g.name ++ '(' :: inner.toList) ++ [')'] := by
    simp [Group.around]
  have hclose : ')' ∈ (g.around inner).toList.getLast? := htext ▸ List.getLast?_concat
  rw [select, anchored_append hcss hclose (by decide), selectorOf_eq_ok_iff.mpr hx', select, hx]
  exact congrArg Except.ok (hselect lib n hsteady)

end Library

namespace NodeSet

lemma ofList_filter (home : Nat) (p : Node → Bool) (ns : List Node) :
    ofList home (ns.filter p) = ofList home ((ofList home ns).nodes.filter p) := by
  refine eq_of_nodes rfl ?_
  change firsts (ns.filter p) = firsts ((firsts ns).filter p)
  rw [firsts_filter, firsts_eq_self ((nodup_firsts ns).filter p)]

end NodeSet

namespace Library

lemma selectEach_filter {p : Node → Bool}
    (h : ∀ n ∈ ns, lib.select n css' = (lib.select n css).map fun found => found.filter p) :
    lib.selectEach css' ns = (lib.selectEach css ns).map fun found => found.filter p := by
  induction ns with
  | nil => rfl
  | cons n ns ih =>
    obtain ⟨hn, hns⟩ := List.forall_mem_cons.mp h
    rw [selectEach, selectEach, hn, ih hns]
    cases lib.select n css with
    | error fault => rfl
    | ok found =>
      cases lib.selectEach css ns with
      | error fault => rfl
      | ok rest => exact congrArg Except.ok (List.filter_append _ _).symm

end Library

namespace Value

-- Whether a query with the context looks below the node.
def Asks (lib : Library) (home : Nat) (context : Value) (n : Node) : Prop :=
  match context with
  | .none => n = .root home
  | context => ∃ ns, context.scope lib home = .ok ns ∧ n ∈ ns

lemma query_filter {p : Node → Bool} {context : Value} (h : ∀ n, context.Asks lib home n →
      lib.select n css' = (lib.select n css).map fun found => found.filter p) :
    query lib home (.text css') context =
      (query lib home (.text css) context).map fun s => .ofList home (s.nodes.filter p) := by
  cases context with
  | none =>
    rw [query, query, h _ rfl]
    cases lib.select (.root home) css with
    | error fault => rfl
    | ok found => exact congrArg Except.ok (NodeSet.ofList_filter home p found)
  | _ =>
    simp only [query]
    split
    · rfl
    · next ns hns =>
      rw [Library.selectEach_filter fun n hn => h n ⟨ns, hns, hn⟩]
      cases lib.selectEach css ns with
      | error fault => rfl
      | ok found =>
        have hsorted : NodeSet.ofList home (NodeSet.sorted home (found.filter p)) = .ofList home
            ((NodeSet.ofList home (NodeSet.sorted home found)).nodes.filter p) := by
          rw [NodeSet.sorted_filter, NodeSet.ofList_filter]
        exact congrArg Except.ok hsorted

lemma exists_asks_of_mem_query {context : Value} (h : query lib home (.text css) context = .ok s)
    (hn : n ∈ s.nodes) : ∃ m, context.Asks lib home m ∧ n ∈ lib.descendantElements m := by
  cases context with
  | none =>
    obtain ⟨found, hselect, rfl⟩ := exists_of_map h
    exact ⟨_, rfl, (Library.select_sublist hselect).subset (NodeSet.mem_ofList.mp hn)⟩
  | _ =>
    simp only [query] at h
    split at h
    · cases h
    · next ns hns =>
      obtain ⟨found, hselect, rfl⟩ := exists_of_map h
      obtain ⟨m, hm, below, hbelow, hn⟩ :=
        (Library.mem_selectEach hselect).mp (NodeSet.mem_ofList_sorted.mp hn)
      exact ⟨m, ⟨ns, hns, hm⟩, (Library.select_sublist hbelow).subset hn⟩

end Value

def Css.Group.operation : Group → Pseudo.Operation
  | .anyOf => .filter
  | .noneOf => .exclude
  | .has => .has

lemma Pseudo.Operation.apply_group (g : Group) (hinner : IsBare inner)
    (hy : Library.selectorOf inner = .ok y) (hs : ∀ n ∈ s.nodes,
      lib.isElement n = true ∧ y.isSteady (lib.dialect n.document) = true) :
    g.operation.apply lib s [.text inner] =
      .ok (.ofList s.home (s.nodes.filter (g.judges lib y))) := by
  have hmatch {n : Node} (hn : lib.isElement n = true)
      (hsteady : y.isSteady (lib.dialect n.document) = true) :
      matchesNode lib y n = y.judges lib n := by
    rw [Selector.IsSteady.matchesNode_eq hsteady, hn, Bool.true_and]
  have hadmits : ∀ n ∈ s.nodes, (Value.text inner).admits lib s.home n = .ok (y.judges lib n) :=
    fun n hn => by rw [Value.admits_text hy, hmatch (hs n hn).1 (hs n hn).2]
  cases g with
  | anyOf =>
    have hfilter : s.filter lib (.text inner) = _ :=
      (NodeSet.filter_of_given (by simp)).trans (by rw [keep_eq_filter hadmits])
    exact hfilter
  | noneOf =>
    have hrefused : ∀ n ∈ s.nodes,
        ((Value.text inner).admits lib s.home n).map (!·) = .ok (!y.judges lib n) :=
      fun n hn => by rw [hadmits n hn]; rfl
    have hexclude : s.exclude lib (.text inner) = _ :=
      (NodeSet.exclude_of_given (by simp)).trans (by rw [keep_eq_filter hrefused])
    exact hexclude
  | has =>
    have hread : Library.selectorOf (Library.anchored inner) = .ok y := by
      rwa [Library.anchored_of_bare hinner]
    have hany : ∀ n ∈ s.nodes, Group.judges lib .has y n =
        (lib.descendantElements n).any (matchesNode lib y) := by
      intro n hn
      rw [Group.judges, Bool.eq_iff_iff, List.any_eq_true, List.any_eq_true]
      refine exists_congr fun m => and_congr_right fun hm => ?_
      obtain ⟨hdoc, he⟩ := Library.isElement_of_mem_descendantElements hm
      rw [hmatch he (hdoc ▸ (hs n hn).2)]
    rw [List.filter_congr hany]
    exact NodeSet.has_text hread fun n hn => Selector.IsSteady.consistentAt (hs n hn).2

end MarkupQuery
