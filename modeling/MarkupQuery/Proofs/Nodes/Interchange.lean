import MarkupQuery.Proofs.Nodes.Argument
import MarkupQuery.Proofs.Nodes.Restriction

namespace MarkupQuery

open Markup Pseudo

variable {lib : Library} {home : Nat} {s t : NodeSet} {css : String} {x : Css.Selector}
  {m n : Node}

def Css.Selector.ConsistentAt (lib : Library) (x : Css.Selector) (n : Node) : Prop :=
  Css.select lib x n = (lib.descendantElements n).filter (Css.matchesNode lib x)

lemma Css.Selector.IsSteady.consistentAt (hx : x.isSteady (lib.dialect n.document) = true) :
    x.ConsistentAt lib n := by
  rw [ConsistentAt, select_eq hx]
  refine List.filter_congr fun m hm => ?_
  obtain ⟨hdoc, he⟩ := Library.isElement_of_mem_descendantElements hm
  rw [matchesNode_eq (hdoc ▸ hx), he, Bool.true_and]

namespace Library

lemma isElement_of_matchesNode (h : Css.matchesNode lib x m = true) : lib.isElement m = true :=
  (Bool.and_eq_true_iff.mp h).1

lemma descendantElements_eq_nil (h : lib.isTag n = false) : lib.descendantElements n = [] := by
  refine List.eq_nil_iff_forall_not_mem.mpr fun m hm => ?_
  obtain ⟨habove, htag⟩ := mem_descendantElements_iff.mp hm
  rw [isTag_of_isAncestorOf habove htag] at h
  cases h

lemma mem_descendantElements_root_iff :
    m ∈ lib.descendantElements (.root home) ↔ m.document = home ∧ lib.isElement m = true := by
  constructor
  · exact isElement_of_mem_descendantElements
  · rintro ⟨hd, he⟩
    exact mem_descendantElements.mpr
      ⟨hd, ⟨m.path, (holds_of_isElement he).1, rfl⟩, (Bool.and_eq_true_iff.mp he).2⟩

end Library

namespace Value

lemma admits_text (hcss : Library.selectorOf css = .ok x) (home : Nat) (m : Node) :
    admits lib home (.text css) m = .ok (Css.matchesNode lib x m) := by
  simp only [admits, cssText?, Library.accepts, hcss, Except.map]
  split
  · rfl
  · next h =>
    have hnot : Css.matchesNode lib x m = false := by
      simp [Css.matchesNode, Library.isElement, h]
    rw [hnot]

lemma exists_query_text (hread : Library.selectorOf (Library.anchored css) = .ok x)
    (hroot : x.ConsistentAt lib (.root home)) :
    ∃ t : NodeSet, query lib home (.text css) .none = .ok t ∧ t.home = home ∧
      ∀ m, m ∈ t.nodes ↔ m.document = home ∧ Css.matchesNode lib x m = true := by
  have hselect : lib.select (.root home) css = .ok (Css.select lib x (.root home)) := by
    rw [Library.select, hread, Except.map]
  refine ⟨_, by rw [query, hselect, Except.map], rfl, fun m => ?_⟩
  rw [NodeSet.mem_ofList, hroot, List.mem_filter, Library.mem_descendantElements_root_iff]
  constructor
  · rintro ⟨⟨hd, -⟩, hm⟩
    exact ⟨hd, hm⟩
  · rintro ⟨hd, hm⟩
    exact ⟨⟨hd, Library.isElement_of_matchesNode hm⟩, hm⟩

end Value

namespace NodeSet

lemma has_text (hread : Library.selectorOf (Library.anchored css) = .ok x)
    (hat : ∀ n ∈ s.nodes, x.ConsistentAt lib n) : s.has lib (.text css) =
      .ok (.ofList s.home (s.nodes.filter fun n =>
        (lib.descendantElements n).any (Css.matchesNode lib x))) := by
  have htest : ∀ n ∈ s.nodes, (if lib.isTag n then (lib.select n css).map (!·.isEmpty)
      else .ok false) = .ok ((lib.descendantElements n).any (Css.matchesNode lib x)) := by
    intro n hn
    split
    · rw [Library.select, hread, Except.map, Except.map, hat n hn, Except.ok.injEq, Bool.eq_iff_iff]
      simp
    · next h => rw [Library.descendantElements_eq_nil (by simpa using h), List.any_nil]
  rw [has_of_css rfl, keep_eq_filter htest]
  rfl

lemma has_text_eq_has_set (hread : Library.selectorOf (Library.anchored css) = .ok x)
    (hat : ∀ n ∈ s.nodes, x.ConsistentAt lib n) (hs : ∀ n ∈ s.nodes, n.document = home)
    (ht : ∀ m, m ∈ t.nodes ↔ m.document = home ∧ Css.matchesNode lib x m = true) :
    s.has lib (.text css) = s.has lib (.set t) := by
  rw [has_text hread hat, has_set]
  refine congrArg (fun ns => Except.ok (ofList s.home ns)) (List.filter_congr fun n hn => ?_)
  rw [Bool.eq_iff_iff, List.any_eq_true, List.any_eq_true]
  constructor
  · rintro ⟨m, hm, hmatch⟩
    have hdoc := (Library.mem_descendantElements.mp hm).1.trans (hs n hn)
    exact ⟨m, (ht m).mpr ⟨hdoc, hmatch⟩, (Library.mem_descendantElements_iff.mp hm).1⟩
  · rintro ⟨m, hm, habove⟩
    have hmatch := ((ht m).mp hm).2
    have htag := (Bool.and_eq_true_iff.mp (Library.isElement_of_matchesNode hmatch)).2
    exact ⟨m, Library.mem_descendantElements_iff.mpr ⟨habove, htag⟩, hmatch⟩

end NodeSet

namespace Pseudo

/-- A selector text and the set of nodes that it denotes in the document lead every operation to the
same nodes. The text must be read in the same way by a query, which cuts the blanks around it, as by
a test of single nodes; and what the selector finds below the root, and for `has` below the members
of the set, must be what it accepts there, node by node. -/
theorem Operation.apply_text_eq_apply_query (lib : Library) (home : Nat) (s : NodeSet)
    (css : String) (x : Css.Selector) (op : Operation) (hop : op ∈ selecting)
    (hhome : s.home = home) (hs : ∀ n ∈ s.nodes, n.document = home)
    (hcss : Library.selectorOf css = .ok x)
    (hread : Library.selectorOf (Library.anchored css) = .ok x)
    (hroot : x.ConsistentAt lib (.root home))
    (hhas : op = .has → ∀ n ∈ s.nodes, x.ConsistentAt lib n) :
    ∃ t u : NodeSet, Value.query lib home (.text css) .none = .ok t ∧
      op.apply lib s [.text css] = .ok u ∧ op.apply lib s [.set t] = .ok u := by
  subst hhome
  have hfails : (Value.text css).FailsIn fun _ => False := ⟨hcss ▸ .ok x, hread ▸ .ok x⟩
  obtain ⟨t, hquery, hhome, ht⟩ := Value.exists_query_text hread hroot
  have hset : (Value.set t).IsNodes lib := trivial
  have hnodes : (Value.set t).nodeSet lib s.home = .ok t := Value.nodeSet_set hhome
  have heq : op.apply lib s [.text css] = op.apply lib s [.set t] := by
    refine apply_congr hop (by simp) (by simp) ?_ (fun h => ?_) fun _ => ?_
    · -- Only nodes of the document are tested, and the set has just those that the text accepts.
      rintro m ⟨n, hn, hdoc⟩
      rw [Value.admits_text hcss, hset.admits_eq, hnodes, Except.map]
      refine congrArg Except.ok (Bool.eq_iff_iff.mpr ?_)
      rw [List.contains_iff_mem, ht, and_iff_right (hdoc.trans (hs n hn))]
    · exact NodeSet.has_text_eq_has_set hread (hhas h) hs ht
    · rw [NodeSet.add_of_given (by simp), NodeSet.add_of_given (by simp), hquery, hset.query_eq,
        hnodes]
  obtain ⟨u, hu⟩ : ∃ u, op.apply lib s [.text css] = .ok u := (faults_apply hop hfails).exists_ok
  exact ⟨t, u, hquery, hu, heq.symm.trans hu⟩

theorem Operation.apply_text_eq_apply_query_blanks :
    let lib : Library := ⟨[⟨.html, [.element "div" [] [
      .element "p" [] [.element "b" [] []], .text "b", .element "b" [] []]]⟩]⟩
    let s : NodeSet := .ofList 0 [⟨0, [0, 1]⟩, ⟨0, [0, 0]⟩, ⟨0, []⟩]
    ∃ t u : NodeSet, Value.query lib 0 (.text " b ") .none = .ok t ∧
      Operation.has.apply lib s [.text " b "] = .ok u ∧
      Operation.has.apply lib s [.set t] = .ok u ∧ u.nodes = [⟨0, [0, 0]⟩, ⟨0, []⟩] := by
  intro lib s
  have hcss : Library.selectorOf " b " = .ok [.compound [.type .any (some "b")]] := by
    with_unfolding_all rfl
  have hread : Library.selectorOf (Library.anchored " b ") =
      .ok [.compound [.type .any (some "b")]] := by
    with_unfolding_all rfl
  have hat (n : Node) : Css.Selector.ConsistentAt lib [.compound [.type .any (some "b")]] n :=
    Css.Selector.IsSteady.consistentAt rfl
  obtain ⟨t, u, hquery, htext, hset⟩ := apply_text_eq_apply_query lib 0 s " b " _ .has (by decide)
    rfl (by decide) hcss hread (hat _) fun _ n _ => hat n
  have hnodes : (Operation.has.apply lib s [.text " b "]).map NodeSet.nodes =
      .ok [⟨0, [0, 0]⟩, ⟨0, []⟩] := by decide +kernel
  rw [htext] at hnodes
  exact ⟨t, u, hquery, htext, hset, Except.ok.inj hnodes⟩

-- An escaped blank at the end of a text is read where nodes are tested by it, but cut where it is
-- asked of the document.
theorem Operation.not_apply_text_eq_apply_query :
    let lib : Library :=
      ⟨[⟨.html, [.element "div" [] [.element "p" [("id", .text "a ")] []]]⟩]⟩
    let s : NodeSet := .ofList 0 [⟨0, [0, 0]⟩]
    let css := "#a\\ "
    (∃ x, Library.selectorOf css = .ok x ∧ ∀ n, x.ConsistentAt lib n) ∧
      ¬ ":scope".toList <:+: css.toList ∧ '&' ∉ css.toList ∧
      (∀ c ∈ css.toList.head?, c ≠ '>' ∧ c ≠ '+' ∧ c ≠ '~') ∧
      ¬ ∀ t : NodeSet, Value.query lib 0 (.text css) .none = .ok t →
        Operation.filter.apply lib s [.text css] = Operation.filter.apply lib s [.set t] := by
  intro lib s css
  have hread : (Library.selectorOf css).map (Css.Selector.isSteady .html) = .ok true := by
    decide +kernel
  obtain ⟨x, hcss, hsteady⟩ := exists_of_map hread
  have hhtml (d : Nat) : lib.dialect d = .html := by cases d <;> rfl
  have hhead : css.toList.head? = some '#' := by decide +kernel
  refine ⟨⟨x, hcss, fun n => Css.Selector.IsSteady.consistentAt (hhtml n.document ▸ hsteady)⟩,
    by decide +kernel, by decide +kernel, by simp [hhead], fun h => ?_⟩
  have hselect : lib.select (.root 0) css = .ok [] := by decide +kernel
  have hquery : Value.query lib 0 (.text css) .none = .ok (.ofList 0 []) := by
    rw [Value.query, hselect, Except.map]
  have htext : (Operation.filter.apply lib s [.text css]).map NodeSet.nodes =
      .ok [⟨0, [0, 0]⟩] := by decide +kernel
  have hset : (Operation.filter.apply lib s [.set (.ofList 0 [])]).map NodeSet.nodes = .ok [] := by
    decide +kernel
  rw [h _ hquery, hset] at htext
  cases htext

end Pseudo

end MarkupQuery
