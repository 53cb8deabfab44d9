import MarkupQuery.Proofs.Css.Steady
import MarkupQuery.Proofs.Nodes.Locality

namespace MarkupQuery

open Markup Text

variable {lib : Library} {home : Nat} {css : String} {s : Css.Selector} {t : NodeSet}
  {v : Value} {ns ms : List Node} {m n : Node}

namespace Library

lemma eq_of_sublist_preorder (hn : ns.Sublist (lib.preorder home))
    (hm : ms.Sublist (lib.preorder home)) (h : ∀ x, x ∈ ns ↔ x ∈ ms) : ns = ms :=
  eq_of_pairwise (fun _ _ h => h.asymm) (pairwise_preorder.sublist hn)
    (pairwise_preorder.sublist hm) h

lemma mem_descendantElements_iff :
    m ∈ lib.descendantElements n ↔ n.isAncestorOf m = true ∧ lib.isTag m = true := by
  rw [mem_descendantElements, Node.isAncestorOf_iff, and_assoc]

lemma isTag_of_isAncestorOf (h : n.isAncestorOf m = true) (hm : lib.isTag m = true) :
    lib.isTag n = true := by
  obtain ⟨hd, r, hr, hpath⟩ := Node.isAncestorOf_iff.mp h
  obtain ⟨i, r, rfl⟩ := List.exists_cons_of_ne_nil hr
  obtain ⟨document, path⟩ := m
  obtain rfl : document = n.document := hd
  obtain rfl : path = n.path ++ i :: r := hpath
  rw [isTag, tree?_append] at hm
  rw [isTag]
  cases ht : lib.tree? n with
  | none => simp [ht] at hm
  | some t => cases t <;> simp_all [Tree.descend, Tree.children, Tree.isElement]

lemma mem_descendantElements_root (h : n.document = home) (hm : m ∈ lib.descendantElements n) :
    m ∈ lib.descendantElements (.root home) := by
  obtain ⟨hd, ⟨r, hr, hpath⟩, htag⟩ := mem_descendantElements.mp hm
  exact mem_descendantElements.mpr ⟨hd.trans h, ⟨m.path, by simp [hpath, hr], rfl⟩, htag⟩

lemma descendantElements_sublist_preorder (h : n.document = home) :
    (lib.descendantElements n).Sublist (lib.preorder home) := by
  refine sublist_preorder (fun m hm => ?_) pairwise_descendantElements
  obtain ⟨hd, he⟩ := isElement_of_mem_descendantElements hm
  exact mem_preorder_of_isElement (hd.trans h) he

lemma selectEach_eq {f : Node → List Node} (h : ∀ n ∈ ns, lib.select n css = .ok (f n)) :
    lib.selectEach css ns = .ok (ns.flatMap f) := by
  induction ns with
  | nil => rfl
  | cons n ns ih =>
    obtain ⟨hn, hns⟩ := List.forall_mem_cons.mp h
    rw [selectEach, hn, ih hns]
    rfl

lemma anchored_eq_trimmed (h : ∀ c ∈ (trimmed css).toList.head?, c ≠ '>' ∧ c ≠ '+' ∧ c ≠ '~') :
    anchored css = trimmed css := by
  simp only [anchored]
  split
  · next rest hcss => simp [hcss] at h
  · next rest hcss => simp [hcss] at h
  · next rest hcss => simp [hcss] at h
  · rfl

lemma select_of_steady (hcss : selectorOf (anchored css) = .ok s)
    (hs : s.isSteady (lib.dialect n.document) = true) :
    lib.select n css = .ok ((lib.descendantElements n).filter (s.judges lib)) := by
  rw [select, hcss, Except.map, Css.Selector.IsSteady.select_eq hs]

end Library

lemma NodeSet.eq_of_nodes {s t : NodeSet} (hhome : s.home = t.home) (hnodes : s.nodes = t.nodes) :
    s = t := by
  obtain ⟨home, nodes, _⟩ := s
  obtain ⟨home', nodes', _⟩ := t
  obtain rfl : home = home' := hhome
  obtain rfl : nodes = nodes' := hnodes
  rfl

lemma NodeSet.ofList_sorted_congr (hns : ns ⊆ lib.preorder home) (h : ∀ m, m ∈ ns ↔ m ∈ ms) :
    NodeSet.ofList home (sorted home ns) = .ofList home (sorted home ms) := by
  have hms : ms ⊆ lib.preorder home := fun m hm => hns ((h m).mpr hm)
  refine NodeSet.eq_of_nodes rfl ?_
  rw [ofList_sorted_nodes hns, ofList_sorted_nodes hms]
  refine Library.eq_of_sublist_preorder (sorted_sublist_preorder hns) (sorted_sublist_preorder hms)
    fun m => ?_
  rw [mem_sorted, mem_sorted, h]

namespace Value

lemma query_of_nodeSet (hv : v ≠ .none) (h : v.nodeSet lib home = .ok t) (css : String) :
    query lib home (.text css) v = (lib.selectEach css (t.nodes.filter lib.isTag)).map fun found =>
      .ofList home (NodeSet.sorted home found) := by
  have hscope := scope_of_nodeSet h
  cases v
  case none => exact absurd rfl hv
  all_goals simp only [query, hscope]

lemma exists_query_below {p : Node → Bool}
    (hselect : ∀ n, n.document = home →
      lib.select n css = .ok ((lib.descendantElements n).filter p))
    (hv : v ≠ .none) (ht : v.nodeSet lib home = .ok t) (hhome : ∀ n ∈ t.nodes, n.document = home) :
    ∃ found, query lib home (.text css) v = .ok found ∧ found.home = home ∧
      found.nodes = ((lib.descendantElements (.root home)).filter p).filter fun m =>
        t.nodes.any fun n => n.isAncestorOf m := by
  rw [query_of_nodeSet hv ht,
    Library.selectEach_eq fun n hn => hselect n (hhome n (List.mem_filter.mp hn).1)]
  refine ⟨_, rfl, rfl, ?_⟩
  have hraw (m : Node) : m ∈ (t.nodes.filter lib.isTag).flatMap (fun n =>
      (lib.descendantElements n).filter p) ↔
        m ∈ ((lib.descendantElements (.root home)).filter p).filter fun m =>
          t.nodes.any fun n => n.isAncestorOf m := by
    simp only [List.mem_flatMap, List.mem_filter, List.any_eq_true]
    constructor
    · rintro ⟨n, ⟨hn, -⟩, hm, hp⟩
      have habove := (Library.mem_descendantElements_iff.mp hm).1
      exact ⟨⟨Library.mem_descendantElements_root (hhome n hn) hm, hp⟩, n, hn, habove⟩
    · rintro ⟨⟨hm, hp⟩, n, hn, habove⟩
      have htag := (Library.mem_descendantElements_iff.mp hm).2
      exact ⟨n, ⟨hn, Library.isTag_of_isAncestorOf habove htag⟩,
        Library.mem_descendantElements_iff.mpr ⟨habove, htag⟩, hp⟩
  have hsub : (((lib.descendantElements (.root home)).filter p).filter fun m =>
      t.nodes.any fun n => n.isAncestorOf m).Sublist (lib.preorder home) :=
    (List.filter_sublist.trans List.filter_sublist).trans
      (Library.descendantElements_sublist_preorder rfl)
  have hpre : (t.nodes.filter lib.isTag).flatMap (fun n => (lib.descendantElements n).filter p) ⊆
      lib.preorder home := fun m hm => hsub.subset ((hraw m).mp hm)
  rw [NodeSet.ofList_sorted_nodes hpre]
  refine Library.eq_of_sublist_preorder (NodeSet.sorted_sublist_preorder hpre) hsub fun m => ?_
  rw [NodeSet.mem_sorted, hraw]

/-- A query from a context finds, of what the query finds in the document, what lies below a node
of the context, once each and in document order; from the whole document it finds all. The selector
must judge each node by itself, and its text without the blanks around it begins with no
combinator. -/
theorem query_eq_restriction (lib : Library) (home : Nat) (css : String) (s : Css.Selector)
    (context : Value) (t : NodeSet) (hcss : Library.selectorOf (trimmed css) = .ok s)
    (hstart : ∀ c ∈ (trimmed css).toList.head?, c ≠ '>' ∧ c ≠ '+' ∧ c ≠ '~')
    (hsteady : s.isSteady (lib.dialect home) = true) (hcontext : context ≠ .none)
    (ht : context.nodeSet lib home = .ok t) (hhome : ∀ n ∈ t.nodes, n.document = home) :
    ∃ all found : NodeSet,
      query lib home (.text css) .none = .ok all ∧ query lib home (.text css) context = .ok found ∧
      found.nodes = all.nodes.filter (fun m => t.nodes.any fun n => n.isAncestorOf m) ∧
      found.nodes.Sublist (lib.preorder home) ∧
      query lib home (.text css) (.document home) = .ok all ∧
      query lib home (.text css) (.node (.root home)) = .ok all := by
  have hselect (n : Node) (hn : n.document = home) :
      lib.select n css = .ok ((lib.descendantElements n).filter (s.judges lib)) :=
    Library.select_of_steady (Library.anchored_eq_trimmed hstart ▸ hcss) (hn ▸ hsteady)
  let all : List Node := (lib.descendantElements (.root home)).filter (s.judges lib)
  have hsub : all.Sublist (lib.preorder home) :=
    List.filter_sublist.trans (Library.descendantElements_sublist_preorder rfl)
  have hall : (NodeSet.ofList home all).nodes = all :=
    firsts_eq_self (Library.nodup_preorder.sublist hsub)
  have hglobal : query lib home (.text css) .none = .ok (.ofList home all) := by
    simp only [query, hselect (.root home) rfl, Except.map]
    rfl
  -- Every node that is found in the document lies below its root.
  have hwhole (v : Value) (hv : v ≠ .none)
      (hroot : v.nodeSet lib home = .ok (.ofList home [.root home])) :
      query lib home (.text css) v = .ok (.ofList home all) := by
    have hmem : ∀ n ∈ (NodeSet.ofList home [.root home]).nodes, n.document = home := by
      intro n hn
      rw [List.mem_singleton.mp (NodeSet.mem_ofList.mp hn)]
      rfl
    obtain ⟨found, hfound, hat, hnodes⟩ := exists_query_below hselect hv hroot hmem
    rw [hfound]
    refine congrArg Except.ok (NodeSet.eq_of_nodes hat ?_)
    rw [hnodes, hall, List.filter_eq_self]
    intro m hm
    have habove := (Library.mem_descendantElements_iff.mp (List.mem_filter.mp hm).1).1
    simp [NodeSet.ofList, firsts, habove]
  obtain ⟨found, hfound, -, hnodes⟩ := exists_query_below hselect hcontext ht hhome
  refine ⟨.ofList home all, found, hglobal, hfound, by rw [hnodes, hall], ?_,
    hwhole _ (by simp) rfl, hwhole _ (by simp) rfl⟩
  rw [hnodes]
  exact List.filter_sublist.trans hsub

theorem query_eq_restriction_nested :
    let lib : Library := ⟨[⟨.html, [.element "div" [] [
      .element "p" [] [.element "b" [] [], .text "x", .element "p" [] [.element "b" [] []]],
      .element "p" [] [.element "b" [] []]]]⟩]⟩
    let context : Value := .nodes
      [some ⟨0, [0, 0, 2]⟩, some ⟨0, [0, 0, 1]⟩, some ⟨0, [0, 0]⟩, some ⟨0, [0, 0, 2]⟩]
    ∃ all found : NodeSet,
      query lib 0 (.text " p > b") .none = .ok all ∧
      query lib 0 (.text " p > b") context = .ok found ∧
      found.nodes = [⟨0, [0, 0, 0]⟩, ⟨0, [0, 0, 2, 0]⟩] ∧
      query lib 0 (.text " p > b") (.node (.root 0)) = .ok all := by
  intro lib context
  have hread : (Library.selectorOf (trimmed " p > b")).map (Css.Selector.isSteady .html) =
      .ok true := by
    decide +kernel
  obtain ⟨s, hcss, hsteady⟩ := exists_of_map hread
  have hhead : (trimmed " p > b").toList.head? = some 'p' := by decide +kernel
  obtain ⟨all, found, hall, hfound, hbelow, -, -, hroot⟩ := query_eq_restriction lib 0 " p > b" s
    context (.ofList 0 [⟨0, [0, 0, 2]⟩, ⟨0, [0, 0, 1]⟩, ⟨0, [0, 0]⟩]) hcss (by simp [hhead])
    hsteady (by simp) rfl (by decide)
  have hnodes : (query lib 0 (.text " p > b") .none).map NodeSet.nodes =
      .ok [⟨0, [0, 0, 0]⟩, ⟨0, [0, 0, 2, 0]⟩, ⟨0, [0, 1, 0]⟩] := by decide +kernel
  rw [hall] at hnodes
  refine ⟨all, found, hall, hfound, ?_, hroot⟩
  rw [hbelow, Except.ok.inj hnodes]
  decide

-- Of selectors that do not judge each node by itself a query from a context may find other nodes
-- than in the document: where a group `has` looks for later siblings, where the scope is meant in
-- another spelling, where a prefix is declared below the context, and where the empty language is
-- asked for; and so where a combinator comes first once blanks are trimmed.
theorem not_query_eq_restriction :
    let row : Library := ⟨[⟨.html, [.element "div" [] [.element "q" [] [.element "b" [] []],
      .element "q" [] [.element "b" [] []], .element "p" [] []]]⟩]⟩
    let page : Library := ⟨[⟨.html, [.element "html" [] [.element "head" [] [],
      .element "body" [] [.element "p" [] [], .element "p" [] []]]]⟩]⟩
    let spaced : Library := ⟨[⟨.xml, [.element "r" [] [.element "a" [("xmlns:n", .text "u")]
      [.element ⟨"p", some "u"⟩ [] []]]]⟩]⟩
    let asked : List (Library × String × Node) := [(row, "q:has(~ p) > b", ⟨0, [0, 1]⟩),
      (row, ":SCOPE > b", ⟨0, [0, 1]⟩), (row, "\u00a0> b", ⟨0, [0, 1]⟩),
      (page, ":lang('')", ⟨0, [0, 1]⟩), (spaced, "n|p", ⟨0, [0]⟩)]
    ∀ lib css n, (lib, css, n) ∈ asked →
      (∃ s, Library.selectorOf css = .ok s) ∧ ¬ ":scope".toList <:+: css.toList ∧
      '&' ∉ css.toList ∧ (∀ c ∈ css.toList.head?, c ≠ '>' ∧ c ≠ '+' ∧ c ≠ '~') ∧
      ¬ ∀ all found : NodeSet, query lib 0 (.text css) .none = .ok all →
        query lib 0 (.text css) (.node n) = .ok found →
        found.nodes = all.nodes.filter fun m => n.isAncestorOf m := by
  intro row page spaced asked lib css n hasked
  have hfacts : ∀ c ∈ asked,
      (Library.selectorOf c.2.1).map (fun _ => ()) = .ok () ∧
      ¬ ":scope".toList <:+: c.2.1.toList ∧ '&' ∉ c.2.1.toList ∧
      c.2.1.toList.head? ∉ [some '>', some '+', some '~'] ∧
      (query c.1 0 (.text c.2.1) .none).map (fun _ => ()) = .ok () ∧
      (query c.1 0 (.text c.2.1) (.node c.2.2)).map (fun _ => ()) = .ok () ∧
      (query c.1 0 (.text c.2.1) (.node c.2.2)).map NodeSet.nodes ≠
        (query c.1 0 (.text c.2.1) .none).map fun all =>
          all.nodes.filter fun m => c.2.2.isAncestorOf m := by
    decide +kernel
  obtain ⟨hread, hscope, hamp, hstart, hall, hfound, hdiffer⟩ := hfacts _ hasked
  obtain ⟨s, hcss, -⟩ := exists_of_map hread
  obtain ⟨all, hall, -⟩ := exists_of_map hall
  obtain ⟨found, hfound, -⟩ := exists_of_map hfound
  have hsign : ∀ c ∈ css.toList.head?, c ≠ '>' ∧ c ≠ '+' ∧ c ≠ '~' := by
    intro c hc
    rw [Option.mem_def.mp hc] at hstart
    simpa using hstart
  refine ⟨⟨s, hcss⟩, hscope, hamp, hsign, fun h => hdiffer ?_⟩
  rw [hall, hfound]
  exact congrArg Except.ok (h all found hall hfound)

end Value

end MarkupQuery
