import MarkupQuery.Proofs.Css.Compound
import MarkupQuery.Proofs.Nodes.Restriction
import MarkupQuery.Proofs.Text.Blank

namespace MarkupQuery

open Text

def Text.trimmedEnd (s : String) : String := String.ofList (trimEnd s.toList)

variable {lib : Library} {home : Nat} {css : String} {c : Css.Combinator} {a : Char}
  {x : Css.Selector} {parts : List Css.Simple} {s t : NodeSet} {ns ms : List Node} {m n p : Node}

namespace Node

lemma parent?_eq_some_iff : m.parent? = some p ↔ ∃ i, m = p.child i := by
  obtain ⟨document, path⟩ := m
  rcases List.eq_nil_or_concat path with rfl | ⟨path, i, rfl⟩
  · simp [parent?, child]
  · obtain ⟨document', path'⟩ := p
    simp [parent?, child]

lemma not_isAncestorOf_self : ¬ n.isAncestorOf n = true := by
  intro h
  obtain ⟨-, r, hr, hpath⟩ := isAncestorOf_iff.mp h
  exact hr (List.self_eq_append_right.mp hpath)

end Node

namespace Library

lemma holds_child_iff {i : Nat} : lib.Holds (n.child i) ↔ i < lib.childCount n := by
  rw [Holds, tree?_child, childCount]
  cases lib.tree? n with
  | none => simp
  | some t => simp

lemma mem_childNodes_iff : m ∈ lib.childNodes n ↔ m.parent? = some n ∧ lib.Holds m := by
  rw [mem_childNodes, Node.parent?_eq_some_iff]
  constructor
  · rintro ⟨i, hi, rfl⟩
    exact ⟨⟨i, rfl⟩, holds_child_iff.mpr hi⟩
  · rintro ⟨⟨i, rfl⟩, hholds⟩
    exact ⟨i, holds_child_iff.mp hholds, rfl⟩

lemma mem_childElements_iff :
    m ∈ lib.childElements n ↔ m.parent? = some n ∧ lib.isTag m = true := by
  rw [childElements, List.mem_filter, mem_childNodes_iff, and_assoc]
  exact and_congr_right fun _ => and_iff_right_of_imp holds_of_isTag

lemma mem_childElements_iff_below :
    m ∈ lib.childElements n ↔ m ∈ lib.descendantElements n ∧ n ∈ Css.before lib m .child := by
  rw [mem_childElements_iff, mem_descendantElements_iff, Css.before, Option.mem_toList]
  constructor
  · rintro ⟨hp, htag⟩
    obtain ⟨i, rfl⟩ := Node.parent?_eq_some_iff.mp hp
    exact ⟨⟨n.isAncestorOf_child i, htag⟩, hp⟩
  · rintro ⟨⟨-, htag⟩, hp⟩
    exact ⟨hp, htag⟩

lemma notMem_precedingElements (h : n.isAncestorOf m = true) : n ∉ lib.precedingElements m := by
  intro hn
  obtain ⟨p, hp, hc⟩ := exists_parent_of_mem_preceding (List.mem_filter.mp hn).1
  -- `p` is the parent of both, but what is above `m` is `p` or above it.
  have hpn := (below_of_mem_childNodes hc).1
  rcases Node.eq_or_isAncestorOf_parent hp h with rfl | hnp
  · exact Node.not_isAncestorOf_self hpn
  · exact Node.not_isAncestorOf_self (Node.isAncestorOf_trans hnp hpn)

lemma selectorOf_eq_ok_iff :
    selectorOf css = .ok x ↔ Css.Selector.ofText css = .ok x := by
  rw [selectorOf]
  cases Css.Selector.ofText css <;> simp [Except.mapError]

lemma not_blank_of_selectorOf (h : selectorOf (trimmedEnd css) = .ok x) :
    ¬ Blank css.toList := by
  intro hb
  have hnil : trimmedEnd css = "" := by
    rw [trimmedEnd, ← List.nil_append css.toList, trimEnd_append_blank hb]
    rfl
  have hnone : (selectorOf "").isOk = false := by decide +kernel
  rw [← hnil, h] at hnone
  cases hnone

lemma anchored_leading (ha : c.sign? = some a) (hb : ¬ Blank css.toList) :
    anchored (String.ofList [a, ' '] ++ css) =
      ":scope " ++ (String.ofList [a, ' '] ++ trimmedEnd css) := by
  have htrim : trimmed (String.ofList [a, ' '] ++ css) =
      String.ofList [a, ' '] ++ trimmedEnd css := by
    have hstart : trimStart ([a, ' '] ++ css.toList) = [a, ' '] ++ css.toList := by
      cases c <;> cases ha <;> rfl
    rw [trimmed, String.toList_append, String.toList_ofList, trim, hstart,
      trimEnd_append_of_not_blank hb, String.ofList_append, trimmedEnd]
  have hlist : (String.ofList [a, ' '] ++ trimmedEnd css).toList =
      a :: ' ' :: (trimmedEnd css).toList := by simp
  simp only [anchored, htrim, hlist]
  cases c <;> cases ha <;> rfl

lemma select_leading (ha : c.sign? = some a)
    (hcss : selectorOf (trimmedEnd css) = .ok [.compound parts]) (hparts : ∀ p ∈ parts, p.IsPart) :
    lib.select n (String.ofList [a, ' '] ++ css) =
      .ok (Css.select lib [.combined (.compound [.scope]) c parts] n) := by
  have hread : selectorOf (anchored (String.ofList [a, ' '] ++ css)) =
      .ok [.combined (.compound [.scope]) c parts] := by
    rw [anchored_leading ha (not_blank_of_selectorOf hcss), selectorOf_eq_ok_iff]
    exact Css.Selector.ofText_leading ha (selectorOf_eq_ok_iff.mp hcss) hparts
  rw [select, hread, Except.map]

end Library

lemma NodeSet.children_eq (hcss : Library.selectorOf css = .ok x)
    (hx : ∀ n ∈ s.nodes, x.isSteady (lib.dialect n.document) = true) :
    s.children lib (.text css) =
      .ok (.ofList s.home (sorted s.home ((firsts (s.nodes.flatMap lib.childElements)).filter
        (x.judges lib)))) := by
  have hadmits : ∀ m ∈ firsts (s.nodes.flatMap lib.childElements),
      Value.admits lib s.home (.text css) m =
        .ok (x.judges lib m) := by
    intro m hm
    obtain ⟨n, hn, hm⟩ := List.mem_flatMap.mp (mem_firsts.mp hm)
    obtain ⟨hdoc, he⟩ := Library.finds_childElements n m hm
    have htag : lib.isTag m = true := (Library.mem_childElements_iff.mp hm).2
    simp [Value.admits, Value.cssText?, htag, Library.accepts, hcss, Except.map,
      Css.Selector.IsSteady.matchesNode_eq (hdoc ▸ hx n hn), he]
  rw [children, derive, keep_eq_filter hadmits]
  rfl

namespace Value

lemma query_leading (lib : Library) (ha : c.sign? = some a)
    (hcss : Library.selectorOf (trimmedEnd css) = .ok [.compound parts])
    (hparts : ∀ p ∈ parts, p.IsPart) (hhome : s.home = home)
    (hs : ∀ n ∈ s.nodes, lib.isElement n = true) :
    query lib home (.text (String.ofList [a, ' '] ++ css)) (.set s) =
      .ok (.ofList home (NodeSet.sorted home (s.nodes.flatMap
        (Css.select lib [.combined (.compound [.scope]) c parts])))) := by
  have htag : s.nodes.filter lib.isTag = s.nodes :=
    List.filter_eq_self.mpr fun n hn => (Bool.and_eq_true_iff.mp (hs n hn)).2
  rw [query_set_eq hhome, htag,
    Library.selectEach_eq fun n _ => Library.select_leading ha hcss hparts]
  rfl

lemma isRoot_eq_false (hs : ∀ n ∈ s.nodes, lib.isElement n = true) (hn : n ∈ s.nodes) :
    n.isRoot = false := by
  simpa using (Bool.and_eq_true_iff.mp (hs n hn)).1

lemma query_leading_sibling (ha : c.sign? = some a) (hc : c = .next ∨ c = .later)
    (hcss : Library.selectorOf (trimmedEnd css) = .ok [.compound parts])
    (hparts : ∀ p ∈ parts, p.IsPart) (hhome : s.home = home)
    (hs : ∀ n ∈ s.nodes, lib.isElement n = true) :
    query lib home (.text (String.ofList [a, ' '] ++ css)) (.set s) =
      .ok (.empty home) := by
  have hnil : s.nodes.flatMap (Css.select lib [.combined (.compound [.scope]) c parts]) = [] := by
    refine List.flatMap_eq_nil_iff.mpr fun n hn =>
      List.eq_nil_iff_forall_not_mem.mpr fun m hm => ?_
    obtain ⟨hbelow, hbefore⟩ := Css.of_mem_select_leading (isRoot_eq_false hs hn) hm
    have hnot : n ∉ lib.precedingElements m :=
      Library.notMem_precedingElements (Library.mem_descendantElements_iff.mp hbelow).1
    rcases hc with rfl | rfl
    · exact hnot (List.mem_of_mem_take hbefore)
    · exact hnot hbefore
  rw [query_leading lib ha hcss hparts hhome hs, hnil]
  simp [NodeSet.sorted, NodeSet.ofList, firsts, NodeSet.empty]

/-- A query that begins with the sign of a sibling combinator finds nothing from elements, since it
looks only below them. -/
theorem query_leading_siblings_eq_empty (lib : Library) (home : Nat) (css : String)
    (x : Css.Selector) (s : NodeSet) (hcompound : Css.IsCompound (trimmedEnd css))
    (hcss : Library.selectorOf (trimmedEnd css) = .ok x) (hhome : s.home = home)
    (hs : ∀ n ∈ s.nodes, lib.isElement n = true) :
    query lib home (.text ("+ " ++ css)) (.set s) = .ok (.empty home) ∧
      query lib home (.text ("~ " ++ css)) (.set s) = .ok (.empty home) := by
  obtain ⟨parts, rfl, hparts⟩ :=
    hcompound.exists_parts (Library.selectorOf_eq_ok_iff.mp hcss)
  exact ⟨query_leading_sibling (c := .next) rfl (.inl rfl) hcss hparts hhome hs,
    query_leading_sibling (c := .later) rfl (.inr rfl) hcss hparts hhome hs⟩

theorem query_leading_siblings_eq_empty_row :
    let lib : Library := ⟨[⟨.html, [.element "div" [] [.element "p" [] [.element "p" [] []],
      .element "p" [("class", .words ["b"])] []]]⟩]⟩
    let s : NodeSet := .ofList 0 [⟨0, [0, 0]⟩]
    (s.next lib (.text "p.b")).map NodeSet.nodes = .ok [⟨0, [0, 1]⟩] ∧
      query lib 0 (.text "+ p.b") (.set s) = .ok (.empty 0) ∧
      query lib 0 (.text "~ p.b") (.set s) = .ok (.empty 0) := by
  intro lib s
  have hcompound : Css.IsCompound (trimmedEnd "p.b") :=
    .type (by with_unfolding_all rfl : Css.typeSelector ['p', '.', 'b'] =
        some (some (.type .any (some "p")), ['.', 'b']))
      (.className (by decide +kernel : Css.identifier ['b'] = some (.text "b", [])) .nil)
  have hread : (Library.selectorOf (trimmedEnd "p.b")).map (fun _ => ()) = .ok () := by
    decide +kernel
  obtain ⟨x, hcss, -⟩ := exists_of_map hread
  refine ⟨by decide +kernel, ?_⟩
  exact query_leading_siblings_eq_empty lib 0 "p.b" x s hcompound hcss rfl (by decide)

-- From a node with a sibling right after it the query misses what `next` finds.
theorem not_query_leading_siblings_eq_next : ¬ ∀ (lib : Library) (home : Nat) (css : String)
    (x : Css.Selector) (s t u : NodeSet), Css.IsCompound css →
    Library.selectorOf css = .ok x → s.home = home →
    (∀ n ∈ s.nodes, n.document = home ∧ lib.isElement n = true) →
    query lib home (.text ("+ " ++ css)) (.set s) = .ok t → s.next lib (.text css) = .ok u →
    ∀ m, m ∈ t.nodes ↔ m ∈ u.nodes := by
  intro h
  let lib : Library := ⟨[⟨.html, [.element "div" [] [.element "p" [] [], .element "p" [] []]]⟩]⟩
  let s : NodeSet := .ofList 0 [⟨0, [0, 0]⟩]
  have hcompound : Css.IsCompound "p" :=
    .type (by with_unfolding_all rfl :
      Css.typeSelector ['p'] = some (some (.type .any (some "p")), [])) .nil
  have hread : (Library.selectorOf "p").map (fun _ => ()) = .ok () := by decide +kernel
  obtain ⟨x, hcss, -⟩ := exists_of_map hread
  have hquery : (query lib 0 (.text ("+ " ++ "p")) (.set s)).map NodeSet.nodes = .ok [] := by
    decide +kernel
  have hnext : (s.next lib (.text "p")).map NodeSet.nodes = .ok [⟨0, [0, 1]⟩] := by
    decide +kernel
  obtain ⟨t, ht, htnodes⟩ := exists_of_map hquery
  obtain ⟨u, hu, hunodes⟩ := exists_of_map hnext
  have hmem := h lib 0 "p" x s t u hcompound hcss rfl (by decide) ht hu ⟨0, [0, 1]⟩
  simp [htnodes, hunodes] at hmem

lemma query_leading_child (hcompound : Css.IsCompound css)
    (hcss : Library.selectorOf css = .ok x)
    (hend : Library.selectorOf (trimmedEnd css) = .ok x)
    (hsteady : x.isSteady (lib.dialect home) = true) (hhome : s.home = home)
    (hs : ∀ n ∈ s.nodes, n.document = home ∧ lib.isElement n = true) :
    ∃ t, query lib home (.text ("> " ++ css)) (.set s) = .ok t ∧
      s.children lib (.text css) = .ok t := by
  have helements : ∀ n ∈ s.nodes, lib.isElement n = true := fun n hn => (hs n hn).2
  obtain ⟨parts, rfl, hparts⟩ :=
    hcompound.exists_parts (Library.selectorOf_eq_ok_iff.mp hcss)
  have hquery := query_leading (c := .child) lib rfl hend hparts hhome helements
  refine ⟨_, hquery, ?_⟩
  rw [NodeSet.children_eq hcss fun n hn => (hs n hn).1 ▸ hsteady, hhome]
  have hpre : (firsts (s.nodes.flatMap lib.childElements)).filter
      (Css.Selector.judges lib [.compound parts]) ⊆ lib.preorder home := by
    intro m hm
    obtain ⟨n, hn, hm⟩ := List.mem_flatMap.mp (mem_firsts.mp (List.mem_filter.mp hm).1)
    obtain ⟨hdoc, he⟩ := Library.finds_childElements n m hm
    exact Library.mem_preorder_of_isElement (hdoc.trans (hs n hn).1) he
  refine congrArg Except.ok (NodeSet.ofList_sorted_congr hpre fun m => ?_)
  rw [Css.isSteady_compound] at hsteady
  have hselect (n : Node) (hn : n ∈ s.nodes) :=
    Css.select_leading ((hs n hn).1 ▸ hsteady) .child (isRoot_eq_false helements hn)
  simp only [List.mem_filter, mem_firsts, List.mem_flatMap, Library.mem_childElements_iff_below]
  constructor
  · rintro ⟨⟨n, hn, hm, hbefore⟩, hjudges⟩
    refine ⟨n, hn, ?_⟩
    rw [hselect n hn]
    simp [hm, hjudges, hbefore]
  · rintro ⟨n, hn, hm⟩
    rw [hselect n hn] at hm
    simp only [List.mem_filter, Bool.and_eq_true, List.contains_iff_mem] at hm
    exact ⟨⟨n, hn, hm.1, hm.2.2⟩, hm.2.1⟩

end Value

end MarkupQuery
