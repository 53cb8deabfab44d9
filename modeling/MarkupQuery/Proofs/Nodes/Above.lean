import MarkupQuery.Proofs.Nodes.Interchange

namespace MarkupQuery

open Markup

variable {lib : Library} {home : Nat} {s t : NodeSet} {v : Value} {css : String}
  {x : Css.Selector} {m n d : Node}

def Value.Picks (lib : Library) (home : Nat) (v : Value) (n : Node) : Prop :=
  ∃ t, (NodeSet.ofList home [n]).filter lib v = .ok t ∧ t.nodes ≠ []

lemma Value.picks_iff (hv : v ≠ .none) :
    v.Picks lib home n ↔ v.admits lib home n = .ok true := by
  have hnodes : (NodeSet.ofList home [n]).nodes = [n] := by simp [NodeSet.ofList, firsts]
  rw [Picks, NodeSet.filter_of_given hv, hnodes]
  cases h : v.admits lib home n with
  | error fault => simp [keep, NodeSet.ofList, h, Except.map]
  | ok b => cases b <;> simp [keep, NodeSet.ofList, h, Except.map, firsts]

namespace NodeSet

structure KeepsAbove (lib : Library) (s : NodeSet) (v : Value) (t : NodeSet) : Prop where
  sublist : t.nodes.Sublist s.nodes
  mem_iff (n : Node) : n ∈ t.nodes ↔ n ∈ s.nodes ∧ ∃ d, lib.Below n d ∧ v.Picks lib s.home d

lemma exists_keepsAbove_of_filter {p : Node → Bool} (hv : v ≠ .none)
    (hhas : s.has lib v = .ok (.ofList s.home (s.nodes.filter p)))
    (hp : ∀ n ∈ s.nodes, p n = true ↔ ∃ d, lib.Below n d ∧ v.admits lib s.home d = .ok true) :
    ∃ t, s.has lib v = .ok t ∧ s.KeepsAbove lib v t := by
  have hsub : (s.nodes.filter p).Sublist s.nodes := List.filter_sublist
  refine ⟨_, hhas, ?_, fun n => ?_⟩
  · rw [ofList_nodes_of_sublist hsub]
    exact hsub
  · simp only [mem_ofList, List.mem_filter, Value.picks_iff hv]
    exact and_congr_right (hp n)

lemma exists_keepsAbove_text (hcss : Library.selectorOf css = .ok x)
    (hread : Library.selectorOf (Library.anchored css) = .ok x)
    (hx : ∀ n ∈ s.nodes, x.isSteady (lib.dialect n.document) = true) :
    ∃ t, s.has lib (.text css) = .ok t ∧ s.KeepsAbove lib (.text css) t := by
  refine exists_keepsAbove_of_filter (by simp)
    (has_text hread fun n hn => Css.Selector.IsSteady.consistentAt (hx n hn)) fun n _ => ?_
  simp only [List.any_eq_true, Value.admits_text hcss, Except.ok.injEq]
  refine exists_congr fun d => and_congr_left fun hd => ?_
  have htag := (Bool.and_eq_true_iff.mp (Library.isElement_of_matchesNode hd)).2
  rw [Library.mem_descendantElements_iff, and_iff_left htag, Library.Below,
    and_iff_left (Library.holds_of_isTag htag)]

lemma exists_keepsAbove_nodes (hv : v.IsNodes lib) (ht : v.nodeSet lib s.home = .ok t)
    (hholds : ∀ m ∈ t.nodes, lib.Holds m) :
    ∃ u, s.has lib v = .ok u ∧ s.KeepsAbove lib v u := by
  refine exists_keepsAbove_of_filter hv.ne_none (has_of_isNodes hv ht) fun n _ => ?_
  simp only [List.any_eq_true, hv.admits_eq, ht, Except.map, Except.ok.injEq,
    List.contains_iff_mem]
  constructor
  · rintro ⟨m, hm, habove⟩
    exact ⟨m, ⟨habove, hholds m hm⟩, hm⟩
  · rintro ⟨m, ⟨habove, -⟩, hm⟩
    exact ⟨m, hm, habove⟩

/-- With nodes and with a text `has` keeps the members above what these pick, one by one. The text
must be read in the same way by a query, which cuts the blanks around it, and its selector must
judge each node by itself. A function is not taken, though a filter takes it. -/
theorem has_keeps_above (lib : Library) (s : NodeSet) :
    (∀ (css : String) (x : Css.Selector), Library.selectorOf css = .ok x →
      Library.selectorOf (Library.anchored css) = .ok x →
      (∀ n ∈ s.nodes, x.isSteady (lib.dialect n.document) = true) →
      ∃ t, s.has lib (.text css) = .ok t ∧ s.KeepsAbove lib (.text css) t) ∧
    (∀ (v : Value) (u : NodeSet), v.IsNodes lib → v.nodeSet lib s.home = .ok u →
      (∀ m ∈ u.nodes, lib.Holds m) → ∃ t, s.has lib v = .ok t ∧ s.KeepsAbove lib v t) ∧
    ∀ p, s.has lib (.predicate p) = .error .notNodes :=
  ⟨fun _ _ hcss hread hx => exists_keepsAbove_text hcss hread hx,
    fun _ _ hv ht hholds => exists_keepsAbove_nodes hv ht hholds, fun _ => rfl⟩

theorem has_keeps_above_nested :
    let lib : Library := ⟨[⟨.html, [.element "div" [] [.text "x",
      .element "p" [] [.element "b" [] [], .comment "y"], .element "p" [] []]]⟩]⟩
    let s : NodeSet := .ofList 0 [⟨0, [0, 1]⟩, ⟨0, [0, 0]⟩, ⟨0, [0, 2]⟩, ⟨0, []⟩]
    (∃ t, s.has lib (.text "b") = .ok t ∧ s.KeepsAbove lib (.text "b") t ∧
        t.nodes = [⟨0, [0, 1]⟩, ⟨0, []⟩]) ∧
      ∀ v ∈ [Value.node ⟨0, [0, 1, 0]⟩, .set (.ofList 0 [⟨0, [0, 1, 1]⟩])],
        ∃ t, s.has lib v = .ok t ∧ s.KeepsAbove lib v t := by
  intro lib s
  obtain ⟨htext, hnodes, -⟩ := has_keeps_above lib s
  have hcss : Library.selectorOf "b" = .ok [.compound [.type .any (some "b")]] := by
    with_unfolding_all rfl
  have hread : Library.selectorOf (Library.anchored "b") =
      .ok [.compound [.type .any (some "b")]] := by
    with_unfolding_all rfl
  have hkept : (s.has lib (.text "b")).map NodeSet.nodes = .ok [⟨0, [0, 1]⟩, ⟨0, []⟩] := by
    decide +kernel
  have hholds (t : NodeSet) (ht : t.nodes.all fun m => (lib.tree? m).isSome) :
      ∀ m ∈ t.nodes, lib.Holds m := List.all_eq_true.mp ht
  refine ⟨?_, fun v hv => ?_⟩
  · obtain ⟨t, ht, habove⟩ := htext "b" _ hcss hread fun _ _ => rfl
    rw [ht] at hkept
    exact ⟨t, ht, habove, Except.ok.inj hkept⟩
  · rcases List.mem_pair.mp hv with rfl | rfl
    · exact hnodes _ (.ofList 0 [⟨0, [0, 1, 0]⟩]) rfl rfl (hholds _ (by decide))
    · exact hnodes _ (.ofList 0 [⟨0, [0, 1, 1]⟩]) trivial (Value.nodeSet_set rfl)
        (hholds _ (by decide))

-- A function picks nodes and makes `has` fail; an escaped blank at the end of a text is cut where
-- `has` looks below a node; and a group `has` of a selector that looks for later siblings answers
-- for a second sibling from what the first one found.
theorem not_has_keeps_above :
    let lib : Library := ⟨[⟨.html, [.element "div" [] [.element "q" [("class", .words ["y"])] [],
      .element "q" [] [], .element "p" [("id", .text "a ")] []]]⟩]⟩
    let s : NodeSet := .ofList 0 [⟨0, [0]⟩]
    let isParagraph : Value := .predicate fun n => .ok (lib.name? n == some "p")
    (¬ ∃ t, s.has lib isParagraph = .ok t ∧ s.KeepsAbove lib isParagraph t) ∧
      ∀ css ∈ ["#a\\ ", "q:not(.y):has(~ p)"], (∃ x, Library.selectorOf css = .ok x) ∧
        ¬ ":scope".toList <:+: css.toList ∧ '&' ∉ css.toList ∧
        (∀ c ∈ css.toList.head?, c ≠ '>' ∧ c ≠ '+' ∧ c ≠ '~') ∧
        ¬ ∃ t, s.has lib (.text css) = .ok t ∧ s.KeepsAbove lib (.text css) t := by
  intro lib s isParagraph
  refine ⟨?_, fun css hcss => ?_⟩
  · rintro ⟨t, ht, -⟩
    cases ht
  have hfacts : ∀ css ∈ ["#a\\ ", "q:not(.y):has(~ p)"],
      (Library.selectorOf css).map (fun _ => ()) = .ok () ∧
      ¬ ":scope".toList <:+: css.toList ∧ '&' ∉ css.toList ∧
      css.toList.head? ∉ [some '>', some '+', some '~'] ∧
      (s.has lib (.text css)).map NodeSet.nodes = .ok [] ∧
      ∃ d ∈ lib.descendantElements ⟨0, [0]⟩,
        Value.admits lib 0 (.text css) d = .ok true := by
    decide +kernel
  obtain ⟨hread, hscope, hamp, hsign, hhas, d, hd, hadmits⟩ := hfacts css hcss
  obtain ⟨x, hx, -⟩ := exists_of_map hread
  refine ⟨⟨x, hx⟩, hscope, hamp, fun c hc => by simpa [Option.mem_def.mp hc] using hsign, ?_⟩
  rintro ⟨t, ht, habove⟩
  have hkept : (⟨0, [0]⟩ : Node) ∈ t.nodes := (habove.mem_iff _).mpr ⟨List.mem_singleton_self _, d,
    Library.below_of_mem_descendantElements hd, (Value.picks_iff (by simp)).mpr hadmits⟩
  rw [ht] at hhas
  rw [Except.ok.inj hhas] at hkept
  cases hkept

end NodeSet

end MarkupQuery
