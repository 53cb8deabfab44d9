import MarkupQuery.Proofs.Nodes.Combinators
import MarkupQuery.Proofs.Pseudo.Conservative

namespace MarkupQuery.Pseudo

open Selector Text

variable {β : Type} {lib : Library} {home : Nat} {registry : Registry β} {css : String}
  {context : Value} {s t : NodeSet} {ss : List Segment} {first : String}

lemma evaluate_of_resolve (hs : segments first = .ok ss)
    (h : (resolve lib home registry first context).outcome = .ok s) :
    (evaluate lib home registry first (.ofValue context) ss).outcome = .ok (.reached s) := by
  rw [resolve_outcome lib home registry first hs] at h
  obtain ⟨c, hc, hset⟩ := exists_of_bind h
  obtain ⟨-, -, -, hne⟩ := exists_parts_of_segments hs
  obtain ⟨segment, rest, rfl⟩ := List.exists_cons_of_ne_nil hne
  have hrun := hc
  rw [evaluate_cons] at hrun
  obtain ⟨r, -, hrun⟩ := exists_of_bind hrun
  obtain ⟨r, rfl, -⟩ := evaluate_keeps (P := fun _ => True) lib home registry first
    (fun _ _ _ _ _ _ => trivial) trivial hrun
  obtain rfl : r = s := Except.ok.inj hset
  exact hc

lemma resolve_append_plain (hs : segments first = .ok ss)
    (seam : ∃ y ∈ ss.getLast?, y.call?.isSome) (hb : ¬ Blank css.toList) (hp : Plain css.toList)
    (h : (resolve lib home registry first context).outcome = .ok s)
    (ht : Value.query lib home (.text css) (.set s) = .ok t) :
    (resolve lib home registry (first ++ " " ++ css) context).outcome = .ok t := by
  have hplain := segments_of_plain hb hp
  obtain ⟨us, hus, hparts⟩ := exists_segments_append hs hplain (.inl seam)
  rw [← List.map_append] at hparts
  have hreach : (reach lib home registry (first ++ " " ++ css) (.ofValue context) us).mapError
      Fault.unplaced = _ := reach_congr lib home registry _ first hparts
  have hquery : reach lib home registry first (.reached s)
      [.plain (trimmed css) (css.toList.takeWhile isBlank).length] = .ok t := by
    rw [reach_cons, applySegment, Traced.ofExcept, Context.value, Value.query_trimmed, ht]
    rfl
  rw [reach_append, evaluate_of_resolve hs h, Except.bind, hquery] at hreach
  rw [resolve_outcome lib home registry _ hus]
  cases hr : reach lib home registry (first ++ " " ++ css) (.ofValue context) us with
  | error fault =>
    rw [hr] at hreach
    cases hreach
  | ok u =>
    rw [hr] at hreach
    exact hreach

/-- The sign of the child combinator at the start of a query from elements, or after a call that
leads to elements, leads to what `children` does. The compound after it must not be read in another
way once the blanks at its end are cut, and in XML it names no prefix; after a call it is plain
text, as it is without comments. -/
theorem leading_child_eq_children (lib : Library) (home : Nat) (css : String) (x : Css.Selector)
    (hcompound : Css.IsCompound css) (hcss : Library.selectorOf css = .ok x)
    (hend : Library.selectorOf (trimmedEnd css) = .ok x)
    (hsteady : x.isSteady (lib.dialect home) = true) :
    (∀ s : NodeSet, s.home = home → (∀ n ∈ s.nodes, n.document = home ∧ lib.isElement n = true) →
      ∃ t, Value.query lib home (.text ("> " ++ css)) (.set s) = .ok t ∧
        s.children lib (.text css) = .ok t) ∧
    (Plain css.toList → ∀ (registry : Registry β) (first : String) (ss : List Segment)
      (context : Value) (s : NodeSet),
      segments first = .ok ss → (∃ y ∈ ss.getLast?, y.call?.isSome) →
      (resolve lib home registry first context).outcome = .ok s → s.home = home →
      (∀ n ∈ s.nodes, n.document = home ∧ lib.isElement n = true) →
      ∃ t, (resolve lib home registry (first ++ " > " ++ css) context).outcome = .ok t ∧
        s.children lib (.text css) = .ok t) := by
  have hquery (s : NodeSet) (hhome : s.home = home)
      (helements : ∀ n ∈ s.nodes, n.document = home ∧ lib.isElement n = true) :=
    Value.query_leading_child hcompound hcss hend hsteady hhome helements
  refine ⟨hquery, fun hcss registry first ss context s hs seam hresolve hhome helements => ?_⟩
  obtain ⟨t, ht, hchildren⟩ := hquery s hhome helements
  have hlist : ("> " ++ css).toList = '>' :: ' ' :: css.toList := by simp
  have hplain : Plain ("> " ++ css).toList := by
    rw [hlist]
    exact Css.lexical_plain.char (by decide)
      (Css.lexical_plain.char (by decide) hcss)
  have hb : ¬ Blank ("> " ++ css).toList := by
    rw [hlist]
    exact not_blank_iff.mpr ⟨'>', by simp, by decide⟩
  have htext : first ++ " > " ++ css = first ++ " " ++ ("> " ++ css) := by
    rw [← String.toList_inj]
    simp
  exact ⟨t, htext ▸ resolve_append_plain hs seam hb hplain hresolve ht, hchildren⟩

theorem leading_child_eq_children_nested :
    let lib : Library := ⟨[⟨.html, [.element "div" [] [.text "x",
      .element "p" [] [.element "b" [("class", .words ["c"])] [], .element "b" [] []]]]⟩]⟩
    let registry : Registry Unit := .builtin
    let s : NodeSet := .ofList 0 [⟨0, [0, 1]⟩, ⟨0, [0]⟩]
    (∃ t, Value.query lib 0 (.text "> b.c") (.set s) = .ok t ∧
      s.children lib (.text "b.c") = .ok t ∧ t.nodes = [⟨0, [0, 1, 0]⟩]) ∧
    ∃ s t, (resolve lib 0 registry "p:first" .none).outcome = .ok s ∧
      (resolve lib 0 registry "p:first > b.c" .none).outcome = .ok t ∧
      s.children lib (.text "b.c") = .ok t := by
  intro lib registry s
  have hcompound : Css.Compound skipGaps ("b.c".toList.map Css.withoutNull) :=
    .type (by with_unfolding_all rfl : Css.typeSelector ['b', '.', 'c'] =
        some (some (.type .any (some "b")), ['.', 'c']))
      (.className (by decide +kernel : Css.identifier ['c'] = some (.text "c", [])) .nil)
  have hread : (Library.selectorOf "b.c").map (fun _ => ()) = .ok () := by decide +kernel
  obtain ⟨x, hcss, -⟩ := exists_of_map hread
  have hsteady : x.isSteady .html = true :=
    Css.IsCompound.isSteady_html hcompound.of_skipGaps (Library.selectorOf_eq_ok_iff.mp hcss)
  have hs : segments "p:first" = .ok [.plain "p" 0, .pseudo ":first" 1 ⟨"first", []⟩] := by
    decide +kernel
  have hfirst : (resolve lib 0 registry "p:first" .none).outcome.map
      (fun r => (r.home, r.nodes)) = .ok (0, [⟨0, [0, 1]⟩]) := by decide +kernel
  obtain ⟨r, hr, hset⟩ := exists_of_map hfirst
  obtain ⟨hhome, hnodes⟩ := Prod.mk.inj hset
  have helements : ∀ n ∈ r.nodes, n.document = 0 ∧ lib.isElement n = true := by
    rw [hnodes]
    decide
  obtain ⟨hquery, hresolve⟩ :=
    leading_child_eq_children lib 0 "b.c" x hcompound.of_skipGaps hcss hcss hsteady
  refine ⟨?_, r, ?_⟩
  · obtain ⟨t, ht, hchildren⟩ := hquery s rfl (by decide)
    have hfound : (Value.query lib 0 (.text ("> " ++ "b.c")) (.set s)).map NodeSet.nodes =
        .ok [⟨0, [0, 1, 0]⟩] := by decide +kernel
    rw [ht] at hfound
    exact ⟨t, ht, hchildren, Except.ok.inj hfound⟩
  · obtain ⟨t, ht, hchildren⟩ := hresolve (hcompound.plain "b.c".toList rfl) registry "p:first" _
      .none r hs ⟨_, rfl, rfl⟩ hr hhome helements
    exact ⟨t, hr, ht, hchildren⟩

-- An escaped blank at the end of a compound is cut from the query, but not from what the children
-- are asked.
theorem not_leading_child_eq_children : ¬ ∀ (lib : Library) (home : Nat) (css : String)
    (x : Css.Selector) (s : NodeSet), Css.IsCompound css → Library.selectorOf css = .ok x →
    s.home = home →
    (∀ n ∈ s.nodes, n.document = home ∧ lib.isElement n = true) →
    Value.query lib home (.text ("> " ++ css)) (.set s) = s.children lib (.text css) := by
  intro h
  let lib : Library :=
    ⟨[⟨.html, [.element "div" [] [.element "p" [("id", .text "a ")] []]]⟩]⟩
  let s : NodeSet := .ofList 0 [⟨0, [0]⟩]
  have hcompound : Css.IsCompound "#a\\ " :=
    .id (by decide +kernel : Css.identifier ['a', '\\', ' '] = some (.text "a ", [])) .nil
  have hread : (Library.selectorOf "#a\\ ").map (fun _ => ()) = .ok () := by decide +kernel
  obtain ⟨x, hcss, -⟩ := exists_of_map hread
  have hquery : (Value.query lib 0 (.text ("> " ++ "#a\\ ")) (.set s)).map NodeSet.nodes =
      .ok [] := by decide +kernel
  have hchildren : (s.children lib (.text "#a\\ ")).map NodeSet.nodes = .ok [⟨0, [0, 0]⟩] := by
    decide +kernel
  rw [h lib 0 "#a\\ " x s hcompound hcss rfl (by decide), hchildren] at hquery
  cases hquery

end MarkupQuery.Pseudo
