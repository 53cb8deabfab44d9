import MarkupQuery.Proofs.Nodes.Grouped
import MarkupQuery.Proofs.Pseudo.Suffix

namespace MarkupQuery

open Css Text

namespace Css

variable {css inner : String} {x y : Css.Selector}

lemma IsExtensible.not_blank (h : IsExtensible css) : ¬ Blank css.toList := by
  obtain ⟨c, hc, hblank, -⟩ := h.ending
  exact not_blank_iff.mpr ⟨c, List.mem_of_getLast? hc, hblank⟩

lemma IsExtensible.getLast?_ne (h : IsExtensible css) : css.toList.getLast? ≠ some '\\' := by
  obtain ⟨c, hc, -, hback⟩ := h.ending
  intro hlast
  exact hback (Option.mem_unique hc hlast)

lemma IsBare.canonical (h : IsBare inner) (hy : Library.selectorOf inner = .ok y) :
    (Selector.Argument.word inner).Canonical := by
  have hne : inner ≠ "" := by
    rintro rfl
    have hnone : (Library.selectorOf "").isOk = false := by decide +kernel
    rw [hy] at hnone
    cases hnone
  refine ⟨hne, ?_, ?_, fun c hc => ?_⟩
  · have htrim := congrArg String.toList h.trimmed
    rwa [Text.trimmed, String.toList_ofList] at htrim
  · obtain ⟨c, cs, hcs⟩ := List.exists_cons_of_ne_nil (mt String.toList_eq_nil_iff.mp hne)
    have hcompound := h.compound
    rw [IsCompound, hcs, List.map_cons] at hcompound
    refine ⟨c, hcs ▸ List.mem_cons_self, ?_⟩
    have hread := hcompound.not_isAsciiDigit
    rw [withoutNull] at hread
    split at hread
    · next hnull =>
      obtain rfl : c = Char.ofNat 0 := Char.ext (UInt32.toNat_inj.mp hnull)
      decide
    · exact hread
  · obtain ⟨hordinary, hgap⟩ := h.ordinary c hc
    simp only [List.mem_cons, List.not_mem_nil, or_false, not_or] at hordinary
    exact ⟨hordinary.1, hordinary.2.1, hordinary.2.2.1, hgap⟩

def Group.callName : Group → String
  | .anyOf => "filter"
  | .noneOf => "not"
  | .has => "has"

end Css

namespace Pseudo

open Selector

variable {β : Type} {lib : Library} {home : Nat} {css inner : String} {x y : Css.Selector}

lemma resolve_append_call (g : Group) (hplain : Plain css.toList) (hcss : IsExtensible css)
    (hx : Library.selectorOf (Library.anchored css) = .ok x) (hinner : IsBare inner)
    (hy : Library.selectorOf inner = .ok y) {v : Value}
    (hsteady : ∀ n, v.Asks lib home n → y.isSteady (lib.dialect n.document) = true) :
    (resolve lib home (.builtin : Registry β)
      (css ++ (⟨g.callName, [.word inner]⟩ : Call).text) v).outcome =
        Value.query lib home (.text (css ++ g.around inner)) v := by
  have hargument : (Argument.word inner).Canonical := hinner.canonical hy
  have hop : builtins.lookup g.callName = some g.operation := by cases g <;> rfl
  rw [resolve_append_builtin hplain hcss.not_blank hcss.getLast?_ne hop
      (List.forall_mem_singleton.mpr hargument),
    Value.query_filter fun n hn => Library.select_append_group g hcss hx hinner hy (hsteady n hn)]
  cases hquery : Value.query lib home (.text css) v with
  | error fault => rfl
  | ok s =>
    have hhome := Value.query_home hquery
    have happly := Operation.apply_group g hinner hy (s := s) fun n hn => by
      obtain ⟨m, hm, hbelow⟩ := Value.exists_asks_of_mem_query hquery hn
      obtain ⟨hdoc, he⟩ := Library.isElement_of_mem_descendantElements hbelow
      exact ⟨he, hdoc ▸ hsteady m hm⟩
    have hbuiltin : applyBuiltin lib g.operation s [.text inner] =
        .ok (.ofList home (s.nodes.filter (g.judges lib y))) := by
      rw [← hhome, ← happly]
      cases g <;> rfl
    exact hbuiltin

/-- The built-in `not`, `has` and `filter` with a compound, after a complex selector, find from any
context what the groups of CSS find there, or fail as the query does. Below nodes of XML documents
the compound names no prefix. -/
theorem resolve_builtin_eq_query (lib : Library) (home : Nat) (css inner : String)
    (x y : Css.Selector) (hplain : Plain css.toList) (hcss : IsExtensible css)
    (hx : Library.selectorOf (Library.anchored css) = .ok x) (hinner : IsBare inner)
    (hy : Library.selectorOf inner = .ok y) (context : Value)
    (hsteady : ∀ n, context.Asks lib home n → y.isSteady (lib.dialect n.document) = true) :
    (resolve lib home (.builtin : Registry β) (css ++ ":not(" ++ inner ++ ")") context).outcome =
        Value.query lib home (.text (css ++ ":not(" ++ inner ++ ")")) context ∧
      (resolve lib home (.builtin : Registry β) (css ++ ":has(" ++ inner ++ ")") context).outcome =
        Value.query lib home (.text (css ++ ":has(" ++ inner ++ ")")) context ∧
      (resolve lib home (.builtin : Registry β) (css ++ ":filter(" ++ inner ++ ")")
          context).outcome =
        Value.query lib home (.text (css ++ ":is(" ++ inner ++ ")")) context := by
  have hcall (g : Group) : css ++ (⟨g.callName, [.word inner]⟩ : Call).text =
      css ++ (":" ++ g.callName ++ "(") ++ inner ++ ")" := by
    simp [Call.text, Argument.text, String.append_assoc]
  have hgroup (g : Group) : css ++ g.around inner =
      css ++ (":" ++ String.ofList g.name ++ "(") ++ inner ++ ")" := by
    simp [Group.around, String.append_assoc]
  have h (g : Group) : (resolve lib home (.builtin : Registry β) _ context).outcome = _ :=
    resolve_append_call g hplain hcss hx hinner hy hsteady
  simp only [hcall, hgroup] at h
  exact ⟨h .noneOf, h .has, h .anyOf⟩

theorem resolve_builtin_eq_query_scoped :
    let css := "> div p[a='x)']"
    let lib : Library := ⟨[⟨.html, [.element "div" [] [.text "x", .element "div" []
      [.element "p" [("a", .text "x)")] [.element "b" [("class", .words ["c"])] []],
        .element "p" [("a", .text "x)")] [.element "b" [] []]]]]⟩]⟩
    let registry : Registry Unit := .builtin
    (Plain css.toList ∧ IsExtensible css ∧ IsBare "b.c" ∧
      (∃ x, Library.selectorOf (Library.anchored css) = .ok x) ∧
      ∃ y, Library.selectorOf "b.c" = .ok y) ∧
    (resolve lib 0 registry (css ++ ":has(" ++ "b.c" ++ ")") .none).outcome =
      Value.query lib 0 (.text (css ++ ":has(" ++ "b.c" ++ ")")) .none ∧
    (resolve lib 0 registry (css ++ ":has(" ++ "b.c" ++ ")") .none).outcome.map
      NodeSet.nodes = .ok [⟨0, [0, 1, 0]⟩] := by
  intro css lib registry
  have hplain : Plain css.toList := by
    refine ⟨(css.toList.take 7).map (fun c => ⟨[c], none⟩) ++
      [⟨"[a='x)']".toList, none⟩], ?_, by decide⟩
    exact (lexemes_eq_ok_iff 0).mp (by decide +kernel)
  have hcss : IsExtensible css :=
    ⟨by decide +kernel, by decide +kernel, ⟨']', by decide +kernel, by decide, by decide⟩,
      by decide +kernel⟩
  have hinner : IsBare "b.c" := by
    refine ⟨.type (by with_unfolding_all rfl : typeSelector ['b', '.', 'c'] =
        some (some (.type .any (some "b")), ['.', 'c']))
      (.className (by decide +kernel : identifier ['c'] = some (.text "c", [])) .nil),
      fun c hc => ?_, by decide +kernel⟩
    have hc : c ∈ ['b', '.', 'c'] := hc
    simp only [List.mem_cons, List.not_mem_nil, or_false] at hc
    rcases hc with rfl | rfl | rfl <;> decide
  have hread : (Library.selectorOf (Library.anchored css)).map (fun _ => ()) = .ok () := by
    decide +kernel
  have hread' : (Library.selectorOf "b.c").map (fun _ => ()) = .ok () := by decide +kernel
  obtain ⟨x, hx, -⟩ := exists_of_map hread
  obtain ⟨y, hy, -⟩ := exists_of_map hread'
  have hsteady : y.isSteady .html = true :=
    hinner.compound.isSteady_html (Library.selectorOf_eq_ok_iff.mp hy)
  obtain ⟨-, hhas, -⟩ := @resolve_builtin_eq_query Unit lib 0 css "b.c" x y hplain hcss hx hinner hy
    .none fun n hn => hn ▸ hsteady
  exact ⟨⟨hplain, hcss, hinner, ⟨x, hx⟩, y, hy⟩, hhas, by decide +kernel⟩

-- In XML a query knows the prefixes of the document, but no node that is tested knows any.
theorem not_resolve_builtin_eq_query : ¬ ∀ (lib : Library) (home : Nat) (css inner : String)
    (x y : Css.Selector) (context : Value), Plain css.toList → IsExtensible css →
    Library.selectorOf (Library.anchored css) = .ok x → IsBare inner →
    Library.selectorOf inner = .ok y →
    (resolve lib home (.builtin : Registry Unit) (css ++ ":filter(" ++ inner ++ ")")
      context).outcome = Value.query lib home (.text (css ++ ":is(" ++ inner ++ ")")) context := by
  intro h
  let lib : Library := ⟨[⟨.xml, [.element "t" [("xmlns:n", .text "u")]
    [.element ⟨"c", some "u"⟩ [] []]]⟩]⟩
  have hcss : IsExtensible "t *" :=
    ⟨by decide, by decide, ⟨'*', by decide +kernel, by decide, by decide⟩, by decide⟩
  have hinner : IsBare "n|c" := by
    refine ⟨.type (by with_unfolding_all rfl : typeSelector ['n', '|', 'c'] =
      some (some (.type (.named "n") (some "c")), [])) .nil, fun c hc => ?_, by decide +kernel⟩
    have hc : c ∈ ['n', '|', 'c'] := hc
    simp only [List.mem_cons, List.not_mem_nil, or_false] at hc
    rcases hc with rfl | rfl | rfl <;> decide
  have hread : (Library.selectorOf (Library.anchored "t *")).map (fun _ => ()) = .ok () := by
    decide +kernel
  have hread' : (Library.selectorOf "n|c").map (fun _ => ()) = .ok () := by decide +kernel
  obtain ⟨x, hx, -⟩ := exists_of_map hread
  obtain ⟨y, hy, -⟩ := exists_of_map hread'
  have hfilter : (resolve lib 0 (.builtin : Registry Unit) ("t *" ++ ":filter(" ++ "n|c" ++ ")")
      .none).outcome.map NodeSet.nodes = .ok [] := by decide +kernel
  have hquery : (Value.query lib 0 (.text ("t *" ++ ":is(" ++ "n|c" ++ ")")) .none).map
      NodeSet.nodes = .ok [⟨0, [0, 0]⟩] := by decide +kernel
  have hplain : Plain "t *".toList :=
    ⟨"t *".toList.map fun c => ⟨[c], none⟩, (lexemes_eq_ok_iff 0).mp (by decide +kernel), by decide⟩
  rw [h lib 0 "t *" "n|c" x y .none hplain hcss hx hinner hy, hquery] at hfilter
  cases hfilter

end Pseudo

end MarkupQuery
