import MarkupQuery.Proofs.Nodes.Membership
import MarkupQuery.Proofs.Pseudo.Composition

namespace MarkupQuery

/-- Work on sets in which each member leads to nodes of its own: if it succeeds on a set, it does
so on every part of the set, and finds there what the members of the part lead to. -/
def Additive (home : Nat) (f : NodeSet → Except Fault NodeSet) : Prop :=
  ∀ ⦃s t⦄, s.home = home → f s = .ok t → ∃ image : Node → Node → Prop,
    ∀ r, r.home = home → r.nodes ⊆ s.nodes →
      ∃ u, f r = .ok u ∧ u.home = home ∧ ∀ m, m ∈ u.nodes ↔ ∃ n ∈ r.nodes, image n m

variable {lib : Library} {home : Nat} {v : Value} {f g : NodeSet → Except Fault NodeSet}

namespace Additive

lemma congr (hfg : ∀ s, s.home = home → f s = g s) (hg : Additive home g) : Additive home f := by
  intro s t hs h
  rw [hfg s hs] at h
  obtain ⟨image, himage⟩ := hg hs h
  refine ⟨image, fun r hr hsub => ?_⟩
  rw [hfg r hr]
  exact himage r hr hsub

lemma identity : Additive home .ok := by
  intro s t hs h
  refine ⟨fun n m => n = m, fun r hr hsub => ⟨r, rfl, hr, fun m => ?_⟩⟩
  simp

lemma bind (hf : Additive home f) (hg : Additive home g) :
    Additive home fun s => (f s).bind g := by
  intro s t hs h
  obtain ⟨a, ha, hat⟩ := exists_of_bind h
  obtain ⟨first, hfirst⟩ := hf hs ha
  obtain ⟨a', ha', hhome, ha⟩ := hfirst s hs (List.Subset.refl _)
  obtain rfl : a = a' := Except.ok.inj (by rw [← ha', ‹f s = .ok a›])
  obtain ⟨second, hsecond⟩ := hg hhome hat
  refine ⟨fun n m => ∃ k, first n k ∧ second k m, fun r hr hsub => ?_⟩
  obtain ⟨b, hb, hbhome, hbm⟩ := hfirst r hr hsub
  have hba : b.nodes ⊆ a.nodes := by
    intro k hk
    obtain ⟨n, hn, hnk⟩ := (hbm k).mp hk
    exact (ha k).mpr ⟨n, hsub hn, hnk⟩
  obtain ⟨u, hu, huhome, hum⟩ := hsecond b hbhome hba
  refine ⟨u, by simp [hb, Except.bind, hu], huhome, fun m => ?_⟩
  rw [hum]
  constructor
  · rintro ⟨k, hk, hkm⟩
    obtain ⟨n, hn, hnk⟩ := (hbm k).mp hk
    exact ⟨n, hn, k, hnk, hkm⟩
  · rintro ⟨n, hn, k, hnk, hkm⟩
    exact ⟨k, (hbm k).mpr ⟨n, hn, hnk⟩, hkm⟩

lemma members (hf : Additive home f) {ns : List Node} {t : NodeSet}
    (h : f (.ofList home ns) = .ok t) :
    (∀ n ∈ ns, ∃ r, f (.ofList home [n]) = .ok r) ∧
      ∀ m, m ∈ t.nodes ↔ ∃ n ∈ ns, ∃ r, f (.ofList home [n]) = .ok r ∧ m ∈ r.nodes := by
  obtain ⟨image, himage⟩ := hf rfl h
  have hone (n : Node) (hn : n ∈ ns) :
      ∃ r, f (.ofList home [n]) = .ok r ∧ ∀ m, m ∈ r.nodes ↔ image n m := by
    have hsub : (NodeSet.ofList home [n]).nodes ⊆ (NodeSet.ofList home ns).nodes := by
      intro k hk
      obtain rfl := List.mem_singleton.mp (NodeSet.mem_ofList.mp hk)
      exact NodeSet.mem_ofList.mpr hn
    obtain ⟨r, hr, -, hm⟩ := himage (.ofList home [n]) rfl hsub
    exact ⟨r, hr, fun m => by simp [hm, NodeSet.mem_ofList]⟩
  refine ⟨fun n hn => ?_, fun m => ?_⟩
  · obtain ⟨r, hr, -⟩ := hone n hn
    exact ⟨r, hr⟩
  obtain ⟨u, hu, -, hm⟩ := himage (.ofList home ns) rfl (List.Subset.refl _)
  obtain rfl : t = u := Except.ok.inj (h.symm.trans hu)
  rw [hm]
  constructor
  · rintro ⟨n, hn, hnm⟩
    have hn := NodeSet.mem_ofList.mp hn
    obtain ⟨r, hr, hrm⟩ := hone n hn
    exact ⟨n, hn, r, hr, (hrm m).mpr hnm⟩
  · rintro ⟨n, hn, r, hr, hm⟩
    obtain ⟨r', hr', hrm⟩ := hone n hn
    obtain rfl : r = r' := Except.ok.inj (hr.symm.trans hr')
    exact ⟨n, NodeSet.mem_ofList.mpr hn, (hrm m).mp hm⟩

lemma keep (step : Node → List Node) (source : NodeSet → List Node)
    (arrange : List Node → List Node) (test : Node → Except Fault Bool)
    (hsource : ∀ s m, m ∈ source s ↔ ∃ n ∈ s.nodes, m ∈ step n)
    (harrange : ∀ ns m, m ∈ arrange ns ↔ m ∈ ns) :
    Additive home fun s =>
      (MarkupQuery.keep test (source s)).map fun kept => .ofList home (arrange kept) := by
  intro s t hs h
  obtain ⟨kept, hkept, -⟩ := exists_of_map h
  have htest := exists_keep_iff.mp ⟨kept, hkept⟩
  refine ⟨fun n m => m ∈ step n ∧ test m = .ok true, fun r hr hsub => ?_⟩
  have hsubset : source r ⊆ source s := by
    intro m hm
    obtain ⟨n, hn, hnm⟩ := (hsource r m).mp hm
    exact (hsource s m).mpr ⟨n, hsub hn, hnm⟩
  obtain ⟨kept, hkept⟩ := exists_keep_iff.mpr fun m hm => htest m (hsubset hm)
  refine ⟨.ofList home (arrange kept), by simp [hkept, Except.map], rfl, fun m => ?_⟩
  rw [NodeSet.mem_ofList, harrange, mem_keep hkept, hsource]
  constructor
  · rintro ⟨⟨n, hn, hnm⟩, hm⟩
    exact ⟨n, hn, hnm, hm⟩
  · rintro ⟨n, hn, hnm, hm⟩
    exact ⟨⟨n, hn, hnm⟩, hm⟩

lemma keep_members (test : Node → Except Fault Bool) :
    Additive home fun s => (MarkupQuery.keep test s.nodes).map (.ofList home) :=
  keep (fun n => [n]) NodeSet.nodes id test (by simp) (by simp)

lemma filter {α : Type} (found : Except Fault α) (p : α → Node → Bool) :
    Additive home fun s => found.map fun a => .ofList home (s.nodes.filter (p a)) := by
  intro s t hs h
  obtain ⟨a, rfl, -⟩ := exists_of_map h
  refine ⟨fun n m => n = m ∧ p a n, fun r hr hsub => ⟨_, rfl, rfl, fun m => ?_⟩⟩
  rw [NodeSet.mem_ofList, List.mem_filter]
  constructor
  · rintro ⟨hm, hp⟩
    exact ⟨m, hm, rfl, hp⟩
  · rintro ⟨n, hn, rfl, hp⟩
    exact ⟨hn, hp⟩

lemma collect (step : Node → Except Fault (Option Node)) :
    Additive home fun s => (MarkupQuery.collect step s.nodes).map fun found =>
      .ofList home (NodeSet.sorted home found) := by
  intro s t hs h
  obtain ⟨found, hfound, -⟩ := exists_of_map h
  have hstep := exists_collect_iff.mp ⟨found, hfound⟩
  refine ⟨fun n m => step n = .ok (some m), fun r hr hsub => ?_⟩
  obtain ⟨found, hfound⟩ := exists_collect_iff.mpr fun n hn => hstep n (hsub hn)
  refine ⟨.ofList home (NodeSet.sorted home found), by simp [hfound, Except.map], rfl, fun m => ?_⟩
  rw [NodeSet.mem_ofList_sorted, mem_collect hfound]

lemma selectEach (lib : Library) (css : String) :
    Additive home fun s => (lib.selectEach css (s.nodes.filter lib.isTag)).map fun found =>
      .ofList home (NodeSet.sorted home found) := by
  intro s t hs h
  obtain ⟨found, hfound, -⟩ := exists_of_map h
  have hselect := Library.exists_selectEach_iff.mp ⟨found, hfound⟩
  refine ⟨fun n m => lib.isTag n ∧ ∃ below, lib.select n css = .ok below ∧ m ∈ below,
    fun r hr hsub => ?_⟩
  obtain ⟨found, hfound⟩ := Library.exists_selectEach_iff.mpr fun n hn =>
    hselect n (List.filter_subset _ hsub hn)
  refine ⟨.ofList home (NodeSet.sorted home found), by simp [hfound, Except.map], rfl, fun m => ?_⟩
  rw [NodeSet.mem_ofList_sorted, Library.mem_selectEach hfound]
  constructor
  · rintro ⟨n, hn, hm⟩
    obtain ⟨hn, htag⟩ := List.mem_filter.mp hn
    exact ⟨n, hn, htag, hm⟩
  · rintro ⟨n, hn, htag, hm⟩
    exact ⟨n, List.mem_filter.mpr ⟨hn, htag⟩, hm⟩

lemma empty : Additive home fun s => .ok (.empty s.home) := by
  intro s t hs h
  refine ⟨fun _ _ => False, fun r hr hsub => ⟨.empty r.home, rfl, hr, fun m => ?_⟩⟩
  simp [NodeSet.empty]

lemma failing {fault : Fault} : Additive home fun _ => .error fault := by
  intro s t hs h
  cases h

end Additive

namespace NodeSet

lemma additive_derive (step : Node → List Node) (v : Value) :
    Additive home fun s => s.derive lib step v := by
  refine .congr (fun s hs => ?_)
    (.keep step (fun s => firsts (s.nodes.flatMap step)) (sorted home) (v.admits lib home) ?_
      fun ns m => mem_sorted)
  · subst hs
    rfl
  · intro s m
    rw [mem_firsts, List.mem_flatMap]

lemma additive_deriveReversed (step : Node → List Node) (v : Value) :
    Additive home fun s => s.deriveReversed lib step v := by
  refine .congr (fun s hs => ?_)
    (.keep step (fun s => firsts (s.nodes.flatMap step)) (fun ns => (sorted home ns).reverse)
      (v.admits lib home) ?_ ?_)
  · subst hs
    rfl
  · intro s m
    rw [mem_firsts, List.mem_flatMap]
  · intro ns m
    rw [List.mem_reverse, mem_sorted]

lemma additive_contents : Additive home fun s => .ok (s.contents lib) := by
  intro s t hs h
  refine ⟨fun n m => m ∈ lib.childNodes n, fun r hr hsub => ⟨r.contents lib, rfl, hr, fun m => ?_⟩⟩
  rw [contents, mem_ofList_sorted, List.mem_flatMap]

lemma additive_closest (v : Value) : Additive home fun s => s.closest lib v := by
  by_cases hv : v = .none
  · subst hv
    exact .empty
  · refine .congr (fun s hs => ?_) (.collect fun n =>
      firstKept? (v.admits lib home) (lib.inclusiveAncestors n))
    subst hs
    exact closest_of_given hv

lemma additive_filter (v : Value) : Additive home fun s => s.filter lib v := by
  by_cases hv : v = .none
  · subst hv
    exact .empty
  · refine .congr (fun s hs => ?_) (.keep_members (v.admits lib home))
    subst hs
    exact filter_of_given hv

lemma additive_exclude (v : Value) : Additive home fun s => s.exclude lib v := by
  by_cases hv : v = .none
  · subst hv
    exact .congr (fun s hs => congrArg Except.ok (ofList_nodes s)) .identity
  · refine .congr (fun s hs => ?_) (.keep_members fun n => (v.admits lib home n).map (!·))
    subst hs
    exact exclude_of_given hv

lemma additive_has (v : Value) : Additive home fun s => s.has lib v := by
  by_cases hv : v = .none
  · subst hv
    exact .empty
  cases hcss : v.cssText? lib with
  | some css =>
    refine .congr (fun s hs => ?_) (.keep_members fun n =>
      if lib.isTag n then (lib.select n css).map (!·.isEmpty) else .ok false)
    subst hs
    exact has_of_css hcss
  | none =>
    refine .congr (fun s hs => ?_) (.filter (v.nodeSet lib home) fun t n =>
      t.nodes.any fun m => n.isAncestorOf m)
    subst hs
    exact has_of_nodes hv hcss

end NodeSet

lemma Value.additive_query (css : String) :
    Additive home fun s => Value.query lib home (.text css) (.set s) := by
  exact .congr (fun s hs => query_set_eq hs css) (.selectEach lib css)

namespace Pseudo

open Selector

def pointwiseNames : List String :=
  ["parent", "parents", "closest", "next", "nextAll", "prev", "prevAll", "siblings", "children",
    "contents", "filter", "not", "has"]

lemma additive_select {op : Operation} {f : NodeSet → Value → Except Fault NodeSet}
    (hf : op.select? lib = some f) (v : Value) : Additive home fun s => f s v := by
  cases op <;> cases hf
  case closest => exact NodeSet.additive_closest v
  case filter => exact NodeSet.additive_filter v
  case exclude => exact NodeSet.additive_exclude v
  case has => exact NodeSet.additive_has v
  case parents => exact NodeSet.additive_deriveReversed _ v
  case prevAll => exact NodeSet.additive_deriveReversed _ v
  all_goals exact NodeSet.additive_derive _ v

lemma not_positional : ∀ name ∈ pointwiseNames, ∀ op ∈ builtins.lookup name,
    op ∉ [.find, .first, .last, .eq, .slice, .add] := by decide

lemma additive_applyBuiltin {name : String} {op : Operation} (hname : name ∈ pointwiseNames)
    (hop : builtins.lookup name = some op) (values : List Value) :
    Additive home fun s => applyBuiltin lib op s values := by
  have hnot := not_positional name hname op hop
  by_cases hcontents : op = .contents
  · subst hcontents
    exact NodeSet.additive_contents
  obtain ⟨f, hf⟩ : ∃ f, op.select? lib = some f := by
    cases op <;> simp_all [Operation.select?]
  have happly (s : NodeSet) : applyBuiltin lib op s values = op.apply lib s values := by
    cases op <;> first | rfl | cases hf
  refine .congr (fun s _ => happly s) ?_
  match values with
  | [] => exact .congr (fun s _ => Operation.apply_of_select hf s []) (additive_select hf .none)
  | [v] => exact .congr (fun s _ => Operation.apply_of_select hf s [v]) (additive_select hf v)
  | _ :: _ :: _ => exact .congr (fun s _ => Operation.apply_of_select hf s _) .failing

variable {β : Type} (selector : String)

lemma additive_applySegment {segment : Segment}
    (hcall : ∀ call ∈ segment.call?, call.name ∈ pointwiseNames) :
    Additive home fun s =>
      (applySegment lib home (.builtin : Registry β) selector (.reached s) segment).outcome := by
  cases segment with
  | plain text position => exact Value.additive_query text
  | pseudo text position call =>
    have hname : call.name ∈ pointwiseNames := hcall call rfl
    obtain ⟨op, hop⟩ : ∃ op, builtins.lookup call.name = some op := by
      have hlookup : ∀ name ∈ pointwiseNames, (builtins.lookup name).isSome := by decide
      exact Option.isSome_iff_exists.mp (hlookup call.name hname)
    exact .congr (fun s _ => applySegment_builtin selector rfl hop)
      (additive_applyBuiltin hname hop (argumentValues call.arguments))

lemma additive_reach {ss : List Segment}
    (hcalls : ∀ segment ∈ ss, ∀ call ∈ segment.call?, call.name ∈ pointwiseNames) :
    Additive home fun s => reach lib home (.builtin : Registry β) selector (.reached s) ss := by
  induction ss with
  | nil => exact .identity
  | cons segment ss ih =>
    refine .congr (fun s _ => reach_cons lib home _ selector segment ss) (.bind ?_ ?_)
    · exact additive_applySegment selector (hcalls segment List.mem_cons_self)
    · exact ih fun s hs => hcalls s (List.mem_cons_of_mem segment hs)

lemma resolve_given {v : Value} {r : NodeSet} {ss : List Segment} (hs : segments selector = .ok ss)
    (hv : v ≠ .none) (h : v.nodeSet lib home = .ok r) :
    (resolve lib home (.builtin : Registry β) selector v).outcome =
      reach lib home (.builtin : Registry β) selector (.reached r) ss := by
  rw [resolve_outcome lib home _ _ hs, ← reach_given lib _ selector hv h ss]
  cases v with
  | none => exact absurd rfl hv
  | _ => rfl

/-- A selector whose calls look at each node by itself leads from a set to what it leads to from
the members of the set, one by one. -/
theorem resolve_additive (lib : Library) (home : Nat) (selector : String) (ss : List Segment)
    (hs : segments selector = .ok ss)
    (hcalls : ∀ segment ∈ ss, ∀ call ∈ segment.call?, call.name ∈ pointwiseNames)
    (s t : NodeSet)
    (h : (resolve lib home (.builtin : Registry β) selector (.set s)).outcome = .ok t) :
    (∀ n ∈ s.nodes, ∃ r,
      (resolve lib home (.builtin : Registry β) selector (.nodes [some n])).outcome = .ok r) ∧
    ∀ m, m ∈ t.nodes ↔ ∃ n ∈ s.nodes, ∃ r,
      (resolve lib home (.builtin : Registry β) selector (.nodes [some n])).outcome = .ok r ∧
        m ∈ r.nodes := by
  have hset : (resolve lib home (.builtin : Registry β) selector (.set s)).outcome =
      reach lib home (.builtin : Registry β) selector (.reached (.ofList home s.nodes)) ss :=
    resolve_given selector hs nofun rfl
  have hone (n : Node) :
      (resolve lib home (.builtin : Registry β) selector (.nodes [some n])).outcome =
        reach lib home (.builtin : Registry β) selector (.reached (.ofList home [n])) ss :=
    resolve_given selector hs nofun rfl
  rw [hset] at h
  simp only [hone]
  exact (additive_reach selector hcalls).members h

theorem resolve_additive_nested :
    let lib : Library := ⟨[⟨.html, [.element "div" [] [
      .element "p" [] [.element "b" [] [], .element "p" [] [.element "b" [] []]],
      .element "b" [] []]]⟩]⟩
    let registry : Registry Unit := .builtin
    let s : NodeSet := .ofList 0 [⟨0, [0, 0, 1]⟩, ⟨0, [0, 0]⟩]
    let segments : List Segment :=
      [.pseudo ":closest(div)" 0 ⟨"closest", [.word "div"]⟩, .plain "> b" 14]
    Selector.segments ":closest(div) > b" = .ok segments ∧
    (resolve lib 0 registry ":closest(div) > b" (.set s)).outcome.map NodeSet.nodes =
      .ok [⟨0, [0, 1]⟩] ∧
    ∀ m, m ∈ [⟨0, [0, 1]⟩] ↔ ∃ n ∈ s.nodes, ∃ r,
      (resolve lib 0 registry ":closest(div) > b" (.nodes [some n])).outcome = .ok r ∧
        m ∈ r.nodes := by
  intro lib registry s segments
  have hs : Selector.segments ":closest(div) > b" = .ok segments := by decide +kernel
  have hnodes : (resolve lib 0 registry ":closest(div) > b" (.set s)).outcome.map NodeSet.nodes =
      .ok [⟨0, [0, 1]⟩] := by decide +kernel
  have hcalls : ∀ segment ∈ segments, ∀ call ∈ segment.call?, call.name ∈ pointwiseNames := by
    decide
  obtain ⟨t, ht, hreached⟩ := exists_of_map hnodes
  refine ⟨hs, hnodes, ?_⟩
  rw [← hreached]
  exact (resolve_additive lib 0 ":closest(div) > b" segments hs hcalls s t ht).2

end Pseudo

end MarkupQuery
