import MarkupQuery.Proofs.Nodes.Filtered

namespace MarkupQuery

variable {α : Type} {lib : Library} {home : Nat} {s t u : NodeSet} {v : Value} {ns : List Node}
  {m n x y : Node}

lemma firsts_sublist [DecidableEq α] (as : List α) : (firsts as).Sublist as := by
  induction as with
  | nil => exact List.Sublist.refl _
  | cons a as ih => exact (List.filter_sublist.trans ih).cons_cons a

section tests

variable {β : Type} {test : α → Except Fault Bool} {a : α} {as : List α}

lemma firstKept?_of_keep {kept : List α} (h : keep test as = .ok kept) :
    firstKept? test as = .ok kept.head? := by
  induction as generalizing kept with
  | nil =>
    obtain rfl := Except.ok.inj h
    rfl
  | cons c as ih =>
    obtain ⟨b, rest, hb, hrest, rfl⟩ := exists_of_keep_cons h
    cases b with
    | true => simp [firstKept?, hb]
    | false => simp [firstKept?, hb, ih hrest]

lemma firstKept?_eq_none_iff :
    firstKept? test as = .ok none ↔ ∀ a ∈ as, test a = .ok false := by
  induction as with
  | nil => simp [firstKept?]
  | cons c as ih =>
    rw [firstKept?, List.forall_mem_cons, ← ih]
    cases test c with
    | error fault => simp
    | ok b => cases b <;> simp

lemma firstKept?_eq_some_iff : firstKept? test as = .ok (some a) ↔
    ∃ before after, as = before ++ a :: after ∧ (∀ b ∈ before, test b = .ok false) ∧
      test a = .ok true := by
  induction as with
  | nil => simp [firstKept?]
  | cons c as ih =>
    constructor
    · intro h
      rw [firstKept?] at h
      split at h
      · cases h
      · next hc =>
        obtain rfl := Option.some.inj (Except.ok.inj h)
        exact ⟨[], as, rfl, List.forall_mem_nil _, hc⟩
      · next hc =>
        obtain ⟨before, after, rfl, hbefore, ha⟩ := ih.mp h
        exact ⟨c :: before, after, rfl, List.forall_mem_cons.mpr ⟨hc, hbefore⟩, ha⟩
    · rintro ⟨before, after, has, hbefore, ha⟩
      cases before with
      | nil =>
        obtain ⟨rfl, rfl⟩ := List.cons.inj has
        rw [firstKept?, ha]
      | cons b before =>
        obtain ⟨rfl, rfl⟩ := List.cons.inj has
        obtain ⟨hc, hbefore⟩ := List.forall_mem_cons.mp hbefore
        rw [firstKept?, hc]
        exact ih.mpr ⟨before, after, rfl, hbefore, ha⟩

lemma length_collect_le {step : α → Except Fault (Option β)} {bs : List β}
    (h : collect step as = .ok bs) : bs.length ≤ as.length := by
  induction as generalizing bs with
  | nil =>
    obtain rfl := Except.ok.inj h
    exact Nat.le_refl 0
  | cons a as ih =>
    obtain ⟨found, rest, -, hrest, rfl⟩ := exists_of_collect_cons h
    have hle := ih hrest
    have hfound : found.toList.length ≤ 1 := by cases found <;> simp
    rw [List.length_append, List.length_cons]
    omega

end tests

namespace Node

def IsAtOrAbove (a n : Node) : Prop := a = n ∨ a.isAncestorOf n = true

end Node

namespace Library

structure IsNearest (lib : Library) (home : Nat) (v : Value) (n x : Node) : Prop where
  start : lib.isElement n = true
  element : lib.isElement x = true
  above : x.IsAtOrAbove n
  admitted : v.admits lib home x = .ok true
  nearest (y : Node) : lib.isElement y = true → y.IsAtOrAbove n →
    v.admits lib home y = .ok true → ¬ x.isAncestorOf y = true

lemma mem_inclusiveAncestors : m ∈ lib.inclusiveAncestors n ↔
    lib.isElement n = true ∧ lib.isElement m = true ∧ m.IsAtOrAbove n := by
  rw [inclusiveAncestors]
  split
  · next hn =>
    rw [List.mem_cons, ancestorElements, List.mem_filter, Node.mem_ancestors, Node.IsAtOrAbove]
    constructor
    · rintro (rfl | ⟨habove, hm⟩)
      · exact ⟨hn, hn, .inl rfl⟩
      · exact ⟨hn, hm, .inr habove⟩
    · rintro ⟨-, hm, rfl | habove⟩
      · exact .inl rfl
      · exact .inr ⟨habove, hm⟩
  · next hn => exact ⟨fun h => absurd h List.not_mem_nil, fun h => absurd h.1 hn⟩

lemma pairwise_inclusiveAncestors :
    (lib.inclusiveAncestors n).Pairwise fun a b => b.isAncestorOf a = true := by
  rw [inclusiveAncestors]
  split
  · refine List.pairwise_cons.mpr ⟨fun b hb => ?_, Node.pairwise_ancestors.filter _⟩
    exact Node.mem_ancestors.mp (List.mem_filter.mp hb).1
  · exact List.Pairwise.nil

lemma firstKept?_inclusiveAncestors {found : Option Node}
    (h : firstKept? (v.admits lib home) (lib.inclusiveAncestors n) = .ok found) :
    found = some x ↔ lib.IsNearest home v n x := by
  have hpair : (lib.inclusiveAncestors n).Pairwise _ := pairwise_inclusiveAncestors
  constructor
  · rintro rfl
    obtain ⟨before, after, hsplit, hbefore, hx⟩ := firstKept?_eq_some_iff.mp h
    have hmem : x ∈ lib.inclusiveAncestors n :=
      hsplit ▸ List.mem_append_right before List.mem_cons_self
    obtain ⟨hn, he, habove⟩ := mem_inclusiveAncestors.mp hmem
    rw [hsplit] at hpair
    obtain ⟨-, hafter, -⟩ := List.pairwise_append.mp hpair
    refine ⟨hn, he, habove, hx, fun y hy hyn hadmits hxy => ?_⟩
    -- What is below `x` was asked before it and refused.
    have hmem : y ∈ before ++ x :: after := hsplit ▸ mem_inclusiveAncestors.mpr ⟨hn, hy, hyn⟩
    rcases List.mem_append.mp hmem with hmem | hmem
    · rw [hbefore y hmem] at hadmits
      cases hadmits
    · rcases List.mem_cons.mp hmem with rfl | hmem
      · exact Node.not_isAncestorOf_self hxy
      · have hyx := (List.pairwise_cons.mp hafter).1 y hmem
        exact Node.not_isAncestorOf_self (Node.isAncestorOf_trans hxy hyx)
  · rintro ⟨hn, he, habove, hx, hnearest⟩
    have hmem : x ∈ lib.inclusiveAncestors n := mem_inclusiveAncestors.mpr ⟨hn, he, habove⟩
    cases found with
    | none =>
      rw [firstKept?_eq_none_iff.mp h x hmem] at hx
      cases hx
    | some y =>
      obtain ⟨before, after, hsplit, hbefore, hy⟩ := firstKept?_eq_some_iff.mp h
      have hmemy : y ∈ lib.inclusiveAncestors n :=
        hsplit ▸ List.mem_append_right before List.mem_cons_self
      obtain ⟨-, hey, hyn⟩ := mem_inclusiveAncestors.mp hmemy
      rw [hsplit] at hpair hmem
      obtain ⟨-, hafter, -⟩ := List.pairwise_append.mp hpair
      rcases List.mem_append.mp hmem with hmem | hmem
      · rw [hbefore x hmem] at hx
        cases hx
      · rcases List.mem_cons.mp hmem with rfl | hmem
        · rfl
        · exact absurd ((List.pairwise_cons.mp hafter).1 x hmem) (hnearest y hey hyn hy)

end Library

namespace NodeSet

lemma mem_closest (hv : v ≠ .none) (h : s.closest lib v = .ok t) :
    x ∈ t.nodes ↔ ∃ n ∈ s.nodes, lib.IsNearest s.home v n x := by
  rw [closest_of_given hv] at h
  obtain ⟨found, hfound, rfl⟩ := exists_of_map h
  rw [mem_ofList_sorted, mem_collect hfound]
  refine exists_congr fun n => and_congr_right fun hn => ?_
  obtain ⟨o, ho⟩ := exists_collect_iff.mp ⟨found, hfound⟩ n hn
  rw [← Library.firstKept?_inclusiveAncestors ho, ho, Except.ok.injEq]

lemma exists_closest (hv : v ≠ .none)
    (h : ∀ n ∈ s.nodes, ∀ m ∈ lib.inclusiveAncestors n, ∃ b, v.admits lib s.home m = .ok b) :
    ∃ t, s.closest lib v = .ok t := by
  obtain ⟨found, hfound⟩ := exists_collect_iff.mpr fun n hn => by
    obtain ⟨kept, hkept⟩ := exists_keep_iff.mpr (h n hn)
    exact ⟨_, firstKept?_of_keep hkept⟩
  exact ⟨_, by rw [closest_of_given hv, hfound, Except.map]⟩

lemma size_closest_le (hv : v ≠ .none) (h : s.closest lib v = .ok t) : t.size ≤ s.size := by
  rw [closest_of_given hv] at h
  obtain ⟨found, hfound, rfl⟩ := exists_of_map h
  calc (ofList s.home (sorted s.home found)).size
      ≤ (sorted s.home found).length := (firsts_sublist _).length_le
    _ = (firsts found).length := (sorted_perm s.home found).length_eq
    _ ≤ found.length := (firsts_sublist _).length_le
    _ ≤ s.nodes.length := length_collect_le hfound

lemma sorted_toList (home : Nat) (o : Option Node) : sorted home o.toList = o.toList := by
  cases o with
  | none => simp [sorted, firsts]
  | some n =>
    by_cases hn : n.document = home <;> simp [sorted, firsts, hn]

lemma closest_single (hv : v ≠ .none) {o : Option Node}
    (h : firstKept? (v.admits lib home) (lib.inclusiveAncestors n) = .ok o) :
    (ofList home [n]).closest lib v = .ok (ofList home o.toList) := by
  have hnodes : (ofList home [n]).nodes = [n] := firsts_eq_self (List.nodup_singleton n)
  have hstep : firstKept? (v.admits lib (ofList home [n]).home) (lib.inclusiveAncestors n) =
      .ok o := h
  rw [closest_of_given hv, hnodes, collect, hstep, collect]
  change Except.ok (ofList home (sorted home (o.toList ++ []))) = _
  rw [List.append_nil, sorted_toList]

lemma parents_single (hn : n.document = home) {kept : List Node}
    (hkept : keep (v.admits lib home) (lib.ancestorElements n) = .ok kept) :
    (ofList home [n]).parents lib v = .ok (ofList home kept) := by
  have hpair : (lib.ancestorElements n).Pairwise fun a b => b.Before a :=
    (Node.pairwise_ancestors.imp Node.before_of_isAncestorOf).filter _
  have hnodup : (lib.ancestorElements n).Nodup := hpair.imp fun h he => by
    subst he
    exact h.asymm h
  have hnodes : (ofList home [n]).nodes = [n] := firsts_eq_self (List.nodup_singleton n)
  have hstep : firsts ((ofList home [n]).nodes.flatMap lib.ancestorElements) =
      lib.ancestorElements n := by
    rw [hnodes, List.flatMap_singleton, firsts_eq_self hnodup]
  -- Sorting and reversing what is in reverse document order already changes nothing.
  have hsorted : (sorted home kept).reverse = kept := by
    have hsub := keep_sublist hkept
    have hpre : kept ⊆ lib.preorder home := fun m hm => by
      obtain ⟨hdoc, he⟩ := Library.finds_ancestorElements n m (hsub.subset hm)
      exact Library.mem_preorder_of_isElement (hdoc.trans hn) he
    rw [List.reverse_eq_iff]
    refine Library.eq_of_sublist_preorder (sorted_sublist_preorder hpre) ?_ fun m => ?_
    · refine Library.sublist_preorder (fun m hm => hpre (List.mem_reverse.mp hm)) ?_
      exact List.pairwise_reverse.mpr (hpair.sublist hsub)
    · rw [mem_sorted, List.mem_reverse]
  rw [parents, deriveReversed, hstep]
  exact (congrArg (Except.map _) hkept).trans (congrArg (Except.ok ∘ ofList home) hsorted)

lemma closest_single_of_refused (hv : v ≠ .none) (hn : n.document = home)
    (he : lib.isElement n = true) (hrefused : v.admits lib home n = .ok false)
    (htests : ∀ m ∈ lib.inclusiveAncestors n, ∃ b, v.admits lib home m = .ok b) :
    ∃ u, (ofList home [n]).parents lib v = .ok u ∧
      (ofList home [n]).closest lib v = .ok u.first := by
  have hclimb : lib.inclusiveAncestors n = n :: lib.ancestorElements n := by
    rw [Library.inclusiveAncestors, if_pos he]
  obtain ⟨kept, hkept⟩ := exists_keep_iff.mpr fun m hm =>
    htests m (hclimb ▸ List.mem_cons_of_mem n hm)
  have hfound : firstKept? (v.admits lib home) (lib.inclusiveAncestors n) = .ok kept.head? := by
    rw [hclimb, firstKept?, hrefused]
    exact firstKept?_of_keep hkept
  have hhead : (firsts kept).take 1 = kept.head?.toList := by
    cases kept <;> rfl
  refine ⟨_, parents_single hn hkept, ?_⟩
  rw [closest_single hv hfound, first, ← hhead]
  rfl

/-- Where no test fails, `closest` leads to the nearest admitted element of each member that is an
element, in document order. From one element it is the element itself, or else the first of its
parents that are admitted. -/
theorem closest_nearest (lib : Library) (s : NodeSet) (v : Value) (hv : v ≠ .none)
    (hs : ∀ n ∈ s.nodes, n.document = s.home)
    (htests : ∀ n ∈ s.nodes, ∀ m ∈ lib.inclusiveAncestors n,
      ∃ b, v.admits lib s.home m = .ok b) :
    ∃ t, s.closest lib v = .ok t ∧
      (∀ x, x ∈ t.nodes ↔ ∃ n ∈ s.nodes, lib.IsNearest s.home v n x) ∧
      t.nodes.Sublist (lib.preorder s.home) ∧ t.size ≤ s.size ∧
      ∀ n ∈ s.nodes, lib.isElement n = true →
        (v.admits lib s.home n = .ok true →
          (ofList s.home [n]).closest lib v = .ok (ofList s.home [n])) ∧
        (v.admits lib s.home n = .ok false → ∃ u, (ofList s.home [n]).parents lib v = .ok u ∧
          (ofList s.home [n]).closest lib v = .ok u.first) := by
  obtain ⟨t, ht⟩ := exists_closest hv htests
  refine ⟨t, ht, fun x => mem_closest hv ht, (closest_directed rfl hs ht).1,
    size_closest_le hv ht, fun n hn he => ⟨fun hadmits => ?_, fun hrefused => ?_⟩⟩
  · refine closest_single (o := some n) hv ?_
    rw [Library.inclusiveAncestors, if_pos he, firstKept?, hadmits]
  · exact closest_single_of_refused hv (hs n hn) he hrefused (htests n hn)

theorem closest_nearest_shared :
    let lib : Library := ⟨[⟨.html, [.element "div" [] [.element "p" [] [.element "q" [] []],
      .element "p" [] [], .text "p"]]⟩]⟩
    let s : NodeSet :=
      .ofList 0 [⟨0, [0, 0, 0]⟩, ⟨0, [0, 1]⟩, ⟨0, [0]⟩, ⟨0, [0, 2]⟩, Node.root 0]
    ∃ t, s.closest lib (.text "div") = .ok t ∧ t.nodes = [⟨0, [0]⟩] ∧
      (∃ n ∈ s.nodes, lib.IsNearest 0 (.text "div") n ⟨0, [0]⟩) ∧
      (ofList 0 [⟨0, [0]⟩]).closest lib (.text "div") = .ok (ofList 0 [⟨0, [0]⟩]) ∧
      ∃ u, (ofList 0 [⟨0, [0, 0, 0]⟩]).parents lib (.text "div") = .ok u ∧
        (ofList 0 [⟨0, [0, 0, 0]⟩]).closest lib (.text "div") = .ok u.first := by
  intro lib s
  obtain ⟨t, ht, hnearest, -, -, hsingle⟩ :=
    closest_nearest lib s (.text "div") (by simp) (by decide +kernel) (by decide +kernel)
  have hnodes : (s.closest lib (.text "div")).map NodeSet.nodes = .ok [⟨0, [0]⟩] := by
    decide +kernel
  rw [ht] at hnodes
  have hnodes : t.nodes = [⟨0, [0]⟩] := Except.ok.inj hnodes
  refine ⟨t, ht, hnodes, (hnearest ⟨0, [0]⟩).mp (by simp [hnodes]), ?_, ?_⟩
  · exact (hsingle ⟨0, [0]⟩ (by decide) (by decide +kernel)).1 (by decide +kernel)
  · exact (hsingle ⟨0, [0, 0, 0]⟩ (by decide) (by decide +kernel)).2 (by decide +kernel)

end NodeSet

end MarkupQuery
