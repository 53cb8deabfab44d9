import MarkupQuery.Proofs.Nodes.Canonical
import MarkupQuery.Proofs.Nodes.Kinship

namespace MarkupQuery

open Pseudo

variable {α : Type} {lib : Library} {home : Nat} {s t u : NodeSet} {v : Value} {ns : List Node}
  {step : Node → List Node} {m n : Node}

lemma keep_eq_ok_iff {test : α → Except Fault Bool} {as kept : List α} :
    keep test as = .ok kept ↔
      (∀ a ∈ as, ∃ b, test a = .ok b) ∧ kept = as.filter fun a => test a = .ok true := by
  have hkeep (h : ∀ a ∈ as, ∃ b, test a = .ok b) :
      keep test as = .ok (as.filter fun a => test a = .ok true) := by
    refine keep_eq_filter fun a ha => ?_
    obtain ⟨b, hb⟩ := h a ha
    cases b <;> simp [hb]
  constructor
  · intro h
    have htests := exists_keep_iff.mp ⟨kept, h⟩
    exact ⟨htests, Except.ok.inj (h.symm.trans (hkeep htests))⟩
  · rintro ⟨htests, rfl⟩
    exact hkeep htests

namespace NodeSet

lemma filter_ofList (hv : v ≠ .none) (hns : ns.Nodup) :
    (ofList home ns).filter lib v = (keep (v.admits lib home) ns).map (ofList home) := by
  have hnodes : (ofList home ns).nodes = ns := firsts_eq_self hns
  rw [filter_of_given hv, hnodes]
  rfl

lemma arrange_keep_iff (arrange : List Node → List Node) (hv : v ≠ .none)
    (hperm : ∀ ms, (arrange ms).Perm (firsts ms))
    (hfilter : ∀ p ms, arrange (ms.filter p) = (arrange ms).filter p) :
    (keep (v.admits lib home) (firsts ns)).map (fun kept => ofList home (arrange kept)) = .ok u ↔
      (ofList home (arrange (firsts ns))).filter lib v = .ok u := by
  have harranged : (arrange (firsts ns)).Perm (firsts ns) := by
    have h := hperm (firsts ns)
    rwa [firsts_eq_self (nodup_firsts ns)] at h
  rw [filter_ofList hv (harranged.nodup_iff.mpr (nodup_firsts ns))]
  constructor
  · intro h
    obtain ⟨kept, hkept, rfl⟩ := exists_of_map h
    obtain ⟨htests, rfl⟩ := keep_eq_ok_iff.mp hkept
    rw [hfilter, keep_eq_ok_iff.mpr ⟨fun n hn => htests n (harranged.subset hn), rfl⟩]
    rfl
  · intro h
    obtain ⟨kept, hkept, rfl⟩ := exists_of_map h
    obtain ⟨htests, rfl⟩ := keep_eq_ok_iff.mp hkept
    rw [keep_eq_ok_iff.mpr ⟨fun n hn => htests n (harranged.symm.subset hn), rfl⟩, ← hfilter]
    rfl

lemma derive_iff_filter (hv : v ≠ .none) (h : s.derive lib step .none = .ok t) :
    s.derive lib step v = .ok u ↔ t.filter lib v = .ok u := by
  rw [derive, keep_admits_none] at h
  obtain rfl := Except.ok.inj h
  exact arrange_keep_iff (sorted s.home) hv (sorted_perm s.home) (sorted_filter s.home)

lemma deriveReversed_iff_filter (hv : v ≠ .none) (h : s.deriveReversed lib step .none = .ok t) :
    s.deriveReversed lib step v = .ok u ↔ t.filter lib v = .ok u := by
  rw [deriveReversed, keep_admits_none] at h
  obtain rfl := Except.ok.inj h
  refine arrange_keep_iff (fun ns => (sorted s.home ns).reverse) hv
    (fun ms => (List.reverse_perm _).trans (sorted_perm s.home ms)) fun p ms => ?_
  rw [sorted_filter, List.filter_reverse]

lemma mem_of_filter (hv : v ≠ .none) (h : t.filter lib v = .ok u) :
    m ∈ u.nodes ↔ m ∈ t.nodes ∧ v.admits lib t.home m = .ok true := by
  rw [filter_of_given hv] at h
  obtain ⟨kept, hkept, rfl⟩ := exists_of_map h
  rw [mem_ofList, mem_keep hkept]

end NodeSet

lemma exists_error_congr {r r' : Except Fault α} (h : ∀ a, r = .ok a ↔ r' = .ok a) :
    (∃ fault, r = .error fault) ↔ ∃ fault, r' = .error fault := by
  cases r with
  | error fault =>
    cases r' with
    | error fault' => simp
    | ok a => exact absurd ((h a).mpr rfl) nofun
  | ok a =>
    rw [(h a).mp rfl]

namespace Kinship

variable {k : Kinship}

lemma apply_iff_filter (hk : k ≠ .content) (hv : v ≠ .none)
    (h : k.operation.apply lib s [] = .ok t) :
    k.operation.apply lib s [v] = .ok u ↔ t.filter lib v = .ok u := by
  cases k with
  | content => exact absurd rfl hk
  | ancestor | earlier => exact NodeSet.deriveReversed_iff_filter hv h
  | _ => exact NodeSet.derive_iff_filter hv h

/-- A step with a selector and the same step filtered by the selector afterwards lead to the same
nodes in the same order, and one fails when the other does. So the selector is asked of the nodes of
the kinship and of no others: of siblings next to a node no later one is looked for. -/
theorem apply_eq_filter (lib : Library) (s : NodeSet) (k : Kinship) (hk : k ≠ .content)
    (v : Value) (hv : v ≠ .none) :
    ∃ t, k.operation.apply lib s [] = .ok t ∧
      (∀ u, k.operation.apply lib s [v] = .ok u ↔ t.filter lib v = .ok u) ∧
      ((∃ fault, k.operation.apply lib s [v] = .error fault) ↔
        ∃ fault, t.filter lib v = .error fault) ∧
      ∀ u, k.operation.apply lib s [v] = .ok u → ∀ m, m ∈ u.nodes ↔
        (∃ n ∈ s.nodes, lib.Related k n m) ∧ v.admits lib s.home m = .ok true := by
  obtain ⟨t, ht, hmem⟩ := exists_apply lib k s
  have hfilter (u : NodeSet) := apply_iff_filter (u := u) hk hv ht
  refine ⟨t, ht, hfilter, exists_error_congr hfilter, fun u hu m => ?_⟩
  rw [NodeSet.mem_of_filter hv ((hfilter u).mp hu), hmem, Operation.apply_home ht]

theorem apply_eq_filter_earlier :
    let lib : Library := ⟨[⟨.html, [.element "div" [] [.element "p" [] [], .element "p" [] [],
      .text "p", .element "q" [] [], .element "p" [] []]]⟩]⟩
    let s : NodeSet := .ofList 0 [⟨0, [0, 4]⟩]
    (∃ t u, Operation.prev.apply lib s [] = .ok t ∧ t.nodes = [⟨0, [0, 3]⟩] ∧
      Operation.prev.apply lib s [.text "p"] = .ok u ∧ t.filter lib (.text "p") = .ok u ∧
      u.nodes = []) ∧
    ∃ t u, Operation.prevAll.apply lib s [] = .ok t ∧
      Operation.prevAll.apply lib s [.text "p"] = .ok u ∧ t.filter lib (.text "p") = .ok u ∧
      u.nodes = [⟨0, [0, 1]⟩, ⟨0, [0, 0]⟩] := by
  intro lib s
  constructor
  · obtain ⟨t, (ht : Operation.prev.apply lib s [] = .ok t), hfilter, -, -⟩ :=
      apply_eq_filter lib s .previous (by decide) (.text "p") (by simp)
    have hall : (Operation.prev.apply lib s []).map NodeSet.nodes = .ok [⟨0, [0, 3]⟩] := by
      decide +kernel
    have hkept : (Operation.prev.apply lib s [.text "p"]).map NodeSet.nodes = .ok [] := by
      decide +kernel
    rw [ht] at hall
    obtain ⟨u, hu, hnodes⟩ := exists_of_map hkept
    exact ⟨t, u, ht, Except.ok.inj hall, hu, (hfilter u).mp hu, hnodes⟩
  · obtain ⟨t, (ht : Operation.prevAll.apply lib s [] = .ok t), hfilter, -, -⟩ :=
      apply_eq_filter lib s .earlier (by decide) (.text "p") (by simp)
    have hkept : keep ((Value.text "p").admits lib 0)
        (firsts (s.nodes.flatMap lib.precedingElements)) =
          .ok [⟨0, [0, 1]⟩, ⟨0, [0, 0]⟩] := by decide +kernel
    have hsorted : NodeSet.sorted 0 [⟨0, [0, 1]⟩, ⟨0, [0, 0]⟩] =
        [⟨0, [0, 0]⟩, ⟨0, [0, 1]⟩] := by
      simp [NodeSet.sorted, firsts, List.mergeSort, Node.pathLe]
    have hu : Operation.prevAll.apply lib s [.text "p"] =
        .ok (.ofList 0 [⟨0, [0, 1]⟩, ⟨0, [0, 0]⟩]) := by
      change (keep ((Value.text "p").admits lib 0)
        (firsts (s.nodes.flatMap lib.precedingElements))).map _ = _
      rw [hkept]
      exact congrArg (fun ns : List Node => Except.ok (NodeSet.ofList 0 ns.reverse)) hsorted
    exact ⟨t, _, ht, hu, (hfilter _).mp hu, rfl⟩

end Kinship

end MarkupQuery
