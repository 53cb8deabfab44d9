import MarkupQuery.Extraction.Extractor
import MarkupQuery.Proofs.Nodes.Locality
import MarkupQuery.Proofs.Pseudo.Additivity
import MarkupQuery.Proofs.Pseudo.Direction

namespace MarkupQuery.Pseudo

open Selector Text

def localNames : List String :=
  ["next", "nextAll", "prev", "prevAll", "siblings", "children", "contents", "filter", "not",
    "has", "first", "last", "eq", "slice"]

variable {β : Type} {lib : Library} {home : Nat} {s t : NodeSet} {above : List Node}
  (selector : String)

lemma sideways_or_narrowing : ∀ name ∈ localNames, ∀ op ∈ builtins.lookup name,
    op ∈ [.next, .nextAll, .prev, .prevAll, .siblings, .children, .contents] ∨
      op ∈ [.filter, .exclude, .has, .first, .last, .eq, .slice] := by decide

lemma Operation.apply_within {op : Operation} {values : List Value} (hs : s.Within lib above)
    (hop : op ∈ [next, nextAll, prev, prevAll, siblings, children, contents])
    (h : op.apply lib s values = .ok t) : t.Within lib above := by
  cases op <;> simp only [List.mem_cons, reduceCtorEq, List.not_mem_nil, or_self] at hop
  case contents =>
    cases values with
    | nil =>
      obtain rfl := Except.ok.inj h
      exact hs.confined Library.confined_childNodes NodeSet.contents_subset
    | cons v values => cases h
  all_goals obtain ⟨v, hv⟩ := exists_of_apply_select rfl h
  case next =>
    exact hs.confined (Library.confined_followingElements.take 1) (NodeSet.derive_subset hv)
  case nextAll => exact hs.confined Library.confined_followingElements (NodeSet.derive_subset hv)
  case prev =>
    exact hs.confined (Library.confined_precedingElements.take 1) (NodeSet.derive_subset hv)
  case prevAll =>
    exact hs.confined Library.confined_precedingElements (NodeSet.deriveReversed_subset hv)
  case siblings => exact hs.confined Library.confined_siblingElements (NodeSet.derive_subset hv)
  case children =>
    exact hs.confined (Library.confined_childNodes.filter lib.isTag) (NodeSet.derive_subset hv)

lemma applySegment_within {segment : Segment}
    (hcall : ∀ call ∈ segment.call?, call.name ∈ localNames) (hhome : s.home = home)
    (hs : s.Within lib above)
    (h : (applySegment lib home (.builtin : Registry β) selector (.reached s) segment).outcome =
      .ok t) : t.Within lib above := by
  cases segment with
  | plain text position =>
    intro m hm
    obtain ⟨n, hn, hnm⟩ := Value.query_within hhome h m hm
    obtain ⟨a, ha, han⟩ := hs n hn
    exact ⟨a, ha, han.trans hnm⟩
  | pseudo text position call =>
    obtain ⟨op, r, hop, hr, ht⟩ := exists_of_applySegment_builtin selector h
    obtain rfl : s = r := Except.ok.inj hr
    obtain ⟨values, hvalues⟩ := exists_of_applyBuiltin ht
    rcases sideways_or_narrowing _ (hcall call rfl) op hop with hop | hop
    · exact Operation.apply_within hs hop hvalues
    · exact hs.of_subset (Operation.apply_sublist hop hvalues).subset

lemma reach_within {ss : List Segment}
    (hcalls : ∀ segment ∈ ss, ∀ call ∈ segment.call?, call.name ∈ localNames)
    (hhome : s.home = home) (hs : s.Within lib above)
    (h : reach lib home (.builtin : Registry β) selector (.reached s) ss = .ok t) :
    t.Within lib above := by
  obtain ⟨c, hc, h⟩ := exists_of_bind h
  have hstep : ∀ x ∈ ss, ∀ s t : NodeSet, s.home = home ∧ s.Within lib above →
      (applySegment lib home (.builtin : Registry β) selector (.reached s) x).outcome = .ok t →
        t.home = home ∧ t.Within lib above := fun x hx s t hs ht =>
    ⟨applySegment_home selector (Context.atHome_reached hs.1) ht,
      applySegment_within selector (hcalls x hx) hs.1 hs.2 ht⟩
  obtain ⟨r, rfl, -, hr⟩ := evaluate_keeps lib home _ selector hstep ⟨hhome, hs⟩ hc
  obtain rfl : r = t := Except.ok.inj h
  exact hr

lemma resolve_within {css : String} {position : Nat} {ss : List Segment} {v : Value}
    (hs : segments selector = .ok (.plain css position :: ss))
    (hcalls : ∀ segment ∈ ss, ∀ call ∈ segment.call?, call.name ∈ localNames)
    (hv : v ≠ .none) (hc : v.nodeSet lib home = .ok s)
    (h : (resolve lib home (.builtin : Registry β) selector v).outcome = .ok t) :
    t.Within lib s.nodes := by
  rw [resolve_given selector hs hv hc, reach_cons] at h
  obtain ⟨r, hr, h⟩ := exists_of_bind h
  have hquery : Value.query lib home (.text css) (.set s) = .ok r := hr
  have hwithin := Value.query_within (Value.nodeSet_home hc) hquery
  exact reach_within selector hcalls (Value.query_home hquery) hwithin h

/-- A selector that starts with a plain segment and has no other calls than local ones leads only
to nodes below those that are given. So a field that it describes is read from nodes below its
row. -/
theorem resolve_local (lib : Library) (home : Nat) (selector css : String) (position : Nat)
    (ss : List Segment) (hs : segments selector = .ok (.plain css position :: ss))
    (hcalls : ∀ segment ∈ ss, ∀ call ∈ segment.call?, call.name ∈ localNames) :
    (∀ (v : Value) (given t : NodeSet), v ≠ .none → v.nodeSet lib home = .ok given →
      (resolve lib home (.builtin : Registry β) selector v).outcome = .ok t →
        ∀ m ∈ t.nodes, ∃ n ∈ given.nodes, lib.Below n m) ∧
    ∀ (x : Extraction.Extractor β) (row : Node) (name : String) (field : String × String),
      x.registry = .builtin → (x.readField lib home row (name, selector)).outcome = .ok field →
        ∃ t : NodeSet, (resolve lib home x.registry selector (.node row)).outcome = .ok t ∧
          (∀ m ∈ t.nodes, lib.Below row m) ∧ field = (name, trimmed (t.text lib)) := by
  have hlocal : ∀ (v : Value) (given t : NodeSet), v ≠ .none → v.nodeSet lib home = .ok given →
      (resolve lib home (.builtin : Registry β) selector v).outcome = .ok t →
        t.Within lib given.nodes :=
    fun v given t hv hc ht => resolve_within selector hs hcalls hv hc ht
  refine ⟨hlocal, fun x row name field hx h => ?_⟩
  rw [Extraction.Extractor.readField, hx, Traced.outcome_bind] at h
  obtain ⟨t, ht, hfield⟩ := exists_of_bind h
  have hwithin := hlocal (.node row) (.ofList home [row]) t nofun rfl ht
  refine ⟨t, hx ▸ ht, fun m hm => ?_, (Except.ok.inj hfield).symm⟩
  obtain ⟨n, hn, hbelow⟩ := hwithin m hm
  obtain rfl := List.mem_singleton.mp (NodeSet.mem_ofList.mp hn)
  exact hbelow

theorem resolve_local_siblings :
    let lib : Library := ⟨[⟨.html, [
      .element "tr" [] [.element "th" [] [.text "m"], .element "td" [] []],
      .element "tr" [] [.element "th" [] [.text "n"]]]⟩]⟩
    let registry : Registry Unit := .builtin
    let ss : List Segment := [.pseudo ":siblings" 4 ⟨"siblings", []⟩,
      .pseudo ":contents" 13 ⟨"contents", []⟩]
    let row : Node := ⟨0, [0]⟩
    let given : NodeSet := .ofList 0 [row]
    segments "> td:siblings:contents" = .ok (.plain "> td" 0 :: ss) ∧
    (∀ segment ∈ ss, ∀ call ∈ segment.call?, call.name ∈ localNames) ∧
    (Value.node row).nodeSet lib 0 = .ok given ∧
    ∃ t, (resolve lib 0 registry "> td:siblings:contents" (.node row)).outcome = .ok t ∧
      t.nodes = [⟨0, [0, 0, 0]⟩] ∧
      ∀ m ∈ t.nodes, ∃ n ∈ given.nodes, lib.Below n m := by
  intro lib registry ss row given
  have hs : segments "> td:siblings:contents" = .ok (.plain "> td" 0 :: ss) := by decide +kernel
  have hcalls : ∀ segment ∈ ss, ∀ call ∈ segment.call?, call.name ∈ localNames := by decide
  have hnodes : (resolve lib 0 registry "> td:siblings:contents" (.node row)).outcome.map
      NodeSet.nodes = .ok [⟨0, [0, 0, 0]⟩] := by decide +kernel
  obtain ⟨t, ht, hreached⟩ := exists_of_map hnodes
  refine ⟨hs, hcalls, rfl, t, ht, hreached, ?_⟩
  exact (resolve_local lib 0 _ _ _ ss hs hcalls).1 (.node row) given t nofun rfl ht

end MarkupQuery.Pseudo
